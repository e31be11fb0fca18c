import GamespyEmulator.Sessions.Operations

/-!
The stats client of `stats.client.cpp`, one packet at a time. A packet is the text its
reader yields, terminator included; what is sent is kept as it is before `gs_xor`.
-/

namespace GamespyEmulator

open Wire Coroutine Utils

/-! ### Challenges -/

/-- The decimal numeral of a `std::int32_t`. -/
def signedText (number : Int32) : Bytes :=
  if number < 0 then 45 :: Numeral.decimal number.toInt.natAbs
  else Numeral.decimal number.toInt.natAbs

/-- The lower-case hexadecimal digits of a number. -/
def hexLower (number : Nat) : Bytes :=
  (Numeral.hexUpper number).map fun c => if 65 ≤ c ∧ c ≤ 70 then c + 32 else c

/-- `std::format("{:08x}", challenge)`: the sign comes before the padding. -/
def hex8 (challenge : Int32) : Bytes :=
  let digits := hexLower challenge.toInt.natAbs
  if challenge < 0 then 45 :: (List.replicate (7 - digits.length) 48 ++ digits)
  else List.replicate (8 - digits.length) 48 ++ digits

/-- `CHALLENGEXOR`. -/
def challengeXor : Int32 := 0x38F371E6

/-- `create_challenge`. -/
def createChallenge (challenge : Int32) : Bytes :=
  (hex8 challenge).zipIdx.map fun (c, i) => c + (65 - 48) + UInt8.ofNat i

/-- `g_crc32`, over characters that are signed. -/
def gCrc32 (str : Bytes) : Int32 := str.foldl (fun hash c => hash * -1664117991 + c.toInt8.toInt32) 0

/-- `m_SessionKey` from the clock. -/
def sessionKey (time : Int) : Int32 :=
  let key := Int32.ofInt time
  if key < 0 then -key else key

/-! ### Snapshots -/

/-- What stands for a backslash in the game data. -/
def escaped : UInt8 := 1

/-- The arguments of `HandeSnapshot` that `Process` takes from an `\updgame\` packet. -/
def snapshotArguments (packet : Bytes) : Option (Bytes × Bool) :=
  (valueForKey packet (ascii "\\gamedata\\")).map fun gamedata =>
    (gamedata.map fun c => if c = escaped then Utils.backslash else c,
      decide (numberForKey packet (ascii "\\done\\") = some 1))

namespace StatsClient

/-- `StatsClient::SendPacket`. -/
def sendPacket (message : Bytes) : Awaitable Unit := asyncSend (.text message)

/-- `StatsClient::HandeSnapshot`; `final` is not used. -/
def handeSnapshot (snapshotEndpoint : Option Endpoint) (data : Bytes) (_final : Bool) :
    Awaitable Unit :=
  match snapshotEndpoint with
  | none => return ()
  | some endpoint => do
      let _ ← @perform sessions (.connect endpoint)
      let _ ← @perform sessions (.write data)
      @perform sessions .read

section Process

variable (snapshotEndpoint : Option Endpoint) (key : Int32) (packet : Bytes)

/-- The reply to `\authp\` with a profile id. -/
def authReply (pid : UInt32) (localID : Bytes) (resp : Option Bytes) : Awaitable Unit := do
  let player ← PlayerDBMySQL.Suspending.getPlayerByPID pid.toUInt64
  let refused := ascii "\\pauthr\\-1\\lid\\" ++ localID
  match player, resp with
  | some player, some resp =>
      if resp = Md5.md5 (player.password ++ createChallenge (key ^^^ challengeXor)) then
        sendPacket (ascii "\\pauthr\\" ++ text player.id.toNat ++ ascii "\\lid\\" ++ localID)
      else sendPacket refused
  | _, _ => sendPacket refused

/-- The `\authp\` branch of `Process`. -/
def authp : Awaitable Unit :=
  match valueForKey packet (ascii "\\lid\\") with
  | none => sendPacket (ascii "\\error\\\\err\\0\\fatal\\\\errmsg\\missing lid parameter\\id\\1")
  | some localID =>
      if localID.isEmpty then
        sendPacket (ascii "\\error\\\\err\\0\\fatal\\\\errmsg\\missing lid parameter\\id\\1")
      else if (valueForKey packet (ascii "\\authtoken\\")).isSome then return ()
      else match numberForKey packet (ascii "\\pid\\") with
        | none => return ()
        | some pid => authReply key pid localID (valueForKey packet (ascii "\\resp\\"))

/-- One turn of the loop of `StatsClient::Process`. -/
def process : Awaitable Unit :=
  if (ascii "\\getpid\\").isPrefixOf packet then return ()
  else if (ascii "\\getpd\\").isPrefixOf packet then return ()
  else if (ascii "\\authp\\").isPrefixOf packet then authp key packet
  else if (ascii "\\setpd\\").isPrefixOf packet then return ()
  else if (ascii "\\updgame\\").isPrefixOf packet then
    match snapshotArguments packet with
    | none => return ()
    | some (gamedata, final) => handeSnapshot snapshotEndpoint gamedata final
  else return ()

end Process

/-! ### Authentication -/

/-- What `Authenticate` sends first. -/
def sendChallenge (serverChallenge : Bytes) : Awaitable Unit :=
  sendPacket (ascii "\\lc\\1\\challenge\\" ++ serverChallenge ++ ascii "\\id\\1")

/-- `StatsClient::Authenticate` behind its challenge: the session key, or none when the
session is over. -/
def authenticate (serverChallenge packet : Bytes) : Awaitable (Option Int32) :=
  if ¬ (ascii "\\auth\\").isPrefixOf packet then return none
  else match valueForKey packet (ascii "\\gamename\\") with
    | none => return none
    | some gamename =>
        if gamename.isEmpty then return none
        else .look fun emulator => match emulator.games[gamename]? with
          | none => do
              sendPacket (ascii "\\error\\\\err\\0\\fatal\\\\errmsg\\Unknown Game!\\id\\1")
              return none
          | some game =>
              if valueForKey packet (ascii "\\response\\") ≠
                  some (Md5.md5 (signedText (gCrc32 serverChallenge) ++ game.data.secretKey)) then do
                sendPacket (ascii "\\error\\\\err\\0\\fatal\\\\errmsg\\Invalid Response!\\id\\1")
                return none
              else do
                let key := sessionKey emulator.time
                sendPacket (ascii "\\lc\\2\\sesskey\\" ++ signedText key ++ ascii "\\proof\\0\\id\\1")
                return some key

end StatsClient

end GamespyEmulator
