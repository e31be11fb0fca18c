import GamespyEmulator.Md5
import GamespyEmulator.Player.DB
import GamespyEmulator.Player.Password

/-!
A login connection: the text packets of `utils.cpp`, and `LoginClient` of
`gpcm.client.cpp` over `PlayerDBSQLite`. A handler runs to its end before the next
packet is read. A reply that cannot be sent, and text that is no base64, end the
connection with an exception. Between packets other connections change the player
table.
-/

namespace GamespyEmulator

open Wire

namespace Utils

/-! ### Text packets -/

def backslash : UInt8 := 92

/-- What follows the first occurrence of a key. -/
def afterFirst (key : Bytes) : Bytes → Option Bytes
  | [] => if key.isEmpty then some [] else none
  | c :: rest =>
      if key.isPrefixOf (c :: rest) then some ((c :: rest).drop key.length)
      else afterFirst key rest

/-- `value_for_key`: the text behind a key, up to the key's first character or a NUL,
one of which must come. -/
def valueForKey (packet key : Bytes) : Option Bytes :=
  (afterFirst key packet).bind fun rest =>
    let value := rest.takeWhile fun c => c ≠ key.headD 0 ∧ c ≠ 0
    if value.length = rest.length then none else some value

/-- `value_for_key<std::uint32_t>`. -/
def numberForKey (packet key : Bytes) : Option UInt32 :=
  (valueForKey packet key).bind fun value =>
    match Numeral.fromChars 4294967295 value with
    | .ok n [] => some (UInt32.ofNat n)
    | _ => none

/-- `utils::generate_challenge`. -/
def generateChallenge (name md5Password localChallenge remoteChallenge : Bytes) : Bytes :=
  Md5.md5 (md5Password ++ List.replicate 48 32 ++ name ++ localChallenge ++ remoteChallenge ++
    md5Password)

/-- `utils::to_date`. -/
def toDate (day month year : UInt32) : UInt32 := (day <<< 24) ||| (month <<< 16) ||| year

def toUpper (c : UInt8) : UInt8 := if 97 ≤ c ∧ c ≤ 122 then c - 32 else c

/-- One bit of `boost::crc_16_type`, least significant bit first. -/
def crcBit (crc : UInt16) : UInt16 :=
  if crc &&& 1 = 1 then (crc >>> 1) ^^^ 0xA001 else crc >>> 1

def crc16 (bytes : Bytes) : UInt16 :=
  bytes.foldl (fun crc c => crcBit^[8] (crc ^^^ c.toUInt16)) 0

end Utils

open Utils

/-! ### The client -/

/-- `LoginClient::STATES`. -/
inductive States where
  | initializing
  | authenticating
  | authenticated
  | loggingOut
deriving DecidableEq, Repr

structure LoginClient where
  state : States := .initializing
  playerData : Option PlayerData := none
  serverChallenge : Bytes := []
  loginTicket : Bytes := []
deriving DecidableEq

/-- What a session does that is seen outside: replies, and writes to the player
table. `undefined` is the use of a player that is not set. -/
inductive Action where
  | send (reply : Bytes)
  | profile (player : PlayerData) (reply : Bytes)
  | createPlayer (player : PlayerData)
  | updatePlayer (player : PlayerData)
  | undefined
deriving DecidableEq

/-- The outcome of a handler. -/
structure Handled where
  client : LoginClient
  table : PlayerTable
  actions : List Action := []
  threw : Bool := false
  closed : Bool := false

def text (number : Nat) : Bytes := Numeral.decimal number

/-- `LoginClient::SendError`. -/
def errorReply (requestId : UInt32) (errorCode : Nat) (errorMessage : Bytes) (fatal : Bool) :
    Bytes :=
  ascii "\\error\\\\err\\" ++ text errorCode ++ ascii "\\errmsg\\" ++ errorMessage ++
    (if fatal then ascii "\\fatal\\" else []) ++ ascii "\\id\\" ++ text requestId.toNat ++
    ascii "\\final\\"

def invalidQuery : Bytes := ascii "Invalid Query!"

/-- The birthday of every profile. -/
def birthday : UInt32 := toDate 31 5 2014

/-- `LoginClient::SendPlayerData`. -/
def playerReply (player : PlayerData) (loginTicket : Bytes) (requestId : UInt32) : Bytes :=
  ascii "\\pi\\\\profileid\\" ++ text player.id.toNat ++ ascii "\\nick\\" ++ player.name ++
    ascii "\\userid\\" ++ text player.id.toNat ++ ascii "\\email\\" ++ player.email ++
    ascii "\\sig\\" ++ loginTicket ++ ascii "\\uniquenick\\" ++ player.name ++
    ascii "\\pid\\0\\firstname\\\\lastname\\\\countrycode\\" ++ player.country ++
    ascii "\\birthday\\" ++ text birthday.toNat ++
    ascii "\\lon\\0.000000\\lat\\0.000000\\loc\\\\id\\" ++ text requestId.toNat ++
    ascii "\\final\\"

def loginReply (player : PlayerData) (loginTicket proof : Bytes) : Bytes :=
  ascii "\\lc\\2\\sesskey\\" ++ text player.session.toNat ++ ascii "\\userid\\" ++
    text player.id.toNat ++ ascii "\\profileid\\" ++ text player.id.toNat ++
    ascii "\\uniquenick\\" ++ player.name ++ ascii "\\lt\\" ++ loginTicket ++
    ascii "\\proof\\" ++ proof ++ ascii "\\\\id\\1\\final\\"

def newUserReply (player : PlayerData) : Bytes :=
  ascii "\\nur\\\\userid\\" ++ text player.id.toNat ++ ascii "\\profileid\\" ++
    text player.id.toNat ++ ascii "\\id\\1\\final\\"

namespace LoginClient

/-- `LoginClient::SendChallenge`, once the challenge is sent. -/
def sendChallenge (serverChallenge loginTicket : Bytes) : LoginClient where
  state := .authenticating
  serverChallenge := serverChallenge
  loginTicket := loginTicket

section Handlers

variable (client : LoginClient) (table : PlayerTable) (packet : Bytes) (sent : Bool)

/-- A reply behind which the handler returns. -/
def reply (bytes : Bytes) : Handled where
  client := client
  table := table
  actions := [.send bytes]
  threw := !sent

def refuse (requestId : UInt32) (errorCode : Nat) (errorMessage : Bytes) : Handled :=
  client.reply table sent (errorReply requestId errorCode errorMessage true)

/-- The name a login packet gives. -/
def loginName (packet : Bytes) : Option Bytes :=
  (valueForKey packet (ascii "\\uniquenick\\")).or (valueForKey packet (ascii "\\user\\"))

/-- `LoginClient::HandleLogin`. The state changes behind the reply. -/
def handleLogin : Handled :=
  if client.state ≠ .authenticating then { client := client, table := table }
  else match loginName packet, valueForKey packet (ascii "\\challenge\\"),
      valueForKey packet (ascii "\\response\\") with
    | some playerName, some clientChallenge, some challengeResponse =>
        if playerName.isEmpty then client.refuse table sent 1 0 invalidQuery
        else if !PlayerDBSQLite.hasPlayer table playerName then
          client.refuse table sent 1 265
            (ascii "Username [" ++ playerName ++ ascii "] doesn't exist!")
        else match PlayerDBSQLite.getPlayerByName table playerName with
          | none => { client := client, table := table, actions := [.undefined] }
          | some player =>
              if challengeResponse ≠ generateChallenge playerName player.password clientChallenge
                  client.serverChallenge then
                client.refuse table sent 1 260 (ascii "The password provided is incorrect.")
              else
                let player := { player with session := crc16 playerName }
                let proof := generateChallenge player.name player.password client.serverChallenge
                  clientChallenge
                let client := { client with playerData := some player }
                { client := if sent then { client with state := .authenticated } else client
                  table := table
                  actions := [.send (loginReply player client.loginTicket proof)]
                  threw := !sent }
    | _, _, _ => client.refuse table sent 1 0 invalidQuery

/-- `LoginClient::HandleNewUser`. -/
def handleNewUser : Handled :=
  if client.state ≠ .authenticating then client.refuse table sent 1 0 invalidQuery
  else match valueForKey packet (ascii "\\email\\"), valueForKey packet (ascii "\\nick\\"),
      valueForKey packet (ascii "\\passwordenc\\") with
    | some email, some nick, some passwordEnc =>
        if PlayerDBSQLite.hasPlayer table nick then
          client.refuse table sent 1 516 (ascii "This account name is already in use!")
        else match passdecode passwordEnc with
          | none => { client := client, table := table, threw := true }
          | some password =>
              if password.length < 3 then
                client.refuse table sent 1 0
                  (ascii "The password is too short, must be 3 characters at least!")
              else if 30 < password.length then
                client.refuse table sent 1 0
                  (ascii "The password is too long, must be 30 characters at most!")
              else
                let player : PlayerData :=
                  { name := nick, email := email, password := Md5.md5 password
                    country := ascii "??" }
                match PlayerDBSQLite.createPlayer table player with
                | none =>
                    { client := { client with playerData := some player }, table := table
                      threw := true }
                | some (table, player) =>
                    { client := { client with playerData := some player }
                      table := table
                      actions := [.createPlayer player, .send (newUserReply player)]
                      threw := !sent }
    | _, _, _ => client.refuse table sent 1 0 invalidQuery

/-- `LoginClient::HandleGetProfile`. -/
def handleGetProfile : Handled :=
  match numberForKey packet (ascii "\\id\\") with
  | none => client.refuse table sent 0 0 invalidQuery
  | some requestId =>
      if client.state ≠ .authenticated then client.refuse table sent requestId 0 invalidQuery
      else match client.playerData with
        | none => { client := client, table := table, actions := [.undefined] }
        | some player =>
            { client := client
              table := table
              actions := [.profile player (playerReply player client.loginTicket requestId)]
              threw := !sent }

/-- `LoginClient::HandleUpdateProfile`. -/
def handleUpdateProfile : Handled :=
  if client.state ≠ .authenticated then client.refuse table sent 4294967295 0 invalidQuery
  else match valueForKey packet (ascii "\\countrycode\\") with
    | none => { client := client, table := table }
    | some countryCode =>
        match client.playerData with
        | none => { client := client, table := table, actions := [.undefined] }
        | some player =>
            let player := { player with country := countryCode.map toUpper }
            { client := { client with playerData := some player }
              table := PlayerDBSQLite.updatePlayer table player
              actions := [.updatePlayer player] }

/-- `LoginClient::HandleLogout`. -/
def handleLogout : Handled := { client := client, table := table, closed := true }

/-- The dispatch of `LoginClient::Process`. -/
def handle : Handled :=
  if (ascii "\\login\\").isPrefixOf packet then client.handleLogin table packet sent
  else if (ascii "\\newuser\\").isPrefixOf packet then client.handleNewUser table packet sent
  else if (ascii "\\getprofile\\").isPrefixOf packet then client.handleGetProfile table packet sent
  else if (ascii "\\updatepro\\").isPrefixOf packet then
    client.handleUpdateProfile table packet sent
  else if (ascii "\\logout\\").isPrefixOf packet then client.handleLogout table
  else client.reply table sent (errorReply 0 0 invalidQuery false)

end Handlers

end LoginClient

/-! ### The connection -/

/-- A connection, with the player table it shares with others. -/
structure Connection where
  client : LoginClient
  table : PlayerTable
  isOpen : Bool := true

/-- A packet and whether a reply to it can be sent, what other connections leave of
the table, or the end of the input. -/
inductive Connection.Event where
  | packet (bytes : Bytes) (sent : Bool)
  | others (table : PlayerTable)
  | disconnected

namespace Connection

/-- The connection behind `SendChallenge`. -/
def start (serverChallenge loginTicket : Bytes) (table : PlayerTable) : Connection where
  client := .sendChallenge serverChallenge loginTicket
  table := table

def step (connection : Connection) : Event → Connection × List Action
  | .packet bytes sent =>
      if connection.isOpen then
        let out := connection.client.handle connection.table bytes sent
        (⟨out.client, out.table, !out.threw && !out.closed⟩, out.actions)
      else (connection, [])
  | .others table => ({ connection with table := table }, [])
  | .disconnected => ({ connection with isOpen := false }, [])

end Connection

end GamespyEmulator
