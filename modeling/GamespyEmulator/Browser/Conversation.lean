import GamespyEmulator.Browser.FieldList
import GamespyEmulator.Browser.Push
import GamespyEmulator.Browser.ResponseHeader
import GamespyEmulator.Browser.Sapphire
import GamespyEmulator.Sessions.Clients

/-!
A whole conversation with a browser: the encryption header, the key both sides mix from it,
the encrypted response header, the entries of the list, and the end marker.

`browser_reads_list` composes them: a browser that knows the secret key of the game reads,
from the bytes of its connection, the header and the servers that were listed, and is then
at the first byte behind the list.
-/

namespace GamespyEmulator

open Wire Fallible Coroutine

/-! ### The key of a connection -/

namespace BrowserClient

/-- `(i * secretKey[i % secretKeySize]) % keySize`: the product of a `size_t` and a `char`,
which is signed. -/
def mixPlace (i : Nat) (c : UInt8) : Fin 8 :=
  Fin.ofNat 8 (UInt64.ofNat i * c.toInt8.toInt64.toUInt64).toNat

/-- One turn of the loop in `StartEncryption`. -/
def mixTurn (secretKey serverChallenge : Bytes) (key : Vector UInt8 8) (i : Nat) :
    Vector UInt8 8 :=
  let place := mixPlace i (secretKey.getD (i % secretKey.length) 0)
  key.set place (key[place] ^^^ (key[Fin.ofNat 8 i] ^^^ serverChallenge.getD i 0))

/-- The key `StartEncryption` gives `m_Cypher`. -/
def cypherKey (secretKey serverChallenge : Bytes) (clientChallenge : Vector UInt8 8) :
    CryptKey where
  size := 8
  bytes := (List.range serverChallenge.length).foldl (mixTurn secretKey serverChallenge)
    clientChallenge
  pos := Nat.succ_pos 7
  le := by decide

/-! ### What is sent -/

/-- The bytes of a message, before encryption. -/
def messageBytes (game : Game) (socketIP : UInt32) : Message → Bytes
  | .text bytes => bytes
  | .header request => request.getResponseHeaderBytes game socketIP

/-- The bytes on a connection: the first message as it is, the others through `m_Cypher`. -/
def wire (cypher : Sapphire) (texts : List Bytes) : Bytes :=
  match texts with
  | [] => []
  | opening :: rest => opening ++ (cypher.send rest).2.flatten

end BrowserClient

/-! ### One entry, and what follows -/

/-- The browser's reader of an entry in a list, with the bytes behind it. -/
def readListed (popular : List Bytes) (queryPort : UInt16) (sends : List Send) :
    Bytes → Option (PushedServer × Bytes)
  | [] => none
  | flags :: bytes => do
      let (address, bytes) ← readAddress bytes
      let (port, bytes) ← readIf (flags &&& ServerOptions.nonStandardPort != 0) readPort bytes
      let (privateIp, bytes) ← readIf (flags &&& ServerOptions.privateIp != 0) readAddress bytes
      let (privatePort, bytes) ←
        readIf (flags &&& ServerOptions.nonStandardPrivatePort != 0) readPort bytes
      let (icmpIp, bytes) ← readIf (flags &&& ServerOptions.icmpIp != 0) readAddress bytes
      let (values, bytes) ←
        readIf (flags &&& ServerOptions.hasKeys != 0) (readValues popular sends) bytes
      let (rules, bytes) ← readIf (flags &&& ServerOptions.hasFullRules != 0) splitNul bytes
      return (⟨address, port.getD queryPort, privateIp, privatePort, icmpIp, values.getD [], rules⟩,
        bytes)

/-- What a browser can read in a list: the keys announce the values, popular values stand
where their index points, and no text holds a NUL. -/
structure Listable (game : Game) (server : ServerData) (fieldList : List Bytes) : Prop where
  keys : server.data.isEmpty → fieldList = []
  free : ∀ key ∈ fieldList, NulFree (server.value key)
  indexed : ∀ key ∈ fieldList,
    Indexed game.popularValues (game.getParamSendType key) (server.value key)
  rules : NulFree server.rules

section Entry

variable {game : Game} {server : ServerData} {fieldList : List Bytes} {entry : Bytes}

theorem readValues_listed {bytes : Bytes} (free : ∀ key ∈ fieldList, NulFree (server.value key))
    (indexed : ∀ key ∈ fieldList,
      Indexed game.popularValues (game.getParamSendType key) (server.value key))
    (built : prepareValues game true server fieldList = .ok bytes) (rest : Bytes) :
    readValues game.popularValues (fieldList.map game.getParamSendType) (bytes ++ rest) =
      some (meanings game server fieldList, rest) := by
  induction fieldList generalizing bytes with
  | nil =>
      cases built
      rfl
  | cons key others ih =>
      obtain ⟨front, back, first, builtRest, rfl⟩ := prepareValues_cons built
      obtain ⟨freeFirst, freeOthers⟩ := List.forall_mem_cons.mp free
      obtain ⟨indexedFirst, indexedOthers⟩ := List.forall_mem_cons.mp indexed
      rw [List.map_cons, List.append_assoc, meanings, List.map_cons, readValues_cons]
      exact ⟨back ++ rest, readValue_prepareValue freeFirst first indexedFirst (back ++ rest),
        ih freeOthers indexedOthers builtRest⟩

/-- The values of an entry, when its keys announce them. -/
theorem readKeys_listed (listable : Listable game server fieldList) {bytes : Bytes}
    (built : prepareValues game true server fieldList = .ok bytes) (rest : Bytes) :
    ∃ found, readIf (!server.data.isEmpty)
        (readValues game.popularValues (fieldList.map game.getParamSendType)) (bytes ++ rest) =
      some (found, rest) ∧ found.getD [] = meanings game server fieldList := by
  cases noData : server.data.isEmpty with
  | true =>
      obtain rfl := listable.keys noData
      cases built
      exact ⟨none, rfl, rfl⟩
  | false =>
      have read := readValues_listed listable.free listable.indexed built rest
      exact ⟨some (meanings game server fieldList), readIf_true read, rfl⟩

theorem readRules_listed (free : NulFree server.rules) (rest : Bytes) :
    readIf (!server.rules.isEmpty) splitNul ((rulesPart server).bytes ++ rest) =
      some (optional server.rules, rest) := by
  unfold rulesPart optional
  cases noRules : server.rules.isEmpty with
  | true => rfl
  | false => simpa using readIf_true (splitNul_terminated free rest)

/-- **An entry reads back, whatever follows it.** -/
theorem readListed_prepareServer (listable : Listable game server fieldList)
    (built : prepareServer game server fieldList true = .ok entry) (rest : Bytes) :
    readListed game.popularValues game.data.queryPort (fieldList.map game.getParamSendType)
      (entry ++ rest) = some (server.pushed game fieldList, rest) := by
  obtain ⟨bytes, written, built⟩ := bind_eq_ok.mp built
  obtain ⟨address, found, rfl⟩ := addressBytes_ok written
  obtain ⟨privateIp, builtPrivate, built⟩ := bind_eq_ok.mp built
  obtain ⟨icmpIp, builtIcmp, built⟩ := bind_eq_ok.mp built
  obtain ⟨values, builtValues, entryEq⟩ := bind_eq_ok.mp built
  obtain ⟨privateFlag, -, readPrivate⟩ := optionalAddress_ok builtPrivate
  obtain ⟨icmpFlag, -, readIcmp⟩ := optionalAddress_ok builtIcmp
  obtain ⟨port, priv, privPort, icmp, hasKeys, hasRules⟩ := flagByte_tells
    (server.publicPort != game.data.queryPort) (!server.privateIp.isEmpty)
    (server.privatePort != 0) (server.data[ascii "natneg"]? = some (ascii "1"))
    (!server.icmpIp.isEmpty) (!server.data.isEmpty) (!server.rules.isEmpty)
  obtain ⟨keys, readKeys, back⟩ := readKeys_listed listable builtValues
    ((rulesPart server).bytes ++ rest)
  have readRules := readRules_listed listable.rules rest
  have portBack : (if (server.publicPort != game.data.queryPort) = true then
      some server.publicPort else none).getD game.data.queryPort = server.publicPort := by
    by_cases standard : server.publicPort = game.data.queryPort <;> simp [standard]
  have privateBack : (if (server.privatePort != 0) = true then some server.privatePort
      else none) = if server.privatePort = 0 then none else some server.privatePort := by
    by_cases none : server.privatePort = 0 <;> simp [none]
  rw [← Except.ok.inj entryEq]
  simp only [optionalPort_flag, privateFlag, icmpFlag, natnegFlag_eq, keysFlag_eq, rulesPart_flag]
  simp only [flagByte] at port priv privPort icmp hasKeys hasRules
  simp only [List.cons_append, List.append_assoc, readListed, port, priv, privPort, icmp, hasKeys,
    hasRules, readAddress_toBytes, optionalPort_read, readPrivate, readIcmp, readKeys, readRules,
    Option.bind_eq_bind, Option.bind_some, back, portBack, privateBack]
  simp only [ServerData.pushed, found, Option.getD_some]
  rfl

/-- An entry begins with its flags and its address. -/
theorem readAddress_entry (built : prepareServer game server fieldList true = .ok entry)
    (rest : Bytes) : ∃ address behind, makeAddressV4 server.publicIp = some address ∧
      readAddress (entry ++ rest).tail = some (address, behind) := by
  obtain ⟨bytes, written, built⟩ := bind_eq_ok.mp built
  obtain ⟨address, found, rfl⟩ := addressBytes_ok written
  obtain ⟨privateIp, -, built⟩ := bind_eq_ok.mp built
  obtain ⟨icmpIp, -, built⟩ := bind_eq_ok.mp built
  obtain ⟨values, -, entryEq⟩ := bind_eq_ok.mp built
  rw [← Except.ok.inj entryEq]
  simp only [List.cons_append, List.append_assoc, List.tail_cons, readAddress_toBytes]
  exact ⟨address, _, found, rfl⟩

end Entry

/-! ### The list -/

/-- The address that ends a list. -/
def lastServer : UInt32 := 0xFFFFFFFF

/-- Entries up to the end marker, in so many turns. -/
def readServers (popular : List Bytes) (queryPort : UInt16) (sends : List Send) :
    Nat → Bytes → Option (List PushedServer × Bytes)
  | 0, _ => none
  | turns + 1, bytes => do
      let (address, behind) ← readAddress bytes.tail
      if address = lastServer then return ([], behind)
      else
        let (server, bytes) ← readListed popular queryPort sends bytes
        let (servers, bytes) ← readServers popular queryPort sends turns bytes
        return (server :: servers, bytes)

/-- The response header, and the list behind it. -/
def readResponse : Bytes → Option ((ResponseHeader × List PushedServer) × Bytes)
  | a₀ :: a₁ :: a₂ :: a₃ :: hi :: lo :: bytes => do
      let (fields, bytes) ← readList readField bytes
      let (popularValues, bytes) ← readList splitNul bytes
      let header : ResponseHeader := ⟨readBe32 a₀ a₁ a₂ a₃, readBe16 hi lo, fields, popularValues⟩
      let (servers, bytes) ← readServers popularValues header.port (fields.map Prod.fst)
        (bytes.length + 1) bytes
      return ((header, servers), bytes)
  | _ => none

/-- A server that can be listed, and whose address does not end the list. -/
structure Readable (game : Game) (server : ServerData) (fieldList : List Bytes) : Prop where
  encodable : Encodable game server fieldList
  listable : Listable game server fieldList
  address : makeAddressV4 server.publicIp ≠ some lastServer

section List

variable {game : Game} {fieldList : List Bytes}

/-- The messages of a list of readable servers are their entries and the end marker. -/
theorem readServers_list (servers : List SavedServer)
    (readable : ∀ server ∈ servers, Readable game server.toServerData fieldList) (rest : Bytes)
    (turns : Nat) (enough : servers.length < turns) :
    readServers game.popularValues game.data.queryPort (fieldList.map game.getParamSendType) turns
        ((sendServerList game fieldList servers).1.flatten ++ rest) =
      some (servers.map fun server => server.toServerData.pushed game fieldList, rest) := by
  induction servers generalizing turns with
  | nil =>
      obtain ⟨turns, rfl⟩ := Nat.exists_eq_add_of_lt enough
      have marker : readAddress (endMarker ++ rest).tail = some (lastServer, rest) := rfl
      simp only [sendServerList, List.flatten_singleton, readServers, marker]
      rfl
  | cons server servers ih =>
      obtain ⟨⟨encodable, listable, address⟩, others⟩ := List.forall_mem_cons.mp readable
      obtain ⟨entry, built⟩ := (@prepareServer_returns _ _ _ true).mpr encodable
      cases turns with
      | zero => cases enough
      | succ turns =>
          have texts : (sendServerList game fieldList (server :: servers)).1 =
              entry :: (sendServerList game fieldList servers).1 := by
            rw [sendServerList, built]
          obtain ⟨found, behind, known, first⟩ := readAddress_entry built
            ((sendServerList game fieldList servers).1.flatten ++ rest)
          have goesOn : found ≠ lastServer := by
            rintro rfl
            exact address known
          have read := readListed_prepareServer listable built
            ((sendServerList game fieldList servers).1.flatten ++ rest)
          have later := ih others turns (Nat.lt_of_succ_lt_succ enough)
          rw [texts, List.flatten_cons, List.append_assoc, readServers, first, Option.bind_eq_bind,
            Option.bind_some]
          dsimp only
          rw [if_neg goesOn, read, Option.bind_eq_bind, Option.bind_some]
          dsimp only
          rw [later]
          rfl

/-- Every message of a list is at least a byte long. -/
theorem sendServerList_length (servers : List SavedServer)
    (readable : ∀ server ∈ servers, Readable game server.toServerData fieldList) :
    servers.length ≤ (sendServerList game fieldList servers).1.flatten.length := by
  induction servers with
  | nil => exact Nat.zero_le _
  | cons server servers ih =>
      obtain ⟨first, others⟩ := List.forall_mem_cons.mp readable
      obtain ⟨entry, built⟩ := (@prepareServer_returns _ _ _ true).mpr first.encodable
      have texts : (sendServerList game fieldList (server :: servers)).1 =
          entry :: (sendServerList game fieldList servers).1 := by
        rw [sendServerList, built]
      have nonempty : 0 < entry.length := by
        obtain ⟨address, -, built⟩ := bind_eq_ok.mp built
        obtain ⟨privateIp, -, built⟩ := bind_eq_ok.mp built
        obtain ⟨icmpIp, -, built⟩ := bind_eq_ok.mp built
        obtain ⟨values, -, entryEq⟩ := bind_eq_ok.mp built
        rw [← Except.ok.inj entryEq]
        exact Nat.succ_pos _
      have later := ih others
      rw [texts, List.flatten_cons, List.length_append, List.length_cons]
      omega

end List

/-- **The response reads back, whatever follows it.** -/
theorem readResponse_list {r : ServerListRequest} {game : Game}
    (lists : ¬ r.options.shares Options.noServerList) (port : game.data.queryPort ≠ 0xFFFF)
    (fields : ∀ field ∈ r.fieldList, NulFree field)
    (popular : ∀ value ∈ game.popularValues, NulFree value) (short : r.fieldList.length ≤ 255)
    (servers : List SavedServer)
    (readable : ∀ server ∈ servers, Readable game server.toServerData r.fieldList)
    (socketIP : UInt32) (rest : Bytes) :
    readResponse (r.getResponseHeaderBytes game socketIP ++
        ((sendServerList game r.fieldList servers).1.flatten ++ rest)) =
      some ((r.header game socketIP,
        servers.map fun server => server.toServerData.pushed game r.fieldList), rest) := by
  let list := (sendServerList game r.fieldList servers).1.flatten ++ rest
  have fieldList := @readList_encode _ _ readField (encodeField game) _ r.fieldList short
    (fun field mem rest => readField_encodeField (fields field mem) rest)
    (UInt8.ofNat game.popularValues.length :: (strings game.popularValues ++ list))
  have values := @readList_encode _ _ splitNul terminated id game.popularValues
    game.popularValues_le (fun value mem rest => splitNul_terminated (popular value mem) rest) list
  rw [List.map_id] at values
  have types : (r.fieldList.map fun field => (game.getParamSendType field, field)).map Prod.fst =
      r.fieldList.map game.getParamSendType := by
    rw [List.map_map]
    rfl
  have enough : servers.length < list.length + 1 := by
    have long := sendServerList_length servers readable
    simp only [list, List.length_append]
    omega
  rw [getResponseHeaderBytes_lists lists port]
  simp only [toBytes, be32, be16, List.cons_append, List.nil_append, List.append_assoc,
    readResponse, readBe32_be32, readBe16_be16]
  rw [fieldList, Option.bind_eq_bind, Option.bind_some]
  dsimp only
  rw [strings, values, Option.bind_eq_bind, Option.bind_some]
  dsimp only
  rw [types, readServers_list servers readable rest _ enough]
  rfl

/-! ### The browser's side of a connection -/

/-- So many bytes, and those behind them. -/
def readBlock (length : Nat) (bytes : Bytes) : Option (Bytes × Bytes) :=
  if length ≤ bytes.length then some (bytes.take length, bytes.drop length) else none

/-- The server challenge of an encryption header: both lengths in it are masked. -/
def readOpening : Bytes → Option (Bytes × Bytes)
  | [] => none
  | first :: bytes => do
      let (_, bytes) ← readBlock (first ^^^ 0xEC).toNat bytes
      match bytes with
      | [] => none
      | second :: bytes => readBlock (second ^^^ 0xEA).toNat bytes

/-- A browser with its own challenge and the secret key of the game. -/
def listen (secretKey : Bytes) (clientChallenge : Vector UInt8 8) (received : Bytes) :
    Option ((ResponseHeader × List PushedServer) × Bytes) := do
  let (serverChallenge, bytes) ← readOpening received
  let cypher ← Sapphire.initializeKey Sapphire.enoughTurns
    (BrowserClient.cypherKey secretKey serverChallenge clientChallenge)
  readResponse (cypher.decryptRange bytes).2

theorem readBlock_append (block rest : Bytes) :
    readBlock block.length (block ++ rest) = some (block, rest) := by
  simp [readBlock]

/-- A masked length is read back. -/
theorem masked_length {length : Nat} (small : length ≤ 255) (mask : UInt8) :
    (UInt8.ofNat length ^^^ mask ^^^ mask).toNat = length := by
  rw [UInt8.xor_assoc, UInt8.xor_self, UInt8.xor_zero]
  exact UInt8.toNat_ofNat_of_lt (by simp only [UInt8.size]; omega)

theorem readOpening_encryptionHeader (game : Game) {cryptKey serverChallenge : Bytes}
    (crypt : cryptKey.length = 8) (challenge : serverChallenge.length = 25) (rest : Bytes) :
    readOpening (BrowserClient.encryptionHeader game cryptKey serverChallenge ++ rest) =
      some (serverChallenge, rest) := by
  let options := be16 (UInt16.ofNat game.data.backend.toNat) ++ cryptKey
  have length : options.length = cryptKey.length + 2 := by
    simp only [options, be16, List.length_append, List.length_cons, List.length_nil]
    omega
  have first : (UInt8.ofNat (cryptKey.length + 2) ^^^ 0xEC ^^^ 0xEC).toNat = options.length := by
    rw [length]
    exact masked_length (by omega) 0xEC
  have second : (UInt8.ofNat serverChallenge.length ^^^ 0xEA ^^^ 0xEA).toNat =
      serverChallenge.length := masked_length (by omega) 0xEA
  have shape : BrowserClient.encryptionHeader game cryptKey serverChallenge ++ rest =
      (UInt8.ofNat (cryptKey.length + 2) ^^^ 0xEC) ::
        (options ++ ((UInt8.ofNat serverChallenge.length ^^^ 0xEA) :: (serverChallenge ++ rest))) := by
    simp [BrowserClient.encryptionHeader, options]
  rw [shape, readOpening, first, readBlock_append, Option.bind_eq_bind, Option.bind_some]
  dsimp only
  rw [second, readBlock_append]

/-- Behind the header, a browser decrypts what was sent through the cipher. -/
theorem listen_wire (game : Game) {cryptKey serverChallenge : Bytes}
    (crypt : cryptKey.length = 8) (challenge : serverChallenge.length = 25)
    (secretKey : Bytes) (clientChallenge : Vector UInt8 8) {cypher : Sapphire}
    (keyed : Sapphire.initializeKey Sapphire.enoughTurns
      (BrowserClient.cypherKey secretKey serverChallenge clientChallenge) = some cypher)
    (texts : List Bytes) :
    listen secretKey clientChallenge (BrowserClient.wire cypher
        (BrowserClient.encryptionHeader game cryptKey serverChallenge :: texts)) =
      readResponse texts.flatten := by
  rw [listen, BrowserClient.wire, readOpening_encryptionHeader game crypt challenge,
    Option.bind_eq_bind, Option.bind_some]
  dsimp only
  rw [keyed, Option.bind_eq_bind, Option.bind_some, (cypher.send_eq texts).2,
    Sapphire.decryptRange_encryptRange]

/-! ### The handler on its own -/

/-- The network takes every message, and the stats database has these rows. -/
def takeMessages (rows : List BF2.StatsRow) (sent : List Message) :
    (operation : SessionOperation) → List Message × Option operation.Result
  | .send message => (sent ++ [message], some ())
  | .prepare _ _ => (sent, some ())
  | .executeStats => (sent, some rows)
  | .execute _ => (sent, none)
  | .connect _ => (sent, none)
  | .write _ => (sent, none)
  | .read => (sent, none)

/-- The servers a request is answered with. -/
def servedList (sqlite : Sqlite) (emulator : Emulator) (rows : List BF2.StatsRow) (game : Game)
    (request : ServerListRequest) : List SavedServer :=
  if game.data.name = bf2Data.name then
    let servers := BF2.listed sqlite game request.serverFilter request.fieldList
      (Listing.limit request) 0
    if BF2.asksStats emulator.hasParams servers then
      servers.map (BF2.rank (BF2.rankedServers rows))
    else servers
  else game.getServers sqlite request.serverFilter request.fieldList (Listing.limit request) 0

section Handler

variable {sqlite : Sqlite} {emulator : Emulator} {rows : List BF2.StatsRow} {game : Game}
  {request : ServerListRequest} (known : emulator.games[request.toGame]? = some game)
  {sent : List Message}

section

include known

theorem currentGame_alone {A : Type} (next : Game → Awaitable A) :
    (BrowserClient.currentGame request.toGame >>= next).alone (takeMessages rows) emulator sent =
      (next game).alone (takeMessages rows) emulator sent := by
  rw [BrowserClient.currentGame, look_bind, alone, known]
  rfl

theorem getServers_alone : (BrowserClient.getServers sqlite request).alone (takeMessages rows)
    emulator sent = (sent, .returned (servedList sqlite emulator rows game request)) := by
  rw [BrowserClient.getServers, alone, known, servedList]
  dsimp only
  split
  · rw [BF2.Suspending.getServers]
    dsimp only
    split <;> rfl
  · rfl

/-- The list loop sends the entries and the end marker. -/
theorem sendServers_alone (servers : List SavedServer)
    (encodable : ∀ server ∈ servers, Encodable game server.toServerData request.fieldList) :
    (BrowserClient.sendServers request servers).alone (takeMessages rows) emulator sent =
      (sent ++ (sendServerList game request.fieldList servers).1.map .text, .returned ()) := by
  induction servers generalizing sent with
  | nil => rfl
  | cons server servers ih =>
      obtain ⟨first, others⟩ := List.forall_mem_cons.mp encodable
      obtain ⟨entry, built⟩ := (@prepareServer_returns _ _ _ true).mpr first
      have next : (BrowserClient.sendServers request servers).alone (takeMessages rows) emulator
          (sent ++ [.text entry]) = (sent ++ (sendServerList game request.fieldList
            (server :: servers)).1.map .text, .returned ()) := by
        rw [ih others, sendServerList, built, List.map_cons, List.append_assoc]
        rfl
      rw [BrowserClient.sendServers, currentGame_alone known, built]
      exact next

end

/-- **Undisturbed, the handler sends the encryption header, the response header, and the
list.** -/
theorem handleServerListRequest_alone {bytes cryptKey serverChallenge : Bytes}
    (parsed : ServerListRequest.parse bytes = .ok request)
    (known : emulator.games[request.toGame]? = some game)
    (listed : BrowserClient.Listed game request)
    (encodable : ∀ server ∈ servedList sqlite emulator rows game request,
      Encodable game server.toServerData request.fieldList) :
    (BrowserClient.handleServerListRequest sqlite cryptKey serverChallenge bytes).alone
        (takeMessages rows) emulator sent =
      (sent ++ .text (BrowserClient.encryptionHeader game cryptKey serverChallenge) ::
        .header request :: (sendServerList game request.fieldList
          (servedList sqlite emulator rows game request)).1.map .text, .returned true) := by
  have list (sent : List Message) :
      (BrowserClient.sendList sqlite request).alone (takeMessages rows) emulator sent =
        (sent ++ (sendServerList game request.fieldList
          (servedList sqlite emulator rows game request)).1.map .text, .returned ()) := by
    rw [BrowserClient.sendList, currentGame_alone known, if_pos listed, alone_bind,
      getServers_alone known]
    exact sendServers_alone known _ encodable
  rw [BrowserClient.handleServerListRequest, parsed]
  dsimp only
  rw [alone, known]
  change (BrowserClient.sendList sqlite request >>= fun _ => .ret true).alone (takeMessages rows)
    emulator (sent ++ [.text (BrowserClient.encryptionHeader game cryptKey serverChallenge)] ++
      [.header request]) = _
  rw [alone_bind, list]
  simp only [alone, List.append_assoc, List.cons_append, List.nil_append]

end Handler

/-- A list that a browser can read: SQLite steps through its statement to the end, the list of
fields fits its count, and neither a popular value nor a server is misread. -/
structure Legible (sqlite : Sqlite) (emulator : Emulator) (rows : List BF2.StatsRow) (game : Game)
    (request : ServerListRequest) : Prop where
  steps : sqlite.fails game.table (BF2.selectedText game.data.name request.serverFilter
    request.fieldList (Listing.limit request) 0) = false
  fits : request.fieldList.length ≤ 255
  popular : ∀ value ∈ game.popularValues, NulFree value
  readable : ∀ server ∈ servedList sqlite emulator rows game request,
    Readable game server.toServerData request.fieldList

/-- **A browser reads the list it asked for.** The handler returns, and a browser that
knows the secret key reads from its connection the header and the servers that were
listed; it is then at the first byte of what is sent behind the list. -/
theorem browser_reads_list {sqlite : Sqlite} {emulator : Emulator} {game : Game}
    {request : ServerListRequest} {bytes : Bytes} (rows : List BF2.StatsRow)
    (parsed : ServerListRequest.parse bytes = .ok request)
    (known : emulator.games[request.toGame]? = some game)
    (listed : BrowserClient.Listed game request)
    (legible : Legible sqlite emulator rows game request)
    {cryptKey serverChallenge : Bytes} (crypt : cryptKey.length = 8)
    (challenge : serverChallenge.length = 25) :
    ∃ cypher, Sapphire.initializeKey Sapphire.enoughTurns (BrowserClient.cypherKey
        game.data.secretKey serverChallenge request.challenge) = some cypher ∧
      ∃ sent, (BrowserClient.handleServerListRequest sqlite cryptKey serverChallenge bytes).alone
          (takeMessages rows) emulator [] = (sent, .returned true) ∧
        ∀ (socketIP : UInt32) (pushed : List Bytes),
          listen game.data.secretKey request.challenge (BrowserClient.wire cypher
            (sent.map (BrowserClient.messageBytes game socketIP) ++ pushed)) =
          some ((request.header game socketIP,
            (servedList sqlite emulator rows game request).map fun server =>
              server.toServerData.pushed game request.fieldList), pushed.flatten) := by
  obtain ⟨cypher, -, keyed⟩ := Sapphire.initializeKey_ends (BrowserClient.cypherKey
    game.data.secretKey serverChallenge request.challenge)
  refine ⟨cypher, keyed _ le_rfl, _, handleServerListRequest_alone parsed known listed
    (fun server mem => (legible.readable server mem).encodable), fun socketIP pushed => ?_⟩
  obtain ⟨noList, -⟩ := listed
  obtain ⟨lists, port⟩ := not_or.mp noList
  have texts (messages : List Bytes) : (messages.map Message.text).map
      (BrowserClient.messageBytes game socketIP) = messages := by
    rw [List.map_map]
    exact List.map_id messages
  rw [List.nil_append, List.map_cons, List.map_cons, texts, List.cons_append, List.cons_append,
    BrowserClient.messageBytes, listen_wire game crypt challenge _ _ (keyed _ le_rfl),
    List.flatten_cons, List.flatten_append]
  exact readResponse_list lists port (parse_fields parsed) legible.popular legible.fits _
    legible.readable socketIP pushed.flatten

namespace StoreSample

/-- One game with one server. -/
def conversing : Emulator := ⟨OrdMap.emplaceAll [(ascii "gmtest", listed)] ∅, false, 0⟩

theorem readable_listed : ∀ server ∈ servedList strict conversing [] listed request,
    Readable listed server.toServerData request.fieldList := by
  intro server mem
  have address : ∀ server ∈ servedList strict conversing [] listed request,
      makeAddressV4 server.publicIp = some 0xC0A80007 := by decide +kernel
  have keys : ∀ server ∈ servedList strict conversing [] listed request,
      server.data.isEmpty = false := by decide +kernel
  have free : ∀ server ∈ servedList strict conversing [] listed request,
      ∀ key ∈ request.fieldList, NulFree (server.toServerData.value key) := by decide +kernel
  have texts : ∀ key ∈ request.fieldList, listed.getParamSendType key = .asString := by
    decide +kernel
  have popular : listed.popularValues = [] := by decide +kernel
  refine ⟨⟨?_, .inl rfl, .inl rfl, ?_⟩, ⟨?_, free server mem, ?_, nulFree_nil⟩, ?_⟩
  · exact Option.isSome_iff_exists.mpr ⟨_, address server mem⟩
  · intro key field
    rw [texts key field]
    trivial
  · exact fun empty => absurd ((keys server mem).symm.trans empty) Bool.false_ne_true
  · intro key field _ listed'
    rw [popular] at listed'
    cases listed'
  · exact fun last => absurd ((address server mem).symm.trans last) (by decide)

/-- The browser sees one server. -/
theorem browser_reads_list_hostname : ∃ received header server,
    listen listed.data.secretKey request.challenge received = some ((header, [server]), []) := by
  have parsed : ServerListRequest.parse request.encode = .ok request := by decide +kernel
  have known : conversing.games[request.toGame]? = some listed := by
    rw [conversing, OrdMap.emplaceAll, List.foldl_cons, List.foldl_nil, OrdMap.insertIfNew_getElem?]
    simp [request]
  have one : (servedList strict conversing [] listed request).length = 1 := by decide +kernel
  obtain ⟨saved, single⟩ := List.length_eq_one_iff.mp one
  obtain ⟨cypher, -, sent, -, reads⟩ := @browser_reads_list strict conversing listed request
    request.encode [] parsed known (by decide +kernel)
    ⟨rfl, by decide, by decide +kernel, readable_listed⟩ (List.replicate 8 65) (List.replicate 25 66) rfl rfl
  have read := reads 7 []
  rw [single] at read
  exact ⟨_, _, _, read⟩

end StoreSample

end GamespyEmulator
