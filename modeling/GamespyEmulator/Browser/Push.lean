import GamespyEmulator.Browser.PopularValues
import GamespyEmulator.Game.Registry

/-!
Push messages as the browser reads them: a type, a 16-bit length, and an entry whose
optional parts are announced by its flags. Unlike in a list, no value is popular.

`push_decodes_iff` shows when the browser gets the server back: the names it asked for and
the entries of `m_Params` are still where the slot looks for them, there are keys to announce
the values by, the length fits its field, and no terminated string holds a NUL.
-/

namespace GamespyEmulator

open Wire Fallible

/-! ### The browser's side -/

/-- What a push message tells about a server. -/
structure PushedServer where
  address : UInt32
  port : UInt16
  privateIp : Option UInt32
  privatePort : Option UInt16
  icmpIp : Option UInt32
  values : List FieldValue
  rules : Option Bytes
deriving DecidableEq

def readAddress : Bytes → Option (UInt32 × Bytes)
  | a :: b :: c :: d :: rest => some (readBe32 a b c d, rest)
  | _ => none

def readPort : Bytes → Option (UInt16 × Bytes)
  | hi :: lo :: rest => some (readBe16 hi lo, rest)
  | _ => none

/-- A part that is read only when its flag is set. -/
def readIf {A : Type} (present : Bool) (read : Bytes → Option (A × Bytes)) (bytes : Bytes) :
    Option (Option A × Bytes) :=
  if present then (read bytes).map fun (a, rest) => (some a, rest) else some (none, bytes)

/-- An entry, read by its flags; `none` unless it is used up exactly. -/
def readPushedServer (queryPort : UInt16) (sends : List Send) : Bytes → Option PushedServer
  | [] => none
  | flags :: bytes => do
      let (address, bytes) ← readAddress bytes
      let (port, bytes) ← readIf (flags &&& ServerOptions.nonStandardPort != 0) readPort bytes
      let (privateIp, bytes) ← readIf (flags &&& ServerOptions.privateIp != 0) readAddress bytes
      let (privatePort, bytes) ←
        readIf (flags &&& ServerOptions.nonStandardPrivatePort != 0) readPort bytes
      let (icmpIp, bytes) ← readIf (flags &&& ServerOptions.icmpIp != 0) readAddress bytes
      let (values, bytes) ←
        readIf (flags &&& ServerOptions.hasKeys != 0) (readValues [] sends) bytes
      let (rules, bytes) ← readIf (flags &&& ServerOptions.hasFullRules != 0) splitNul bytes
      if bytes = [] then
        some ⟨address, port.getD queryPort, privateIp, privatePort, icmpIp, values.getD [], rules⟩
      else none

/-- A push message: its length is that of the entry. -/
def readPush (queryPort : UInt16) (sends : List Send) : Bytes → Option PushedServer
  | type :: hi :: lo :: entry =>
      if type = 0x02 ∧ entry.length = (readBe16 hi lo).toNat then
        readPushedServer queryPort sends entry
      else none
  | _ => none

def optional (text : Bytes) : Option Bytes := if text.isEmpty then none else some text

/-- The server as the browser should see it. -/
def ServerData.pushed (server : ServerData) (game : Game) (keyList : List Bytes) :
    PushedServer where
  address := (makeAddressV4 server.publicIp).getD 0
  port := server.publicPort
  privateIp := (optional server.privateIp).bind makeAddressV4
  privatePort := if server.privatePort = 0 then none else some server.privatePort
  icmpIp := (optional server.icmpIp).bind makeAddressV4
  values := meanings game server keyList
  rules := optional server.rules

/-! ### When a message can be read -/

/-- The bytes a value takes. -/
def valueLength : Send → Bytes → Nat
  | .asString, value => value.length + 2
  | .asByte, _ => 1
  | .asShort, _ => 2

/-- The bytes the entry of a server takes. -/
def entryLength (game : Game) (server : ServerData) (keyList : List Bytes) : Nat :=
  5 + (if server.publicPort = game.data.queryPort then 0 else 2) +
    (if server.privateIp.isEmpty then 0 else 4) + (if server.privatePort = 0 then 0 else 2) +
    (if server.icmpIp.isEmpty then 0 else 4) +
    (keyList.map fun key => valueLength (game.getParamSendType key) (server.value key)).sum +
    (if server.rules.isEmpty then 0 else server.rules.length + 1)

/-- The servers that can be pushed to a browser with this field list. -/
structure Pushable (game : Game) (server : ServerData) (keyList : List Bytes) : Prop where
  keys : server.data.isEmpty → keyList = []
  length : entryLength game server keyList < 65536
  strings : ∀ key ∈ keyList, game.getParamSendType key = .asString → NulFree (server.value key)
  rules : NulFree server.rules

/-! ### Parts -/

section Parts

variable {A : Type} {read : Bytes → Option (A × Bytes)}

@[simp] theorem readIf_false (bytes : Bytes) : readIf false read bytes = some (none, bytes) := rfl

theorem readIf_true {bytes rest : Bytes} {a : A} (found : read bytes = some (a, rest)) :
    readIf true read bytes = some (some a, rest) := by
  simp [readIf, found]

theorem readAddress_toBytes (address : UInt32) (rest : Bytes) :
    readAddress (toBytes address ++ rest) = some (address, rest) := by
  simp [toBytes, be32, readAddress]

theorem readPort_be16 (port : UInt16) (rest : Bytes) :
    readPort (be16 port ++ rest) = some (port, rest) := by
  simp [be16, readPort]

theorem addressBytes_ok {text bytes : Bytes} (built : addressBytes text = .ok bytes) :
    ∃ address, makeAddressV4 text = some address ∧ bytes = toBytes address := by
  unfold addressBytes at built
  split at built
  · cases built
  · rename_i address found
    cases built
    exact ⟨address, found, rfl⟩

/-- An optional address: its flag, its length, and what is read back. -/
theorem optionalAddress_ok {flag : UInt8} {text : Bytes} {part : EntryPart}
    (built : optionalAddress flag text = .ok part) :
    part.flag = cond (!text.isEmpty) flag 0 ∧
      part.bytes.length = (if text.isEmpty then 0 else 4) ∧
      ∀ rest, readIf (!text.isEmpty) readAddress (part.bytes ++ rest) =
        some ((optional text).bind makeAddressV4, rest) := by
  unfold optionalAddress at built
  by_cases empty : text.isEmpty = true
  · rw [if_pos empty] at built
    cases built
    simp [empty, optional]
  · rw [if_neg empty] at built
    obtain ⟨bytes, written, rfl⟩ := map_eq_ok.mp built
    obtain ⟨address, found, rfl⟩ := addressBytes_ok written
    rw [Bool.not_eq_true] at empty
    refine ⟨by simp [empty], by simp [empty, toBytes, be32], fun rest => ?_⟩
    rw [empty, Bool.not_false, readIf_true (readAddress_toBytes address rest)]
    simp [optional, empty, found]

theorem optionalPort_read (flag : UInt8) (present : Bool) (port : UInt16) (rest : Bytes) :
    readIf present readPort ((optionalPort flag present port).bytes ++ rest) =
      some (if present then some port else none, rest) := by
  cases present with
  | false => rfl
  | true => exact readIf_true (readPort_be16 port rest)

theorem optionalPort_length (flag : UInt8) (present : Bool) (port : UInt16) :
    (optionalPort flag present port).bytes.length = if present then 2 else 0 := by
  cases present <;> rfl

theorem optionalPort_flag (flag : UInt8) (present : Bool) (port : UInt16) :
    (optionalPort flag present port).flag = cond present flag 0 := by
  cases present <;> rfl

theorem natnegFlag_eq (server : ServerData) :
    natnegFlag server = cond (server.data[ascii "natneg"]? = some (ascii "1"))
      ServerOptions.connectNegotiate 0 := by
  unfold natnegFlag
  split <;> simp [*]

theorem keysFlag_eq (server : ServerData) :
    keysFlag server = cond (!server.data.isEmpty) ServerOptions.hasKeys 0 := by
  unfold keysFlag
  cases server.data.isEmpty <;> rfl

theorem rulesPart_flag (server : ServerData) :
    (rulesPart server).flag = cond (!server.rules.isEmpty) ServerOptions.hasFullRules 0 := by
  unfold rulesPart
  cases server.rules.isEmpty <;> rfl

/-- The flags of an entry, from what the entry holds. -/
def flagByte (port privateIp privatePort natneg icmpIp keys rules : Bool) : UInt8 :=
  ServerOptions.unsolicitedUdp ||| cond port ServerOptions.nonStandardPort 0 |||
    cond privateIp ServerOptions.privateIp 0 |||
    cond privatePort ServerOptions.nonStandardPrivatePort 0 |||
    cond natneg ServerOptions.connectNegotiate 0 ||| cond icmpIp ServerOptions.icmpIp 0 |||
    cond keys ServerOptions.hasKeys 0 ||| cond rules ServerOptions.hasFullRules 0

/-- Each flag tells its own part. -/
theorem flagByte_tells (port privateIp privatePort natneg icmpIp keys rules : Bool) :
    let flags := flagByte port privateIp privatePort natneg icmpIp keys rules
    (flags &&& ServerOptions.nonStandardPort != 0) = port ∧
      (flags &&& ServerOptions.privateIp != 0) = privateIp ∧
      (flags &&& ServerOptions.nonStandardPrivatePort != 0) = privatePort ∧
      (flags &&& ServerOptions.icmpIp != 0) = icmpIp ∧
      (flags &&& ServerOptions.hasKeys != 0) = keys ∧
      (flags &&& ServerOptions.hasFullRules != 0) = rules := by
  revert port privateIp privatePort natneg icmpIp keys rules
  decide

end Parts

/-! ### Values -/

section Values

variable {game : Game} {server : ServerData}

theorem prepareValue_literal {value bytes : Bytes}
    (built : prepareValue game false .asString value = .ok bytes) :
    bytes = literalMarker :: terminated value := by
  simp only [prepareValue, Bool.false_eq_true, false_and, if_false] at built
  exact (Except.ok.inj built).symm

theorem readLiteral {send : Send} {value bytes : Bytes} (free : send = .asString → NulFree value)
    (built : prepareValue game false send value = .ok bytes) (rest : Bytes) :
    readValue [] send (bytes ++ rest) = some (meaning send value, rest) := by
  cases send with
  | asString =>
      rw [prepareValue_literal built]
      simp [readValue, free rfl, meaning]
  | asByte => exact @readValue_byte game _ _ [] built rest
  | asShort => exact @readValue_short game _ _ [] built rest

theorem prepareValue_length {send : Send} {value bytes : Bytes}
    (built : prepareValue game false send value = .ok bytes) :
    bytes.length = valueLength send value := by
  cases send with
  | asString =>
      rw [prepareValue_literal built]
      simp [terminated, valueLength]
  | asByte =>
      obtain ⟨rfl, -⟩ := @prepareValue_byte game _ _ built
      rfl
  | asShort =>
      obtain ⟨rfl, -⟩ := @prepareValue_short game _ _ built
      rfl

theorem readLiterals {keyList : List Bytes} {bytes : Bytes}
    (strings : ∀ key ∈ keyList, game.getParamSendType key = .asString → NulFree (server.value key))
    (built : prepareValues game false server keyList = .ok bytes) (rest : Bytes) :
    readValues [] (keyList.map game.getParamSendType) (bytes ++ rest) =
      some (meanings game server keyList, rest) := by
  induction keyList generalizing bytes with
  | nil =>
      cases built
      rfl
  | cons key others ih =>
      obtain ⟨front, back, first, builtRest, rfl⟩ := prepareValues_cons built
      obtain ⟨free, others⟩ := List.forall_mem_cons.mp strings
      rw [List.map_cons, List.append_assoc, meanings, List.map_cons, readValues_cons]
      exact ⟨back ++ rest, readLiteral free first (back ++ rest), ih others builtRest⟩

theorem prepareValues_length {keyList : List Bytes} {bytes : Bytes}
    (built : prepareValues game false server keyList = .ok bytes) :
    bytes.length =
      (keyList.map fun key => valueLength (game.getParamSendType key) (server.value key)).sum := by
  induction keyList generalizing bytes with
  | nil =>
      cases built
      rfl
  | cons key others ih =>
      obtain ⟨front, back, first, builtRest, rfl⟩ := prepareValues_cons built
      rw [List.length_append, prepareValue_length first, ih builtRest, List.map_cons, List.sum_cons]

/-- Without a popular list every text that is read was terminated. -/
theorem readValues_free {sends : List Send} {wire rest : Bytes} {values : List FieldValue}
    (read : readValues [] sends wire = some (values, rest)) :
    ∀ text, .text text ∈ values → NulFree text := by
  induction sends generalizing wire values with
  | nil =>
      cases read
      simp
  | cons send sends ih =>
      cases values with
      | nil => simp [readValues, Option.bind_eq_some_iff] at read
      | cons value values =>
          obtain ⟨tail, first, others⟩ := readValues_cons.mp read
          intro text mem
          rcases List.mem_cons.mp mem with rfl | later
          · unfold readValue at first
            split at first
            · split at first
              · obtain ⟨⟨s, tail'⟩, found, eq⟩ := Option.map_eq_some_iff.mp first
                cases eq
                exact (splitNul_eq_some found).2
              · simp at first
            · cases first
            · cases first
            · cases first
          · exact ih others text later

theorem strings_of_meanings {keyList : List Bytes}
    (free : ∀ text, .text text ∈ meanings game server keyList → NulFree text) :
    ∀ key ∈ keyList, game.getParamSendType key = .asString → NulFree (server.value key) := by
  intro key mem string
  refine free _ (List.mem_map.mpr ⟨key, mem, ?_⟩)
  rw [string]
  rfl

end Values

/-! ### Entries -/

section Entries

variable {game : Game} {server : ServerData} {keyList : List Bytes} {entry : Bytes}

/-- What is left to read behind the addresses: the values and the rules. -/
def readTail (game : Game) (server : ServerData) (keyList : List Bytes) (bytes : Bytes) :
    Option PushedServer := do
  let (values, bytes) ←
    readIf (!server.data.isEmpty) (readValues [] (keyList.map game.getParamSendType)) bytes
  let (rules, bytes) ← readIf (!server.rules.isEmpty) splitNul bytes
  if bytes = [] then
    some { server.pushed game keyList with values := values.getD [], rules := rules }
  else none

/-- The entry of a pushed server, up to its values and rules. -/
theorem prepareServer_pushed (built : prepareServer game server keyList false = .ok entry) :
    ∃ values, prepareValues game false server keyList = .ok values ∧
      entry.length = entryLength game server keyList ∧
      readPushedServer game.data.queryPort (keyList.map game.getParamSendType) entry =
        readTail game server keyList (values ++ (rulesPart server).bytes) := by
  obtain ⟨bytes, written, built⟩ := bind_eq_ok.mp built
  obtain ⟨address, found, rfl⟩ := addressBytes_ok written
  obtain ⟨privateIp, builtPrivate, built⟩ := bind_eq_ok.mp built
  obtain ⟨icmpIp, builtIcmp, built⟩ := bind_eq_ok.mp built
  obtain ⟨values, builtValues, entryEq⟩ := bind_eq_ok.mp built
  obtain ⟨privateFlag, privateLength, readPrivate⟩ := optionalAddress_ok builtPrivate
  obtain ⟨icmpFlag, icmpLength, readIcmp⟩ := optionalAddress_ok builtIcmp
  have rulesLength : (rulesPart server).bytes.length =
      if server.rules.isEmpty then 0 else server.rules.length + 1 := by
    unfold rulesPart
    cases server.rules.isEmpty <;> simp [terminated]
  refine ⟨values, builtValues, ?_, ?_⟩
  · rw [← Except.ok.inj entryEq]
    simp only [List.length_cons, List.length_append, optionalPort_length, privateLength, icmpLength,
      rulesLength, prepareValues_length builtValues, toBytes, be32, List.length_nil, entryLength,
      bne_iff_ne, ne_eq, ite_not]
    omega
  · obtain ⟨port, priv, privPort, icmp, hasKeys, hasRules⟩ := flagByte_tells
      (server.publicPort != game.data.queryPort) (!server.privateIp.isEmpty)
      (server.privatePort != 0) (server.data[ascii "natneg"]? = some (ascii "1"))
      (!server.icmpIp.isEmpty) (!server.data.isEmpty) (!server.rules.isEmpty)
    have portBack : (if (server.publicPort != game.data.queryPort) = true then
        some server.publicPort else none).getD game.data.queryPort = server.publicPort := by
      by_cases standard : server.publicPort = game.data.queryPort <;> simp [standard]
    have privateBack : (if (server.privatePort != 0) = true then some server.privatePort
        else none) = if server.privatePort = 0 then none else some server.privatePort := by
      by_cases none : server.privatePort = 0 <;> simp [none]
    rw [← Except.ok.inj entryEq]
    simp only [optionalPort_flag, privateFlag, icmpFlag, natnegFlag_eq, keysFlag_eq, rulesPart_flag]
    simp only [flagByte] at port priv privPort icmp hasKeys hasRules
    simp only [readPushedServer, port, priv, privPort, icmp, hasKeys, hasRules,
      readAddress_toBytes, optionalPort_read, readPrivate, readIcmp, Option.bind_eq_bind,
      Option.bind_some, readTail, ServerData.pushed, found, Option.getD_some, portBack,
      privateBack]

/-- Values that come back were announced, and their texts were terminated. -/
theorem strings_of_read {bytes rest : Bytes} {found : Option (List FieldValue)}
    (read : readIf (!server.data.isEmpty) (readValues [] (keyList.map game.getParamSendType)) bytes =
      some (found, rest)) (back : found.getD [] = meanings game server keyList) :
    (server.data.isEmpty → keyList = []) ∧
      ∀ key ∈ keyList, game.getParamSendType key = .asString → NulFree (server.value key) := by
  cases noData : server.data.isEmpty with
  | true =>
      rw [noData, Bool.not_true, readIf_false] at read
      cases read
      have none : keyList = [] := List.map_eq_nil_iff.mp back.symm
      exact ⟨fun _ => none, by simp [none]⟩
  | false =>
      rw [noData, Bool.not_false, readIf, if_pos rfl] at read
      obtain ⟨⟨values, rest'⟩, read, eq⟩ := Option.map_eq_some_iff.mp read
      cases eq
      rw [Option.getD_some] at back
      rw [back] at read
      exact ⟨fun empty => absurd empty Bool.false_ne_true, strings_of_meanings (readValues_free read)⟩

theorem read_of_strings {values : Bytes}
    (built : prepareValues game false server keyList = .ok values)
    (keys : server.data.isEmpty → keyList = [])
    (strings : ∀ key ∈ keyList, game.getParamSendType key = .asString → NulFree (server.value key))
    (rest : Bytes) :
    ∃ found, readIf (!server.data.isEmpty) (readValues [] (keyList.map game.getParamSendType))
      (values ++ rest) = some (found, rest) ∧ found.getD [] = meanings game server keyList := by
  cases noData : server.data.isEmpty with
  | true =>
      obtain rfl := keys noData
      cases built
      exact ⟨none, rfl, rfl⟩
  | false =>
      exact ⟨_, readIf_true (readLiterals strings built rest), rfl⟩

theorem rules_of_read {bytes rest : Bytes}
    (read : readIf (!server.rules.isEmpty) splitNul bytes = some (optional server.rules, rest)) :
    NulFree server.rules := by
  cases noRules : server.rules.isEmpty with
  | true => simp [List.isEmpty_iff.mp noRules]
  | false =>
      rw [noRules, Bool.not_false, readIf, if_pos rfl] at read
      obtain ⟨⟨found, rest'⟩, read, eq⟩ := Option.map_eq_some_iff.mp read
      simp only [optional, noRules, Bool.false_eq_true, if_false, Prod.mk.injEq,
        Option.some.injEq] at eq
      rw [← eq.1]
      exact (splitNul_eq_some read).2

theorem read_of_rules (free : NulFree server.rules) :
    readIf (!server.rules.isEmpty) splitNul (rulesPart server).bytes =
      some (optional server.rules, []) := by
  unfold rulesPart optional
  cases noRules : server.rules.isEmpty with
  | true => rfl
  | false =>
      have read := splitNul_terminated free []
      rw [List.append_nil] at read
      simpa using readIf_true read

theorem readTail_iff {values : Bytes}
    (built : prepareValues game false server keyList = .ok values) :
    readTail game server keyList (values ++ (rulesPart server).bytes) =
        some (server.pushed game keyList) ↔
      (server.data.isEmpty → keyList = []) ∧
        (∀ key ∈ keyList, game.getParamSendType key = .asString → NulFree (server.value key)) ∧
        NulFree server.rules := by
  constructor
  · intro read
    obtain ⟨⟨found, bytes⟩, readVals, read⟩ := Option.bind_eq_some_iff.mp read
    obtain ⟨⟨rules, rest⟩, readRules, read⟩ := Option.bind_eq_some_iff.mp read
    dsimp only at readRules read
    split at read
    · simp only [ServerData.pushed, Option.some.injEq, PushedServer.mk.injEq, true_and] at read
      obtain ⟨back, rfl⟩ := read
      obtain ⟨keys, strings⟩ := strings_of_read readVals back
      exact ⟨keys, strings, rules_of_read readRules⟩
    · cases read
  · rintro ⟨keys, strings, rules⟩
    obtain ⟨found, readVals, back⟩ := read_of_strings built keys strings (rulesPart server).bytes
    simp only [readTail, readVals, Option.bind_eq_bind, Option.bind_some, read_of_rules rules,
      if_true, back]
    rfl

end Entries

/-! ### Messages -/

/-- A message built with the requested names is read back exactly when the server is
pushable. -/
theorem readPush_iff {game : Game} {server : ServerData} {keyList : List Bytes}
    {message : Bytes} (pushed : pushMessage game server keyList = .ok message) :
    readPush game.data.queryPort (keyList.map game.getParamSendType) message =
        some (server.pushed game keyList) ↔ Pushable game server keyList := by
  obtain ⟨entry, built, rfl⟩ := map_eq_ok.mp pushed
  obtain ⟨values, builtValues, length, read⟩ := prepareServer_pushed built
  have fits : entry.length = (readBe16 (UInt16.ofNat entry.length >>> 8).toUInt8
      (UInt16.ofNat entry.length).toUInt8).toNat ↔ entryLength game server keyList < 65536 := by
    rw [readBe16_be16, UInt16.toNat_ofNat', length]
    omega
  have message : readPush game.data.queryPort (keyList.map game.getParamSendType)
      (pushBytes entry) =
      if entryLength game server keyList < 65536 then
        readPushedServer game.data.queryPort (keyList.map game.getParamSendType) entry
      else none := by
    simp only [pushBytes, be16, List.cons_append, List.nil_append, readPush, true_and, fits]
  rw [message, read]
  constructor
  · intro decodes
    split at decodes
    · rename_i small
      obtain ⟨keys, strings, rules⟩ := (readTail_iff builtValues).mp decodes
      exact ⟨keys, small, strings, rules⟩
    · cases decodes
  · rintro ⟨keys, small, strings, rules⟩
    rw [if_pos small]
    exact (readTail_iff builtValues).mpr ⟨keys, strings, rules⟩

namespace StoredGame

/-- The slot of a browser with this field list queues a message from which the browser gets
the server back. -/
def PushDecodes (layout : Layout) (s : StoredGame) (server : ServerData) (keyList : List Bytes) :
    Prop :=
  ∃ message, s.storage.pushMessage layout s.game server keyList = some (.ok message) ∧
    readPush s.game.data.queryPort (keyList.map s.game.getParamSendType) message =
      some (server.pushed s.game keyList)

/-- Where an entry can be built, send types are read unless one is requested of lost entries. -/
theorem sends_iff {s : StoredGame} (stored : Stored s) {server : ServerData} {fieldList : List Bytes}
    (encodable : Encodable s.game server fieldList) :
    s.storage.Sends s.game server fieldList ↔ fieldList = [] ∨ s.storage.Valid := by
  have addresses : Encodable s.game server [] :=
    ⟨encodable.publicIp, encodable.privateIp, encodable.icmpIp, by simp⟩
  constructor
  · intro sends
    by_cases lost : s.storage.Lost
    · exact .inl (sends lost addresses)
    · exact .inr (stored.lost_iff.mp lost).valid
  · rintro (none | valid) lost -
    · exact none
    · exact absurd lost valid.intact

/-- **The browser gets a pushed server back exactly when the names and the entries of the map
are in place and the server is pushable**: its keys announce the values, the length fits its
field, and no terminated string holds a NUL. -/
theorem push_decodes_iff {sqlite : Sqlite} {data : GameData} {game : Game}
    (connects : Game.connect sqlite data = .ok game) (layout : Layout) (capacity : Nat)
    (fits : game.data.keys.length ≤ capacity) (calls : List Call) {s : StoredGame}
    (reached : Run.final (step sqlite layout.growth) (connected game capacity fits) calls = s)
    {server : ServerData} {keyList : List Bytes}
    (returns : Returns (prepareServer s.game server keyList false)) :
    PushDecodes layout s server keyList ↔
      layout.Keeps keyList ∧ (keyList = [] ∨ s.storage.Valid) ∧
        Pushable s.game server keyList := by
  have stored : Stored s := reached ▸ calls_stored (connected_stored connects capacity fits).1 calls
  have sends := sends_iff stored (prepareServer_returns.mp returns)
  obtain ⟨message, pushed⟩ : Returns (pushMessage s.game server keyList) := returns_map.mpr returns
  rw [PushDecodes, pushMessage_eq stored fun _ => rfl, pushed, ← sends, ← and_assoc]
  by_cases reads : s.storage.Reads layout s.game server keyList
  · rw [if_pos reads]
    constructor
    · rintro ⟨other, same, decodes⟩
      cases same
      exact ⟨reads, (readPush_iff pushed).mp decodes⟩
    · exact fun both => ⟨message, rfl, (readPush_iff pushed).mpr both.2⟩
  · rw [if_neg reads]
    refine iff_of_false ?_ fun both => reads both.1
    rintro ⟨other, none, -⟩
    cases none

end StoredGame

namespace StoreSample

/-- Two names, of which the first stays where it is when the second moves it. -/
def longNames : List Bytes := [ascii "bf2_communitylogo_url", ascii "hostname"]

/-- A server with both keys. -/
theorem push_decodes_longNames :
    (StoredGame.connected game 1 (by decide)).PushDecodes layout
      (server ["bf2_communitylogo_url", "hostname"]) longNames :=
  (StoredGame.push_decodes_iff connected layout 1 (by decide) [] rfl (by decide)).mpr
    ⟨by decide, .inr (StoredGame.connected_stored connected 1 (by decide)).2.valid,
      ⟨by decide, by decide, by decide, by decide⟩⟩

/-- A server without any key announces no values, and two bytes of a value follow. -/
theorem push_decodes_fails_no_key :
    ¬ ∀ (layout : Layout) (sqlite : Sqlite) (data : GameData) (game : Game),
      Game.connect sqlite data = .ok game → ∀ (capacity : Nat)
      (fits : game.data.keys.length ≤ capacity) (calls : List Call) (server : ServerData)
      (keyList : List Bytes),
      let s := Run.final (StoredGame.step sqlite layout.growth)
        (.connected game capacity fits) calls
      s.game.Accepts sqlite server → Returns (prepareServer s.game server keyList false) →
      s.PushDecodes layout server keyList := by
  intro decodes
  obtain ⟨message, pushed, read⟩ := decodes layout sqlite data game connected 1 (by decide) []
    (server []) [ascii "hostname"] (by decide) (by decide)
  have built : (StoredGame.connected game 1 (by decide)).storage.pushMessage layout game
      (server []) [ascii "hostname"] = some (.ok [2, 0, 7, 1, 192, 168, 0, 7, 255, 0]) := by decide
  cases built.symm.trans pushed
  revert read
  decide

end StoreSample

end GamespyEmulator
