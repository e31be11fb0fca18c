import GamespyEmulator.Browser.Push
import GamespyEmulator.Game.Columns

/-!
The two ways a server's entry reaches a browser: in a list, from the row `GetServers`
reads, and as a push, from the server that was added. `PrepareServer` builds both.

A row holds what was requested of it, and the flags are taken from what is held. The slot of a
push reads the requested names from its key list, and both look up send types in `m_Params`.
`list_agrees_iff` shows when both entries are the same.
-/

namespace GamespyEmulator

open Wire Storage Fallible

/-! ### One entry -/

/-- The flags that `PrepareServer` puts in front of an entry. -/
theorem prepareServer_flags {game : Game} {server : ServerData} {fieldList : List Bytes}
    {usePopularList : Bool} {entry : Bytes}
    (built : prepareServer game server fieldList usePopularList = .ok entry) :
    entry.head? = some (flagByte (server.publicPort != game.data.queryPort)
      (!server.privateIp.isEmpty) (server.privatePort != 0)
      (server.data[ascii "natneg"]? = some (ascii "1")) (!server.icmpIp.isEmpty)
      (!server.data.isEmpty) (!server.rules.isEmpty)) := by
  obtain ⟨address, -, built⟩ := bind_eq_ok.mp built
  obtain ⟨privateIp, builtPrivate, built⟩ := bind_eq_ok.mp built
  obtain ⟨icmpIp, builtIcmp, built⟩ := bind_eq_ok.mp built
  obtain ⟨values, -, entryEq⟩ := bind_eq_ok.mp built
  rw [← Except.ok.inj entryEq, List.head?_cons, optionalPort_flag, optionalPort_flag,
    (optionalAddress_ok builtPrivate).1, (optionalAddress_ok builtIcmp).1, natnegFlag_eq,
    keysFlag_eq, rulesPart_flag]
  rfl

/-- The natneg flag tells its part, too. -/
theorem flagByte_natneg (port privateIp privatePort natneg icmpIp keys rules : Bool) :
    (flagByte port privateIp privatePort natneg icmpIp keys rules &&&
      ServerOptions.connectNegotiate != 0) = natneg := by
  revert port privateIp privatePort natneg icmpIp keys rules
  decide

theorem flagByte_inj {port privateIp privatePort natneg icmpIp keys rules port' privateIp'
    privatePort' natneg' icmpIp' keys' rules' : Bool}
    (same : flagByte port privateIp privatePort natneg icmpIp keys rules =
      flagByte port' privateIp' privatePort' natneg' icmpIp' keys' rules') :
    privateIp = privateIp' ∧ privatePort = privatePort' ∧ natneg = natneg' ∧ icmpIp = icmpIp' ∧
      keys = keys' ∧ rules = rules' := by
  obtain ⟨-, priv, privPort, icmp, hasKeys, hasRules⟩ :=
    flagByte_tells port privateIp privatePort natneg icmpIp keys rules
  obtain ⟨-, priv', privPort', icmp', hasKeys', hasRules'⟩ :=
    flagByte_tells port' privateIp' privatePort' natneg' icmpIp' keys' rules'
  have nat := flagByte_natneg port privateIp privatePort natneg icmpIp keys rules
  rw [same] at priv privPort icmp hasKeys hasRules nat
  exact ⟨priv.symm.trans priv', privPort.symm.trans privPort', nat.symm.trans
    (flagByte_natneg port' privateIp' privatePort' natneg' icmpIp' keys' rules'),
    icmp.symm.trans icmp', hasKeys.symm.trans hasKeys', hasRules.symm.trans hasRules'⟩

theorem prepareValues_congr {game : Game} {usePopularList : Bool} {server server' : ServerData}
    {fieldList : List Bytes} (same : ∀ key ∈ fieldList, server.value key = server'.value key) :
    prepareValues game usePopularList server fieldList =
      prepareValues game usePopularList server' fieldList := by
  induction fieldList with
  | nil => rfl
  | cons key rest ih =>
      obtain ⟨first, others⟩ := List.forall_mem_cons.mp same
      rw [prepareValues, prepareValues, first, ih others]

theorem prepareValues_each {game : Game} {usePopularList : Bool} {server : ServerData}
    {fieldList : List Bytes} {values : Bytes}
    (built : prepareValues game usePopularList server fieldList = .ok values) :
    ∀ key ∈ fieldList, Returns (prepareValue game usePopularList (game.getParamSendType key)
      (server.value key)) := by
  intro key mem
  rw [prepareValue_returns]
  exact prepareValues_returns.mp ⟨values, built⟩ key mem

/-- What an entry is made of. -/
theorem prepareServer_congr {game : Game} {usePopularList : Bool} {server server' : ServerData}
    {fieldList : List Bytes} (address : makeAddressV4 server.publicIp = makeAddressV4 server'.publicIp)
    (port : server.publicPort = server'.publicPort) (privateIp : server.privateIp = server'.privateIp)
    (privatePort : server.privatePort = server'.privatePort) (icmpIp : server.icmpIp = server'.icmpIp)
    (rules : server.rules = server'.rules) (natneg : natnegFlag server = natnegFlag server')
    (keys : keysFlag server = keysFlag server')
    (values : ∀ key ∈ fieldList, server.value key = server'.value key) :
    prepareServer game server fieldList usePopularList =
      prepareServer game server' fieldList usePopularList := by
  have addresses : addressBytes server.publicIp = addressBytes server'.publicIp := by
    unfold addressBytes
    rw [address]
  have parts : rulesPart server = rulesPart server' := by
    unfold rulesPart
    rw [rules]
  unfold prepareServer prepareAround
  rw [addresses, port, privateIp, privatePort, icmpIp, parts, natneg, keys,
    prepareValues_congr values]

/-! ### The row of an added server -/

/-- Server data with registered keys, integers in canonical form, and fields that are
supplied and not real. -/
structure Supplied (game : Game) (server : ServerData) (fields : List Bytes) : Prop where
  nonempty : server.data.isEmpty = false
  known : ∀ key ∈ server.data, key ∈ game.params
  integers : ∀ (name value : Bytes) (key : GameKey), game.params[name]? = some key →
    key.store = .asInteger → server.data[name]? = some value → CanonicalInteger value
  requested : ∀ field ∈ fields, field ∈ server.data ∧
    ∀ key : GameKey, game.params[field]? = some key → key.store ≠ .asReal

section Row

variable {sqlite : Sqlite} {affinity : Affinity} {game : Game} {server : ServerData}
  {fields : List Bytes} (registered : game.Registered) (accepts : game.Accepts sqlite server)
  (supplied : Supplied game server fields)

include accepts supplied in
theorem stored_of_supplied :
    (game.addOrUpdateServer sqlite server).game.params = game.params ∧
      (game.addOrUpdateServer sqlite server).game.table.rows =
        game.table.rows.insert server.rowKey (game.rowOf server) := by
  have succeeds : Game.Succeeds sqlite game (.add server) :=
    Game.addOrUpdateServer_accepts.mpr accepts
  obtain ⟨-, fits, stored⟩ := Game.succeeds_add succeeds
  have none : game.columnsToAdd server = [] := by
    apply List.eq_nil_iff_forall_not_mem.mpr
    intro name mem
    obtain ⟨-, given, unknown⟩ := Game.mem_columnsToAdd.mp mem
    exact unknown (supplied.known name given)
  constructor
  · have params : (game.stored sqlite server).params = _ := Game.addColumns_params fits
    rw [stored, params, none]
    rfl
  · rw [stored, Game.stored_rows]

include registered accepts supplied in
/-- A requested field is stored as it was given. -/
theorem stored_eq_value {row : OrdMap Bytes Bytes}
    (held : (game.addOrUpdateServer sqlite server).game.table.rows[server.rowKey]? = some row)
    {field : Bytes} (mem : field ∈ fields) :
    (game.addOrUpdateServer sqlite server).game.table.stored affinity row field =
      server.value field := by
  obtain ⟨params, rows⟩ := stored_of_supplied accepts supplied
  obtain ⟨given, notReal⟩ := supplied.requested field mem
  obtain ⟨value, found⟩ := OrdMap.mem_iff.mp given
  obtain ⟨key, keyed⟩ := OrdMap.mem_iff.mp (supplied.known field given)
  obtain rfl : game.rowOf server = row := by
    rw [rows, OrdMap.insert_getElem?, if_pos rfl] at held
    exact Option.some.inj held
  have after := @Game.call_registered sqlite game registered (.add server)
  have store := @Game.Registered.store _ after field key (params ▸ keyed)
  have inRow := (Game.rowOf_getElem? game server field value).mpr
    ⟨found, supplied.known field given⟩
  have cell : (game.addOrUpdateServer sqlite server).game.table.cell (game.rowOf server) field =
      value := by
    rw [Table.cell, inRow, Option.getD_some]
  have sameStore : (game.addOrUpdateServer sqlite server).game.table.store field = key.store := store
  rw [Table.stored, sameStore, cell, ServerData.value, found, Option.getD_some]
  cases kind : key.store with
  | asText => exact affinity.text value
  | asInteger => exact affinity.integer value (supplied.integers field value key keyed kind found)
  | asReal => exact absurd kind (notReal key keyed)

end Row

/-! ### Both entries -/

/-- A server as it is read from the row of `server`. -/
structure SavedServer.ReadFrom (saved : SavedServer) (server : ServerData) (fields : List Bytes) :
    Prop where
  publicIp : saved.publicIp = cstr server.publicIp
  publicPort : saved.publicPort = server.publicPort
  data : ∀ field : Bytes, saved.data[field]? =
    if field ∈ fields then some (cstr (server.value field)) else none

/-- The servers and field lists for which a list tells what a push tells: a field is
requested, `natneg` among them where it is on, the server has nothing a row cannot hold,
and no requested value has a NUL. -/
structure SameInBoth (server : ServerData) (fields : List Bytes) : Prop where
  nonempty : fields ≠ []
  natneg : ascii "natneg" ∈ fields ∨ server.data[ascii "natneg"]? ≠ some (ascii "1")
  unsaved : server.privateIp = [] ∧ server.privatePort = 0 ∧ server.icmpIp = [] ∧ server.rules = []
  texts : ∀ field ∈ fields, NulFree (server.value field)

theorem valueLength_cstr_le (send : Send) (value : Bytes) :
    valueLength send (cstr value) ≤ valueLength send value := by
  cases send with
  | asString =>
      have shorter : (cstr value).length ≤ value.length := (List.takeWhile_prefix _).length_le
      simp only [valueLength]
      omega
  | asByte => exact le_rfl
  | asShort => exact le_rfl

/-- A text that loses nothing as a C string has no NUL, and a number has none anyway. -/
theorem nulFree_of_valueLength {game : Game} {send : Send} {value bytes : Bytes}
    (built : prepareValue game false send value = .ok bytes)
    (same : valueLength send value ≤ valueLength send (cstr value)) : NulFree value := by
  have carried : Carries send value := prepareValue_returns.mp ⟨bytes, built⟩
  have digits : (∀ c ∈ value, Numeral.isDigit c) → NulFree value :=
    fun all zero => absurd (all 0 zero) (by decide)
  cases send with
  | asString =>
      simp only [valueLength, Nat.add_le_add_iff_right] at same
      have whole : cstr value = value := (List.takeWhile_prefix _).eq_of_length_le same
      exact whole ▸ cstr_nulFree value
  | asByte => exact digits carried.1
  | asShort => exact digits carried.1

section Agree

variable {game : Game} {server : ServerData} {saved : SavedServer} {fields : List Bytes}
  (readFrom : saved.ReadFrom server fields)
include readFrom

theorem saved_value_eq {field : Bytes} (mem : field ∈ fields) :
    saved.toServerData.value field = cstr (server.value field) := by
  have data : saved.toServerData.data[field]? = _ := readFrom.data field
  rw [ServerData.value, data, if_pos mem, Option.getD_some]

theorem saved_data_isEmpty : saved.data.isEmpty = fields.isEmpty := by
  cases fields with
  | nil =>
      rw [List.isEmpty_nil, Std.ExtTreeMap.isEmpty_iff]
      apply OrdMap.ext_some
      intro field value
      simp [readFrom.data field]
  | cons field rest =>
      rw [List.isEmpty_cons, Std.ExtTreeMap.isEmpty_eq_false_iff]
      intro empty
      have data := readFrom.data field
      rw [empty, if_pos List.mem_cons_self] at data
      simp at data

/-- What a list leaves out is what it could not hold. -/
theorem agree_of_sameInBoth (nonempty : server.data.isEmpty = false)
    (given : ∀ field ∈ fields, field ∈ server.data) (same : SameInBoth server fields) :
    prepareServer game saved.toServerData fields false =
      prepareServer game server fields false := by
  obtain ⟨privateIp, privatePort, icmpIp, rules⟩ := same.unsaved
  have values : ∀ key ∈ fields, saved.toServerData.value key = server.value key := by
    intro key mem
    rw [saved_value_eq readFrom mem, cstr_eq_self (same.texts key mem)]
  have natneg : saved.toServerData.data[ascii "natneg"]? = some (ascii "1") ↔
      server.data[ascii "natneg"]? = some (ascii "1") := by
    have data : saved.toServerData.data[ascii "natneg"]? = _ := readFrom.data (ascii "natneg")
    rw [data]
    by_cases mem : ascii "natneg" ∈ fields
    · obtain ⟨value, held⟩ := OrdMap.mem_iff.mp (given _ mem)
      rw [if_pos mem, cstr_eq_self (same.texts _ mem), ServerData.value, held, Option.getD_some]
    · rw [if_neg mem]
      exact iff_of_false (by simp) (same.natneg.resolve_left mem)
  apply prepareServer_congr
  · show makeAddressV4 saved.publicIp = _
    rw [readFrom.publicIp, makeAddressV4, makeAddressV4, cstr_eq_self (cstr_nulFree _)]
  · exact readFrom.publicPort
  · exact privateIp.symm
  · exact privatePort.symm
  · exact icmpIp.symm
  · exact rules.symm
  · unfold natnegFlag
    simp only [natneg]
  · have keys : saved.toServerData.data.isEmpty = server.data.isEmpty := by
      rw [nonempty]
      exact (saved_data_isEmpty readFrom).trans (by simpa using same.nonempty)
    unfold keysFlag
    rw [keys]
  · exact values

/-- Each value takes at least the bytes it takes as a C string. When all take the same, no
value has a NUL. -/
theorem texts_of_lengths {values : Bytes}
    (built : prepareValues game false server fields = .ok values)
    (sums : (fields.map fun key => valueLength (game.getParamSendType key)
        (saved.toServerData.value key)).sum = (fields.map fun key =>
          valueLength (game.getParamSendType key) (server.value key)).sum) :
    ∀ field ∈ fields, NulFree (server.value field) := by
  intro field mem
  obtain ⟨bytes, one⟩ := prepareValues_each built field mem
  apply nulFree_of_valueLength one
  by_contra shorter
  refine absurd sums (ne_of_lt (List.sum_lt_sum _ _ ?_ ⟨field, mem, ?_⟩))
  · intro key inside
    rw [saved_value_eq readFrom inside]
    exact valueLength_cstr_le _ _
  · rw [saved_value_eq readFrom mem]
    exact not_le.mp shorter

/-- Entries that are the same tell the same of each part. -/
theorem sameInBoth_of_agree (nonempty : server.data.isEmpty = false)
    {entry : Bytes} (pushed : prepareServer game server fields false = .ok entry)
    (listed : prepareServer game saved.toServerData fields false = .ok entry) :
    SameInBoth server fields := by
  obtain ⟨privateIp, privatePort, natneg, icmpIp, keys, rules⟩ := flagByte_inj
    (Option.some.inj ((prepareServer_flags pushed).symm.trans (prepareServer_flags listed)))
  have noPrivateIp : server.privateIp = [] := by simpa [SavedServer.toServerData] using privateIp
  have noPrivatePort : server.privatePort = 0 := by
    simpa [SavedServer.toServerData] using privatePort
  have noIcmpIp : server.icmpIp = [] := by simpa [SavedServer.toServerData] using icmpIp
  have noRules : server.rules = [] := by simpa [SavedServer.toServerData] using rules
  have requested : fields ≠ [] := by
    have held : saved.toServerData.data.isEmpty = false := by
      rw [nonempty] at keys
      simpa using keys.symm
    have none : fields.isEmpty = false := (saved_data_isEmpty readFrom).symm.trans held
    simpa using none
  refine ⟨requested, ?_, ⟨noPrivateIp, noPrivatePort, noIcmpIp, noRules⟩, ?_⟩
  · by_cases on : server.data[ascii "natneg"]? = some (ascii "1")
    · have found : saved.data[ascii "natneg"]? = some (ascii "1") := by
        rw [decide_eq_true on] at natneg
        exact of_decide_eq_true natneg.symm
      left
      by_contra apart
      rw [readFrom.data, if_neg apart] at found
      cases found
    · exact .inr on
  · -- The other parts are of one length, and so are all values together.
    obtain ⟨values, built, length, -⟩ := prepareServer_pushed pushed
    obtain ⟨-, -, length', -⟩ := prepareServer_pushed listed
    have sums : (fields.map fun key => valueLength (game.getParamSendType key)
        (saved.toServerData.value key)).sum = (fields.map fun key =>
          valueLength (game.getParamSendType key) (server.value key)).sum := by
      have port : saved.toServerData.publicPort = server.publicPort := readFrom.publicPort
      rw [length, entryLength, entryLength, port, noPrivateIp, noPrivatePort, noIcmpIp,
        noRules] at length'
      simp only [SavedServer.toServerData, List.isEmpty_nil, if_true] at length' ⊢
      omega
    exact texts_of_lengths readFrom built sums

end Agree

namespace StoredGame

/-- The slot and the list build the same entry. -/
def EntriesAgree (layout : Layout) (s : StoredGame) (saved : SavedServer) (server : ServerData)
    (fields : List Bytes) : Prop :=
  ∃ entry, s.storage.pushEntry layout s.game server fields = some (.ok entry) ∧
    s.storage.prepareServer s.game saved.toServerData fields false = some (.ok entry)

theorem calls_registered {sqlite : Sqlite} {data : GameData} {start : Game}
    (connects : Game.connect sqlite data = .ok start) {growth : Growth} (capacity : Nat)
    (fits : start.data.keys.length ≤ capacity) (calls : List Call) :
    (Run.final (step sqlite growth) (connected start capacity fits) calls).game.Registered :=
  @Run.stable _ _ _ (step sqlite growth) calls (fun s => s.game.Registered)
    (connected start capacity fits) (Game.connect_registered connects) fun _ call registered =>
      Game.call_registered registered call

/-- Entries that can be read agree exactly when the row tells what the server does. -/
theorem entriesAgree_iff {layout : Layout} {s : StoredGame} (stored : Stored s)
    {saved : SavedServer} {server : ServerData} {fields : List Bytes}
    (readFrom : saved.ReadFrom server fields) (nonempty : server.data.isEmpty = false)
    (given : ∀ field ∈ fields, field ∈ server.data) {entry : Bytes}
    (pushed : prepareServer s.game server fields false = .ok entry) :
    EntriesAgree layout s saved server fields ↔
      layout.Keeps fields ∧ s.storage.Valid ∧ SameInBoth server fields := by
  have encodable : Encodable s.game server fields := prepareServer_returns.mp ⟨entry, pushed⟩
  rw [EntriesAgree, pushEntry_eq stored fun _ => rfl, prepareServer_eq stored fun _ => rfl, pushed]
  constructor
  · rintro ⟨built, slot, listed⟩
    split at slot
    · rename_i reads
      cases slot
      split at listed
      · have same := sameInBoth_of_agree readFrom nonempty pushed (Option.some.inj listed)
        have valid := ((sends_iff stored encodable).mp reads.2).resolve_left same.nonempty
        exact ⟨reads.1, valid, same⟩
      · cases listed
    · cases slot
  · rintro ⟨keeps, valid, same⟩
    have sends : ∀ server, s.storage.Sends s.game server fields := fun _ lost =>
      absurd lost valid.intact
    rw [if_pos (show s.storage.Reads layout s.game server fields from ⟨keeps, sends server⟩),
      if_pos (sends _), agree_of_sameInBoth readFrom nonempty given same, pushed]
    exact ⟨entry, rfl, rfl⟩

end StoredGame

namespace NatnegSample

def data : GameData where
  name := ascii "gmtest"
  secretKey := ascii "HA6zkS"
  keys := [{ name := ascii "hostname" },
    { name := ascii "natneg", send := .asByte, store := .asInteger }]

def server : ServerData where
  publicIp := ascii "192.168.0.7"
  publicPort := 6500
  data := OrdMap.emplaceAll [(ascii "hostname", ascii "x"), (ascii "natneg", ascii "1")] ∅

/-- The connected game. -/
def game : Game := (Game.connect StoreSample.listing data).toOption.getD (Game.empty data)

theorem game_connected : Game.connect StoreSample.listing data = .ok game := by
  have connects : Returns (Game.connect StoreSample.listing data) := by decide
  obtain ⟨g, connected⟩ := connects
  simp [game, connected, Except.toOption]

/-- Its keys stand in a block of their own size. -/
def start : StoredGame := .connected game 2 (by decide)

/-- The game with the server. -/
def after : StoredGame :=
  (StoredGame.step StoreSample.listing StoreSample.doubling start (.add server)).1

theorem supplied {fields : List Bytes}
    (names : ∀ field ∈ fields, field = ascii "hostname" ∨ field = ascii "natneg") :
    Supplied game server fields := by
  have given : ∀ field, field ∈ server.data ↔
      field = ascii "hostname" ∨ field = ascii "natneg" := by
    intro field
    simp [server, OrdMap.mem_emplaceAll]
  have natneg : server.data[ascii "natneg"]? = some (ascii "1") := by rfl
  have texts : game.params[ascii "hostname"]? = some { name := ascii "hostname" } := by
    rfl
  have numbers : game.params[ascii "natneg"]? =
      some { name := ascii "natneg", send := .asByte, store := .asInteger } := by rfl
  constructor
  · rfl
  · intro key mem
    rcases (given key).mp mem with rfl | rfl
    · exact OrdMap.mem_iff.mpr ⟨_, texts⟩
    · exact OrdMap.mem_iff.mpr ⟨_, numbers⟩
  · intro name value key keyed integer held
    rcases (given name).mp (OrdMap.mem_iff.mpr ⟨value, held⟩) with rfl | rfl
    · rw [texts] at keyed
      cases keyed
      cases integer
    · rw [natneg] at held
      cases held
      exact ⟨1, .inl ⟨by decide, rfl⟩⟩
  · intro field mem
    refine ⟨(given field).mpr (names field mem), fun key keyed => ?_⟩
    rcases names field mem with rfl | rfl
    · rw [texts] at keyed
      cases keyed
      decide
    · rw [numbers] at keyed
      cases keyed
      decide

theorem accepts : game.Accepts StoreSample.listing server :=
  Game.addOrUpdateServer_accepts.mp (by rfl)

/-- Both keys are known, and the block stays. -/
theorem after_valid : after.storage.Valid :=
  (StoredGame.connected_stored game_connected 2 (by decide)).2.valid

/-- The server as it is listed with `fields`. -/
def saved (fields : List Bytes) : SavedServer :=
  after.game.table.shown StoreSample.affinity fields (server.rowKey, game.rowOf server)

end NatnegSample

end GamespyEmulator
