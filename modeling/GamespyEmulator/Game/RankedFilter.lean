import GamespyEmulator.Game.Columns
import GamespyEmulator.Game.FilterRepair
import GamespyEmulator.Lib.Ternary

/-!
What a filter of `BF2` picks. SQLite compares what the servers reported, and only behind it
`BF2::GetServers` overwrites `bf2_ranked` and `bf2_plasma` by the rows of the stats
database.

`ranked_filter_iff` says for which tables the servers that are returned are those that
satisfy the filter.
-/

namespace GamespyEmulator

open Wire Ternary

/-! ### Filters -/

/-- A constant of a filter: a number, or a string literal. -/
inductive Constant where
  | number (digits : Bytes)
  | text (value : Bytes)
deriving DecidableEq

/-- `key = constant`. -/
structure Equality where
  key : Bytes
  constant : Constant
deriving DecidableEq

/-- A boolean combination of equalities. -/
abbrev Filter := Formula Equality

/-- Whether the value that a text bound to a column of a type becomes equals a constant. -/
abbrev Equals := Store → Bytes → Constant → Bool

abbrev TableRow := RowKey × OrdMap Bytes Bytes

namespace Table

variable (equals : Equals) (table : Table)

/-- The value of a column, as the text that was bound to it; `none` for NULL. -/
def value? (row : OrdMap Bytes Bytes) (key : Bytes) : Option Bytes :=
  row[key]?.or ((table.columns.find? (·.name = key)).bind (·.default))

/-- Equalities on values of columns; NULL equals nothing, nor does it differ. -/
def equality (value? : Bytes → Option Bytes) (equality : Equality) : Option Bool :=
  (value? equality.key).map fun value => equals (table.store equality.key) value equality.constant

/-- A row meets the filter SQLite reads a text as; of a text that is refused there is none. -/
def Picks (filter : Option Filter) (entry : TableRow) : Bool :=
  filter.any (·.met (table.equality equals (table.value? entry.2)))

end Table

/-- SQLite reads a text as a filter: of columns that can be selected it picks the rows that
meet it, in an order of its own. Of a text that it refuses there is no filter, and no rows. -/
def ReadsAs (sqlite : Sqlite) (affinity : Affinity) (equals : Equals) (table : Table) (text : Bytes)
    (filter : Option Filter) : Prop :=
  ∀ fields, table.Columns fields → sqlite.Selectable fields → ∃ order : List TableRow,
    order.Perm (table.rows.toList.filter (table.Picks equals filter)) ∧
      ∀ limit skip, sqlite.select table (Game.selectText text fields limit skip) =
        (window limit skip order).map (table.readRow affinity fields)

namespace BF2

/-! ### The flags -/

section Flags

variable (stats : List StatsRow) (key : RowKey)

/-- The row's server is authorised, if the stats database names its endpoint; with `plasma`. -/
def plasma? : Option Bool :=
  (rankedServers stats)[(⟨cstr key.publicIp, key.publicPort⟩ : RowKey)]?

/-- `bf2_ranked` and `bf2_plasma` as the client gets them, and any other value as it is. -/
def told (value? : Bytes → Option Bytes) (name : Bytes) : Option Bytes :=
  if name = rankedKey then some (flag (plasma? stats key).isSome)
  else if name = plasmaKey then some (flag ((plasma? stats key).getD false))
  else value? name

/-- The server that is returned for a row. -/
def returned (affinity : Affinity) (table : Table) (fields : List Bytes) (entry : TableRow) :
    SavedServer :=
  rank (rankedServers stats) (table.shown affinity fields entry)

theorem setFlag_data (server : SavedServer) (key name : Bytes) (value : Bool) :
    (setFlag server key value).data[name]? =
      if key = name then some (flag value) else server.data[name]? :=
  OrdMap.insert_getElem? server.data key name (flag value)

/-- The client gets the flags that `told` names, whether it asked for them or not. -/
theorem returned_flags (affinity : Affinity) (table : Table) (fields : List Bytes)
    (entry : TableRow) (value? : Bytes → Option Bytes) {name : Bytes}
    (isFlag : name = rankedKey ∨ name = plasmaKey) :
    (returned stats affinity table fields entry).data[name]? =
      told stats entry.1 value? name := by
  have apart : plasmaKey ≠ rankedKey := by decide
  have found : (rankedServers stats)[(⟨(table.shown affinity fields entry).publicIp,
      (table.shown affinity fields entry).publicPort⟩ : RowKey)]? = plasma? stats entry.1 := rfl
  rw [returned, rank, found]
  cases plasma? : plasma? stats entry.1 with
  | none =>
      rcases isFlag with rfl | rfl
      · rw [setFlag_data, if_neg apart, setFlag_data, if_pos rfl, told, if_pos rfl, plasma?]
        rfl
      · rw [setFlag_data, if_pos rfl, told, if_neg apart, if_pos rfl, plasma?]
        rfl
  | some plasma =>
      rcases isFlag with rfl | rfl
      · rw [setFlag_data, if_neg apart, setFlag_data, if_pos rfl, told, if_pos rfl, plasma?]
        rfl
      · rw [setFlag_data, if_pos rfl, told, if_neg apart, if_pos rfl, plasma?]
        rfl

end Flags

/-! ### What is returned -/

section Results

variable (sqlite : Sqlite) (affinity : Affinity) (equals : Equals) (game : Game)
  (stats : List StatsRow)

/-- The row's values, the flags as the client gets them, meet the filter. -/
def Satisfies (filter : Filter) (entry : TableRow) : Bool :=
  filter.met (game.table.equality equals (told stats entry.1 (game.table.value? entry.2)))

/-- The servers that are returned are those that satisfy the filter, up to the limit. -/
def ResultsSatisfy (query : Bytes) (filter : Filter) : Prop :=
  ∀ fields, game.table.Columns fields → sqlite.Selectable fields → ∀ limit ≤ maxLimit,
    ∃ order : List TableRow,
    order.Perm (game.table.rows.toList.filter (Satisfies equals game stats filter)) ∧
      getServers sqlite game (some stats) query fields limit 0 =
        (order.take limit).map (returned stats affinity game.table fields)

/-- The filter as it is executed, on what the servers reported, picks the rows that satisfy
the filter. -/
def PicksSatisfying (executed : Option Filter) (filter : Filter) : Prop :=
  ∀ entry ∈ game.table.rows.toList,
    game.table.Picks equals executed entry = Satisfies equals game stats filter entry

instance (executed : Option Filter) (filter : Filter) :
    Decidable (PicksSatisfying equals game stats executed filter) :=
  inferInstanceAs (Decidable (∀ entry ∈ game.table.rows.toList, _))

/-- A filter as a text, and what SQLite reads that text and the repaired text as. -/
structure Spelled (query : Bytes) (filter : Filter) (executed : Option Filter) : Prop where
  means : ReadsAs sqlite affinity equals game.table query (some filter)
  runs : ReadsAs sqlite affinity equals game.table (executedFilter query) executed

/-- Rows are told apart by what is returned of them, and SQLite can count them. -/
structure Listable (table : Table) : Prop where
  addresses : ∀ key ∈ table.rows, NulFree key.publicIp
  size : table.rows.size ≤ maxLimit

variable {sqlite affinity equals game stats} {query : Bytes} {filter : Filter}
  {executed : Option Filter}

theorem getServers_readsAs {order : List TableRow} {fields : List Bytes}
    (selects : ∀ limit skip,
      sqlite.select game.table (Game.selectText (executedFilter query) fields limit skip) =
        (window limit skip order).map (game.table.readRow affinity fields)) (limit : Nat)
    (small : limit ≤ maxLimit) :
    getServers sqlite game (some stats) query fields limit 0 =
      (order.take limit).map (returned stats affinity game.table fields) := by
  have whole : window limit 0 order = order.take limit := if_pos ⟨small, Nat.zero_le _⟩
  have ranked : getServers sqlite game (some stats) query fields limit 0 =
      (getServers sqlite game none query fields limit 0).map (rank (rankedServers stats)) := rfl
  rw [ranked, getServers_executedFilter, selects, whole, List.map_map, List.map_map]
  rfl

theorem results_of_picks (spelled : Spelled sqlite affinity equals game query filter executed)
    (picks : PicksSatisfying equals game stats executed filter) :
    ResultsSatisfy sqlite affinity equals game stats query filter := by
  intro fields columns selectable limit small
  obtain ⟨order, perm, selects⟩ := spelled.runs fields columns selectable
  refine ⟨order, ?_, getServers_readsAs selects limit small⟩
  rwa [List.filter_congr picks] at perm

/-- The endpoints of returned servers tell their rows. -/
theorem returned_key {table : Table} (listable : Listable table) {entry : TableRow}
    (held : entry ∈ table.rows.toList) (fields : List Bytes) :
    (⟨(returned stats affinity table fields entry).publicIp,
      (returned stats affinity table fields entry).publicPort⟩ : RowKey) = entry.1 := by
  have row : entry.1 ∈ table.rows := OrdMap.mem_iff.mpr ⟨entry.2, OrdMap.mem_toList.mp held⟩
  obtain ⟨address, port⟩ := rank_endpoint (rankedServers stats) (table.shown affinity fields entry)
  rw [returned, address, port]
  have whole : cstr entry.1.publicIp = entry.1.publicIp :=
    cstr_eq_self (listable.addresses entry.1 row)
  exact congrArg (RowKey.mk · entry.1.publicPort) whole

/-- With distinct keys, the keys of the rows that were picked tell which rows these are. -/
theorem picked_iff {rows list : List TableRow} (distinct : (rows.map Prod.fst).Nodup)
    {p : TableRow → Bool} (perm : list.Perm (rows.filter p)) {entry : TableRow}
    (held : entry ∈ rows) : p entry ↔ entry.1 ∈ list.map Prod.fst := by
  constructor
  · intro picked
    exact List.mem_map_of_mem (perm.mem_iff.mpr (List.mem_filter.mpr ⟨held, picked⟩))
  · intro listed
    obtain ⟨other, mem, same⟩ := List.mem_map.mp listed
    obtain ⟨held', picked⟩ := List.mem_filter.mp (perm.mem_iff.mp mem)
    rwa [← List.inj_on_of_nodup_map distinct held' held same]

/-- With room for every row, the list is the picked rows, and their keys are what is returned. -/
theorem returned_keys {table : Table} (listable : Listable table) {list : List TableRow}
    {p : TableRow → Bool} (perm : list.Perm (table.rows.toList.filter p)) (fields : List Bytes) :
    ((list.take table.rows.size).map (returned stats affinity table fields)).map
        (fun server => (⟨server.publicIp, server.publicPort⟩ : RowKey)) = list.map Prod.fst := by
  have rows : table.rows.toList.length = table.rows.size := Std.ExtTreeMap.length_toList
  have short : list.length ≤ table.rows.size := by
    rw [perm.length_eq, ← rows]
    exact List.length_filter_le _ _
  rw [List.take_of_length_le short, List.map_map]
  apply List.map_congr_left
  intro entry mem
  exact returned_key listable (List.mem_filter.mp (perm.mem_iff.mp mem)).1 fields

theorem picks_of_results (listable : Listable game.table)
    (spelled : Spelled sqlite affinity equals game query filter executed)
    (results : ResultsSatisfy sqlite affinity equals game stats query filter) :
    PicksSatisfying equals game stats executed filter := by
  have none : game.table.Columns [] := fun _ mem => absurd mem List.not_mem_nil
  have selectable := sqlite.selectable_nil
  obtain ⟨picked, pickedPerm, selects⟩ := spelled.runs [] none selectable
  obtain ⟨order, perm, same⟩ := results [] none selectable game.table.rows.size listable.size
  rw [getServers_readsAs selects _ listable.size] at same
  have keys : picked.map Prod.fst = order.map Prod.fst := by
    rw [← @returned_keys affinity stats game.table listable picked _ pickedPerm [], same]
    exact returned_keys listable perm []
  have distinct := OrdMap.toList_keys_nodup game.table.rows
  intro entry held
  rw [Bool.eq_iff_iff, picked_iff distinct pickedPerm held, picked_iff distinct perm held, keys]

/-- **The servers that are returned are those that satisfy the filter exactly when the filter
as it is executed picks, by what the servers reported, the rows that satisfy it.** -/
theorem ranked_filter_iff (spelled : Spelled sqlite affinity equals game query filter executed) :
    (PicksSatisfying equals game stats executed filter →
      ResultsSatisfy sqlite affinity equals game stats query filter) ∧
    (Listable game.table →
      ResultsSatisfy sqlite affinity equals game stats query filter →
      PicksSatisfying equals game stats executed filter) :=
  ⟨results_of_picks spelled, fun listable => picks_of_results listable spelled⟩

/-- A filter that is executed as it is means what it says. -/
theorem spelled_of_same (same : executedFilter query = query)
    (means : ReadsAs sqlite affinity equals game.table query (some filter)) :
    Spelled sqlite affinity equals game query filter (some filter) :=
  ⟨means, by rwa [same]⟩

/-- It picks the rows that satisfy it when every server reports the flags it asks for as the
client gets them. -/
theorem picks_of_honest (honest : ∀ entry ∈ game.table.rows.toList, ∀ equality ∈ filter.atoms,
      game.table.value? entry.2 equality.key =
        told stats entry.1 (game.table.value? entry.2) equality.key) :
    PicksSatisfying equals game stats (some filter) filter := by
  intro entry held
  rw [Table.Picks, Option.any_some, Satisfies]
  refine Formula.met_congr fun equality mem => ?_
  rw [Table.equality, Table.equality, honest entry held equality mem]

/-- **Honest servers are listed as the filter asks.** -/
theorem results_of_honest (same : executedFilter query = query)
    (means : ReadsAs sqlite affinity equals game.table query (some filter))
    (honest : ∀ entry ∈ game.table.rows.toList, ∀ equality ∈ filter.atoms,
      game.table.value? entry.2 equality.key =
        told stats entry.1 (game.table.value? entry.2) equality.key) :
    ResultsSatisfy sqlite affinity equals game stats query filter :=
  results_of_picks (spelled_of_same same means) (picks_of_honest honest)

end Results

namespace FilterSample

open StoreSample (affinity)

def query : Bytes := ascii "bf2_ranked = 1"

def filter : Filter := .atom ⟨rankedKey, .number (ascii "1")⟩

/-- Equality of canonical numbers, and of texts. -/
def equals : Equals
  | _, value, .number digits => value == digits
  | _, value, .text text => value == text

def clause : Bytes := ascii " FROM server WHERE bf2_ranked = 1 LIMIT "

/-- A database that answers the one filter. -/
def sqlite : Sqlite where
  reserved := StoreSample.sqlite.reserved
  special := StoreSample.sqlite.special
  select table text :=
    let behind := (text.drop 7).dropWhile (· ≠ 32)
    let numbers := StoreSample.windowOf (behind.drop clause.length)
    if clause.isPrefixOf behind then
      (window numbers.1 numbers.2
        (table.rows.toList.filter (table.Picks equals (some filter)))).map
          (table.readRow affinity (selectedFields text))
    else []
  fails _ _ := false

theorem readsAs (table : Table) : ReadsAs sqlite affinity equals table query (some filter) := by
  intro fields columns _
  have valid : ∀ field ∈ fields, isValidParamName field := fun field mem => (columns field mem).1
  refine ⟨_, .refl _, fun limit skip => ?_⟩
  have behind : ((Game.selectText query fields limit skip).drop 7).dropWhile (· ≠ 32) =
      clause ++ (Numeral.decimal limit ++
        (if skip = 0 then [] else ascii " OFFSET " ++ Numeral.decimal skip)) :=
    StoreSample.selectText_behind valid query limit skip
  have begins : clause.isPrefixOf (clause ++ (Numeral.decimal limit ++
      (if skip = 0 then [] else ascii " OFFSET " ++ Numeral.decimal skip))) :=
    List.isPrefixOf_iff_prefix.mpr (List.prefix_append _ _)
  rw [sqlite]
  dsimp only
  rw [behind, if_pos begins, List.drop_left, StoreSample.windowOf_text,
    selectedFields_selectText valid]

theorem spelled (game : Game) : Spelled sqlite affinity equals game query filter (some filter) :=
  spelled_of_same rfl (readsAs game.table)

/-- The connected game. -/
def start : Game := (Game.connect sqlite bf2Data).toOption.getD (Game.empty bf2Data)

theorem start_connected : Game.connect sqlite bf2Data = .ok start := by
  have connects : Fallible.Returns (Game.connect sqlite bf2Data) := by decide
  obtain ⟨g, connected⟩ := connects
  simp [start, connected, Except.toOption]

/-- A server that reports itself ranked. -/
def server : ServerData where
  publicIp := ascii "192.168.0.7"
  publicPort := 16567
  data := OrdMap.emplaceAll [(rankedKey, ascii "1")] ∅

def game : Game := Run.final (Game.callStep sqlite) start ([server].map .add)

/-- Its provider is authorised. -/
def row : StatsRow := ⟨ascii "192.168.0.7", 16567, false⟩

theorem ranked_filter_authorised :
    ResultsSatisfy sqlite affinity equals game [row] query filter :=
  (ranked_filter_iff (spelled game)).1 (by decide +kernel)

/-- No row authorises it. -/
theorem ranked_filter_fails_unauthorised :
    ¬ ∀ (sqlite : Sqlite) (affinity : Affinity) (equals : Equals) (start : Game),
      Game.connect sqlite bf2Data = .ok start → ∀ (servers : List ServerData)
        (stats : List StatsRow) (query : Bytes) (filter : Filter) (executed : Option Filter),
        (∀ equality ∈ filter.atoms, equality.key ∈ bf2Data.keys.map (·.name)) →
        Spelled sqlite affinity equals
          (Run.final (Game.callStep sqlite) start (servers.map .add)) query filter executed →
        ResultsSatisfy sqlite affinity equals
          (Run.final (Game.callStep sqlite) start (servers.map .add)) stats query filter := by
  intro claimed
  have keys : ∀ equality ∈ filter.atoms, equality.key ∈ bf2Data.keys.map (·.name) := by
    decide
  have results : ResultsSatisfy sqlite affinity equals game [] query filter :=
    claimed sqlite affinity equals start start_connected [server] [] query filter (some filter) keys
      (spelled game)
  obtain ⟨order, perm, same⟩ := results [] (fun _ mem => absurd mem List.not_mem_nil)
    sqlite.selectable_nil 1 (by decide)
  have satisfying : game.table.rows.toList.filter
      (Satisfies equals game [] filter) = [] := by
    decide +kernel
  have returned : (getServers sqlite game (some []) query [] 1 0).length = 1 := by decide +kernel
  rw [satisfying] at perm
  rw [List.perm_nil.mp perm] at same
  have empty : getServers sqlite game (some []) query [] 1 0 = [] := same
  rw [empty] at returned
  cases returned

end FilterSample

end BF2

end GamespyEmulator
