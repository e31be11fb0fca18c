import GamespyEmulator.Game.Calls

/-!
`GetServers` with an empty query. `SelectsAll` states what the code relies on: without
a condition the statement yields every row once, in some order, and reads each
requested text column as the row's value or the column's default.
-/

namespace GamespyEmulator

open Wire

/-! ### What SQLite does -/

/-- The text a field of a row reads as: the row's value, or the column's default, or
the empty string for NULL. -/
def Table.cell (table : Table) (row : OrdMap Bytes Bytes) (field : Bytes) : Bytes :=
  row[field]?.getD (((table.columns.find? (·.name = field)).bind (·.default)).getD [])

def Table.resultRow (table : Table) (fields : List Bytes)
    (entry : RowKey × OrdMap Bytes Bytes) : ResultRow :=
  ⟨entry.1.publicIp, entry.1.publicPort, fields.map (table.cell entry.2)⟩

/-- The fields are names of text columns. -/
def Table.TextFields (table : Table) (fields : List Bytes) : Prop :=
  ∀ field ∈ fields, isValidParamName field ∧
    ∃ column ∈ table.columns, column.name = field ∧ column.store = .asText

/-- The largest `LIMIT` SQLite takes. -/
def maxLimit : Nat := 2 ^ 63 - 1

/-- `SELECT … FROM server LIMIT limit` over text columns that can be selected, with room for
every row. -/
def SelectsAll (sqlite : Sqlite) : Prop :=
  ∀ (table : Table) (fields : List Bytes) (limit : Nat), table.TextFields fields →
    sqlite.Selectable fields → table.rows.size ≤ limit → limit ≤ maxLimit →
    (sqlite.select table (Game.selectText [] fields limit 0)).Perm
      (table.rows.toList.map (table.resultRow fields))

/-! ### What `GetServers` makes of it -/

/-- The data of a server read from a row: each field's cell, for the fields that were
requested. -/
theorem saved_data {fields : List Bytes} {row : ResultRow} (read : Bytes → Bytes)
    (cells : row.cells = fields.map read) (field : Bytes) :
    (Game.ResultRow.saved fields row).data[field]? =
      if field ∈ fields then some (cstr (read field)) else none := by
  let pairs := fields.zipIdx.map fun place => (place.1, cstr (row.cells.getD place.2 []))
  have each : ∀ pair ∈ pairs, pair.1 ∈ fields ∧ pair.2 = cstr (read pair.1) := by
    intro pair mem
    obtain ⟨⟨name, i⟩, at_, rfl⟩ := List.mem_map.mp mem
    have here : fields[i]? = some name := List.mem_zipIdx_iff_getElem?.mp at_
    exact ⟨List.mem_of_getElem? here, by simp [cells, List.getD_eq_getElem?_getD, here]⟩
  have source : ∀ value : Bytes,
      (OrdMap.emplaceAll pairs (∅ : OrdMap Bytes Bytes))[field]? = some value →
      field ∈ fields ∧ value = cstr (read field) := by
    intro value found
    rcases OrdMap.emplaceAll_getElem?_source found with mem | absent
    · exact each _ mem
    · simp at absent
  split
  · rename_i requested
    have held : field ∈ OrdMap.emplaceAll pairs (∅ : OrdMap Bytes Bytes) := by
      refine OrdMap.mem_emplaceAll.mpr (.inr ?_)
      obtain ⟨i, inside, eq⟩ := List.mem_iff_getElem.mp requested
      refine List.mem_map.mpr ⟨(field, cstr (row.cells.getD i [])),
        List.mem_map.mpr ⟨(field, i), ?_, rfl⟩, rfl⟩
      exact List.mem_zipIdx_iff_getElem?.mpr (by simp [inside, eq])
    obtain ⟨value, found⟩ := OrdMap.mem_iff.mp held
    rw [← (source value found).2]
    exact found
  · rename_i apart
    apply Option.eq_none_iff_forall_ne_some.mpr
    intro value found
    exact apart (source value found).1

theorem saved_getElem? (table : Table) (entry : RowKey × OrdMap Bytes Bytes) {fields : List Bytes}
    {field : Bytes} (requested : field ∈ fields) :
    (Game.ResultRow.saved fields (table.resultRow fields entry)).data[field]? =
      some (cstr (table.cell entry.2 field)) := by
  rw [saved_data (table.cell entry.2) rfl field, if_pos requested]

namespace Game

theorem getServers_perm {sqlite : Sqlite} (selects : SelectsAll sqlite) {game : Game}
    {fields : List Bytes} {limit : Nat} (text : game.table.TextFields fields)
    (selectable : sqlite.Selectable fields) (room : game.table.rows.size ≤ limit)
    (small : limit ≤ maxLimit) :
    (game.getServers sqlite [] fields limit 0).Perm
      (game.table.rows.toList.map fun entry =>
        ResultRow.saved fields (game.table.resultRow fields entry)) := by
  have rows := (selects game.table fields limit text selectable room small).map (ResultRow.saved fields)
  rwa [List.map_map] at rows

end Game

/-! ### A database that does so

The statement text determines the fields, so a function of the text can answer as
SQLite does. -/

/-- The fields behind the three internal columns of a `SELECT` text. -/
def selectedFields (text : Bytes) : List Bytes :=
  (((text.drop 7).takeWhile (· ≠ 32)).splitOn 44).drop 3

theorem validName_free {name : Bytes} (valid : isValidParamName name) {c : UInt8}
    (notName : (isAlnum c || c == underscore) = false) : c ∉ name := by
  intro mem
  unfold isValidParamName at valid
  split at valid
  · cases valid
  · have all := (Bool.and_eq_true_iff.mp valid).2
    rw [List.all_eq_true.mp all c mem] at notName
    cases notName

/-- The columns of a `SELECT`, as its text lists them. -/
def columnText (fields : List Bytes) : Bytes :=
  ascii "__last_update,__public_ip,__public_port" ++ fields.flatMap fun field => 44 :: field

theorem selectText_columns (query : Bytes) (fields : List Bytes) (limit skip : Nat) :
    (Game.selectText query fields limit skip).drop 7 =
      columnText fields ++ 32 :: (ascii "FROM server" ++
        ((if query.isEmpty then [] else ascii " WHERE " ++ query) ++ (ascii " LIMIT " ++
          (Numeral.decimal limit ++
            (if skip = 0 then [] else ascii " OFFSET " ++ Numeral.decimal skip))))) := by
  simp only [Game.selectText, columnText, List.append_assoc]
  rfl

theorem columnText_blankFree {fields : List Bytes} (valid : ∀ field ∈ fields,
    isValidParamName field) : ∀ c ∈ columnText fields, c ≠ 32 := by
  intro c mem blank
  rw [blank, columnText, List.mem_append, List.mem_flatMap] at mem
  rcases mem with internal | ⟨field, requested, inside⟩
  · revert internal
    decide
  · rcases List.mem_cons.mp inside with comma | name
    · cases comma
    · exact validName_free (valid field requested) rfl name

theorem columnText_splitOn {fields : List Bytes} (valid : ∀ field ∈ fields,
    isValidParamName field) : ((columnText fields).splitOn 44).drop 3 = fields := by
  let columns := [ascii "__last_update", ascii "__public_ip", ascii "__public_port"] ++ fields
  have joined : columnText fields = [44].intercalate columns := by
    have tail : ∀ (name : Bytes) (rest : List Bytes),
        name ++ (rest.flatMap fun field => 44 :: field) = [44].intercalate (name :: rest) := by
      intro name rest
      induction rest generalizing name with
      | nil => simp [List.intercalate]
      | cons next rest ih =>
          rw [List.flatMap_cons, List.cons_append, ih next]
          simp [List.intercalate]
    have := tail (ascii "__last_update") ([ascii "__public_ip", ascii "__public_port"] ++ fields)
    rw [List.flatMap_append, ← List.append_assoc] at this
    exact this
  have commaFree : ∀ column ∈ columns, (44 : UInt8) ∉ column := by
    intro column mem
    rcases List.mem_append.mp mem with internal | field
    · have internals : ∀ column ∈ [ascii "__last_update", ascii "__public_ip",
          ascii "__public_port"], (44 : UInt8) ∉ column := by decide
      exact internals column internal
    · exact validName_free (valid column field) rfl
  rw [joined, List.splitOn_intercalate 44 commaFree (by simp [columns])]
  rfl

theorem selectedFields_selectText {fields : List Bytes} (valid : ∀ field ∈ fields,
    isValidParamName field) (query : Bytes) (limit skip : Nat) :
    selectedFields (Game.selectText query fields limit skip) = fields := by
  rw [selectedFields, selectText_columns, List.takeWhile_append_of_pos,
    List.takeWhile_cons_of_neg (by simp), List.append_nil, columnText_splitOn valid]
  intro c mem
  simpa using columnText_blankFree valid c mem

namespace StoreSample

/-- Some of SQLite's keywords that cannot name a column. -/
def keywords : List Bytes :=
  ["add", "all", "and", "as", "case", "check", "create", "default", "from", "group", "in", "index",
    "order", "select", "set", "table", "to", "transaction", "where"].map ascii

/-- The keywords that can. -/
def specialWords : List Bytes :=
  ["cast", "current_date", "current_time", "current_timestamp", "raise"].map ascii

def sqlite : Sqlite where
  reserved name := keywords.contains (name.map toLower)
  special name := specialWords.contains (name.map toLower)
  select table text := table.rows.toList.map (table.resultRow (selectedFields text))
  fails _ _ := false

theorem selectsAll : SelectsAll sqlite := by
  intro table fields limit text _ _ _
  have valid : ∀ field ∈ fields, isValidParamName field := fun field mem => (text field mem).1
  simp only [sqlite, selectedFields_selectText valid]
  exact .refl _

end StoreSample

end GamespyEmulator
