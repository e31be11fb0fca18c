import GamespyEmulator.Browser.Subscription
import GamespyEmulator.Lib.SqlText

/-!
The limit of a server list. `GetServers` appends its `LIMIT` clause to a statement that
ends with the filter of the client, and the fields of the client stand in front of it.

`limit_kept_iff` shows that the limit holds exactly when reading the statement by SQL's
lexical rules comes to the clause, or SQLite refuses the statement without it.
-/

namespace GamespyEmulator

open Wire

/-- A browser request is limited to 500 servers. -/
theorem Listing.limit_le (request : ServerListRequest) : Listing.limit request ≤ 500 := by
  have least : ∀ count : UInt32, (min count 500).toNat ≤ 500 := by
    intro count
    rw [show min count 500 = if count ≤ 500 then count else 500 from rfl]
    split
    · rename_i small
      exact UInt32.le_iff_toNat_le.mp small
    · exact le_rfl
  exact least _

namespace Game

/-- The statement of `GetServers` up to its limit. -/
def selectHead (query : Bytes) (fields : List Bytes) : Bytes :=
  ascii "SELECT __last_update,__public_ip,__public_port" ++
    ((fields.flatMap fun field => 44 :: field) ++ (ascii " FROM server" ++
      (if query.isEmpty then [] else ascii " WHERE " ++ query)))

def limitClause (limit skip : Nat) : Bytes :=
  ascii " LIMIT " ++ (Numeral.decimal limit ++
    (if skip = 0 then [] else ascii " OFFSET " ++ Numeral.decimal skip))

theorem selectText_eq (query : Bytes) (fields : List Bytes) (limit skip : Nat) :
    selectText query fields limit skip = selectHead query fields ++ limitClause limit skip := by
  simp only [selectText, selectHead, limitClause, List.append_assoc]

theorem limitClause_clause (limit skip : Nat) : Sql.Clause (limitClause limit skip) := by
  have digits : ∀ n, ∀ c ∈ Numeral.decimal n, Sql.isClause c := by
    intro n c mem
    have digit : (48 ≤ c && c ≤ 57) = true := Numeral.decimal_all_digits n c mem
    unfold Sql.isClause
    rw [digit]
    simp
  have words : ∀ c ∈ ascii " LIMIT " ++ ascii " OFFSET ", Sql.isClause c := by decide +kernel
  refine ⟨rfl, fun c mem => ?_⟩
  rcases List.mem_append.mp mem with limit | rest
  · exact words c (List.mem_append_left _ limit)
  · rcases List.mem_append.mp rest with number | offset
    · exact digits _ c number
    · split at offset
      · cases offset
      · rcases List.mem_append.mp offset with offset | number
        · exact words c (List.mem_append_right _ offset)
        · exact digits _ c number

/-! ### What SQLite does with the text -/

/-- `prepares` are the texts that `sqlite3_prepare_v2` takes: none that ends in a literal. A
limit clause in a comment or behind the end of the statement makes no more difference than a
blank there, and one in force limits the rows. -/
structure Lexical (sqlite : Sqlite) (prepares : Table → Bytes → Prop) : Prop where
  refused : ∀ table text, ¬ prepares table text → sqlite.select table text = []
  unfinished : ∀ table text, (Sql.read text).kind = .unfinished → ¬ prepares table text
  hidden : ∀ table query fields limit skip,
    Sql.Throughout .hidden (selectHead query fields) (limitClause limit skip) →
    (prepares table (selectText query fields limit skip) ↔
      prepares table (selectHead query fields ++ [32]))
  limits : ∀ table query fields limit skip,
    Sql.Throughout .plain (selectHead query fields) (limitClause limit skip) →
    (sqlite.select table (selectText query fields limit skip)).length ≤ limit

/-! ### The limit -/

/-- The limit clause stands outside every literal and comment, and in the statement, or
the statement is refused. -/
def LimitHolds (prepares : Table → Bytes → Prop) (table : Table) (query : Bytes)
    (fields : List Bytes) (limit skip : Nat) : Prop :=
  Sql.Throughout .plain (selectHead query fields) (limitClause limit skip) ∨
    ¬ prepares table (selectText query fields limit skip)

/-- No limit is evaded with this filter and these fields. -/
structure LimitKept (sqlite : Sqlite) (prepares : Table → Bytes → Prop) (game : Game)
    (query : Bytes) (fields : List Bytes) : Prop where
  clause : ∀ limit skip, LimitHolds prepares game.table query fields limit skip
  rows : ∀ limit skip, (game.getServers sqlite query fields limit skip).length ≤ limit
  browser : ∀ request : ServerListRequest, request.serverFilter = query →
    request.fieldList = fields →
    (game.getServers sqlite query fields (Listing.limit request) 0).length ≤ 500

/-- The statement does not hide what is appended to it, unless it is refused anyway. -/
def LimitSafe (prepares : Table → Bytes → Prop) (table : Table) (query : Bytes)
    (fields : List Bytes) : Prop :=
  (Sql.read (selectHead query fields)).kind = .hidden →
    ¬ prepares table (selectHead query fields ++ [32])

section Limit

variable {sqlite : Sqlite} {prepares : Table → Bytes → Prop} (lexical : Lexical sqlite prepares)

include lexical in
theorem limitHolds_iff (table : Table) (query : Bytes) (fields : List Bytes) (limit skip : Nat) :
    LimitHolds prepares table query fields limit skip ↔ LimitSafe prepares table query fields := by
  have words := limitClause_clause limit skip
  rw [LimitHolds, LimitSafe, Sql.throughout_clause_iff words]
  cases kind : (Sql.read (selectHead query fields)).kind with
  | plain => simp
  | unfinished =>
      have text := (Sql.kind_append_clause (selectHead query fields) words).trans kind
      rw [← selectText_eq] at text
      simp [lexical.unfinished table _ text]
  | hidden =>
      have same := lexical.hidden table query fields limit skip
        ((Sql.throughout_clause_iff words).mpr kind)
      simp [same]

include lexical in
theorem rows_le_limit {table : Table} {query : Bytes} {fields : List Bytes} {limit skip : Nat}
    (holds : LimitHolds prepares table query fields limit skip) :
    (sqlite.select table (selectText query fields limit skip)).length ≤ limit := by
  rcases holds with clause | refused
  · exact lexical.limits table query fields limit skip clause
  · rw [lexical.refused table _ refused]
    exact Nat.zero_le _

/-- Without quotes, dashes, slashes, semicolons and the like nothing is hidden. -/
theorem limitSafe_of_harmless {table : Table} {query : Bytes} {fields : List Bytes}
    (filter : ∀ c ∈ query, Sql.Harmless c) (names : ∀ field ∈ fields, ∀ c ∈ field, Sql.Harmless c) :
    LimitSafe prepares table query fields := by
  intro hidden
  have words : ∀ c ∈ ascii "SELECT __last_update,__public_ip,__public_port" ++
      (ascii " FROM server" ++ ascii " WHERE "), Sql.Harmless c := by decide +kernel
  have harmless : ∀ c ∈ selectHead query fields, Sql.Harmless c := by
    intro c mem
    rcases List.mem_append.mp mem with columns | mem
    · exact words c (List.mem_append_left _ columns)
    · rcases List.mem_append.mp mem with listed | mem
      · obtain ⟨field, requested, inside⟩ := List.mem_flatMap.mp listed
        rcases List.mem_cons.mp inside with comma | name
        · exact words c (comma ▸ List.mem_append_left _ (by decide))
        · exact names field requested c name
      · rcases List.mem_append.mp mem with table | condition
        · exact words c (List.mem_append_right _ (List.mem_append_left _ table))
        · split at condition
          · cases condition
          · rcases List.mem_append.mp condition with keyword | inside
            · exact words c (List.mem_append_right _ (List.mem_append_right _ keyword))
            · exact filter c inside
  rw [Sql.plain_of_harmless harmless] at hidden
  cases hidden

end Limit

end Game

namespace LimitSample

open StoreSample (server game)

/-- A database of servers that no condition picks: it lists them only where the limit is
hidden behind a condition that always holds. -/
def sqlite : Sqlite where
  reserved := StoreSample.sqlite.reserved
  special := StoreSample.sqlite.special
  select table text :=
    if (Sql.read text).kind = .hidden then
      table.rows.toList.map (table.resultRow (selectedFields text))
    else []
  fails _ _ := false

/-- Every text that does not end in a literal. -/
def prepares (_ : Table) (text : Bytes) : Prop := (Sql.read text).kind ≠ .unfinished

theorem lexical : Game.Lexical sqlite prepares := by
  constructor
  · intro table text refused
    have kind : (Sql.read text).kind = .unfinished := not_not.mp refused
    simp [sqlite, kind]
  · exact fun table text unfinished taken => taken unfinished
  · intro table query fields limit skip hidden
    have before := (Sql.throughout_clause_iff (Game.limitClause_clause limit skip)).mp hidden
    have taken := hidden _ List.prefix_rfl
    rw [← Game.selectText_eq] at taken
    have blank : Sql.Clause [32] := ⟨rfl, fun c mem => List.mem_singleton.mp mem ▸ rfl⟩
    have taken' := (Sql.kind_append_clause (Game.selectHead query fields) blank).trans before
    simp [prepares, taken, taken']
  · intro table query fields limit skip plain
    have read := plain _ List.prefix_rfl
    rw [← Game.selectText_eq] at read
    simp [sqlite, read]

def listed : Game := Run.final (Game.callStep sqlite) game [.add (server ["hostname"])]

end LimitSample

end GamespyEmulator
