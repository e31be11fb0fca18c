import GamespyEmulator.QR.Packet

/-!
The heartbeat format as the game servers write it, independent of the parsers: a
listing of the key/value map, a player table and a team table. A `WireTable`
carries the shape of its header and rows, so every table encodes to a
well-formed section.
-/

namespace GamespyEmulator

open Wire

/-- The strings of a key/value listing: keys and values alternate. -/
def pairStrings (pairs : List (Bytes × Bytes)) : List Bytes :=
  pairs.flatMap fun e => [e.1, e.2]

@[simp] theorem pairStrings_nil : pairStrings [] = [] := rfl

@[simp] theorem pairStrings_cons (e : Bytes × Bytes) (rest : List (Bytes × Bytes)) :
    pairStrings (e :: rest) = e.1 :: e.2 :: pairStrings rest := rfl

/-- A key/value section: the pairs and the empty string that closes them. -/
def encodeMap (pairs : List (Bytes × Bytes)) : Bytes := strings (pairStrings pairs) ++ terminated []

/-- Keys are nonempty, and neither keys nor values hold a NUL. -/
def WirePairs (pairs : List (Bytes × Bytes)) : Prop :=
  ∀ e ∈ pairs, e.1 ≠ [] ∧ NulFree e.1 ∧ NulFree e.2

instance (pairs : List (Bytes × Bytes)) : Decidable (WirePairs pairs) := by
  unfold WirePairs; infer_instance

/-- A table whose header names end in `suffix` and whose rows are as wide as the
header; cells may be empty. -/
structure WireTable (suffix : Bytes) where
  headers : Row
  rows : List Row
  headers_ne : headers ≠ []
  headers_ok : ∀ h ∈ headers, NulFree h ∧ suffix <:+ h
  rows_lt : rows.length < 2 ^ 16
  rows_width : ∀ row ∈ rows, row.length = headers.length
  cells_free : ∀ cell ∈ rows.flatten, NulFree cell

namespace WireTable

variable {suffix : Bytes}

/-- A table section: the big-endian row count, the header, the empty string that
closes it, and the cells row by row. -/
def encode (table : WireTable suffix) : Bytes :=
  be16 (UInt16.ofNat table.rows.length) ++
    (strings table.headers ++ (terminated [] ++ strings table.rows.flatten))

/-- Every cell holds something. -/
def Filled (table : WireTable suffix) : Prop := ∀ cell ∈ table.rows.flatten, cell ≠ []

instance (table : WireTable suffix) : Decidable table.Filled := by
  unfold Filled; infer_instance

theorem count_toNat (table : WireTable suffix) :
    (UInt16.ofNat table.rows.length).toNat = table.rows.length := by
  simpa using Nat.mod_eq_of_lt table.rows_lt

/-- A section holds at least its count, one name and the closing string. -/
theorem encode_length (table : WireTable suffix) (proper : suffix ≠ []) :
    5 ≤ table.encode.length := by
  obtain ⟨h, rest, headers⟩ := List.exists_cons_of_ne_nil table.headers_ne
  have ends := (table.headers_ok h (by simp [headers])).2
  have : 0 < suffix.length := List.length_pos_iff.mpr proper
  have := ends.length_le
  simp only [WireTable.encode, be16, headers, strings_cons, terminated, List.length_append,
    List.length_cons, List.length_nil]
  omega

end WireTable

/-- The data of a heartbeat with players and teams. -/
def encodeHeartbeat (pairs : List (Bytes × Bytes)) (players : WireTable playerSuffix)
    (teams : WireTable teamSuffix) : Bytes :=
  encodeMap pairs ++ (players.encode ++ teams.encode)

end GamespyEmulator
