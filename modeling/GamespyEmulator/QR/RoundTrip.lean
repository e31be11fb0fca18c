import GamespyEmulator.QR.Format

/-!
Heartbeats read back: a listing of a map followed by a player and a team table
parses to exactly that map and those tables if, and only if, no cell of either
table is empty. An empty cell is taken for the string that closes the header and
is dropped, so the rows after it shift.
-/

namespace GamespyEmulator

open Wire

/-! ### The map -/

/-- One turn of the map loop on a terminated string. -/
theorem QRMap.loop_terminated {s : Bytes} (free : NulFree s) (data : OrdMap Bytes Bytes)
    (key rest : Bytes) :
    QRMap.loop data key (terminated s ++ rest) =
      if key.isEmpty then
        if s.isEmpty then .ok (data, rest) else QRMap.loop data s rest
      else QRMap.loop (data.insertIfNew key s) [] rest := by
  rw [QRMap.loop]
  split
  · simp_all [terminated]
  · split
    · rename_i absent
      rw [splitNul_terminated free] at absent
      cases absent
    · rename_i str pos found
      rw [splitNul_terminated free] at found
      cases found
      rfl

theorem QRMap.loop_pairs {pairs : List (Bytes × Bytes)} (wire : WirePairs pairs)
    (data : OrdMap Bytes Bytes) (pos : Bytes) :
    QRMap.loop data [] (strings (pairStrings pairs) ++ pos) =
      QRMap.loop (OrdMap.emplaceAll pairs data) [] pos := by
  induction pairs generalizing data with
  | nil => rfl
  | cons e rest ih =>
      obtain ⟨nonempty, keyFree, valueFree⟩ := wire e List.mem_cons_self
      have wireRest : WirePairs rest := fun f hf => wire f (List.mem_cons_of_mem _ hf)
      simp only [pairStrings_cons, strings_cons, List.append_assoc]
      rw [QRMap.loop_terminated keyFree, QRMap.loop_terminated valueFree]
      simpa [nonempty, OrdMap.emplaceAll] using ih wireRest (data.insertIfNew e.1 e.2)

/-- A closed listing is read whole, and the position is left behind it. -/
theorem QRMap.parse_encodeMap {pairs : List (Bytes × Bytes)} (wire : WirePairs pairs)
    (rest : Bytes) :
    QRMap.parse (encodeMap pairs ++ rest) = .ok (OrdMap.emplaceAll pairs ∅, rest) := by
  have nonempty : (encodeMap pairs ++ rest).isEmpty = false := by simp [encodeMap, terminated]
  rw [QRMap.parse, nonempty, encodeMap, List.append_assoc, QRMap.loop_pairs wire,
    QRMap.loop_terminated nulFree_nil]
  simp

/-! ### Tables -/

namespace QRTable

@[simp] theorem lastSize_snoc (rows : List Row) (row : Row) :
    lastSize (rows ++ [row]) = row.length := by
  simp [lastSize]

theorem pushCell_new {width : Nat} {rows : List Row} (full : ∀ row ∈ rows, row.length = width)
    (cell : Bytes) : pushCell width rows cell = rows ++ [[cell]] := by
  unfold pushCell
  rw [if_pos]
  rcases List.eq_nil_or_concat rows with rfl | ⟨front, row, rfl⟩
  · simp
  · simp [full row (by simp)]

theorem pushCell_partial {width : Nat} {row : Row} (short : row.length ≠ width) (rows : List Row)
    (cell : Bytes) : pushCell width (rows ++ [row]) cell = rows ++ [row ++ [cell]] := by
  simp [pushCell, short]

/-- One turn of the table loop on a terminated string. -/
theorem loop_terminated {s : Bytes} (free : NulFree s) (headerEnd : Bytes) (count : UInt16)
    (headersParsed : Bool) (headers : Row) (rows : List Row) (rest : Bytes) :
    loop headerEnd count headersParsed headers rows (terminated s ++ rest) =
      if !headersParsed && headerEnd.isSuffixOf s then
        loop headerEnd count headersParsed (headers ++ [s]) rows rest
      else if headers.isEmpty then .error .unexpectedEnd
      else if s.isEmpty then
        if count = 0 then .ok (headers, rows, rest)
        else loop headerEnd count true headers rows rest
      else
        if (pushCell headers.length rows s).length = count.toNat ∧
            lastSize (pushCell headers.length rows s) = headers.length then
          .ok (headers, pushCell headers.length rows s, rest)
        else loop headerEnd count headersParsed headers (pushCell headers.length rows s) rest := by
  rw [loop]
  split
  · simp_all [terminated]
  · split
    · rename_i absent
      rw [splitNul_terminated free] at absent
      cases absent
    · rename_i column pos found
      rw [splitNul_terminated free] at found
      cases found
      rfl

theorem loop_headers {suffix : Bytes} {names : Row}
    (ok : ∀ h ∈ names, NulFree h ∧ suffix <:+ h) (count : UInt16) (headers : Row)
    (rows : List Row) (pos : Bytes) :
    loop suffix count false headers rows (strings names ++ pos) =
      loop suffix count false (headers ++ names) rows pos := by
  induction names generalizing headers with
  | nil => simp
  | cons h rest ih =>
      obtain ⟨free, ends⟩ := ok h List.mem_cons_self
      have okRest := fun g hg => ok g (List.mem_cons_of_mem _ hg)
      simp only [strings_cons, List.append_assoc]
      rw [loop_terminated free, if_pos (by simpa using ends), ih okRest]
      simp

section Cells

variable {suffix : Bytes} {count : UInt16} {headers : Row} {pos : Bytes}

/-- The cells that complete a started row: the loop stops behind them when this
was the last row. -/
theorem loop_rest_of_row (nonempty : headers ≠ []) {cells : Row}
    (ok : ∀ c ∈ cells, NulFree c ∧ c ≠ []) (some_left : cells ≠ []) {row : Row} {rows : List Row}
    (fits : row.length + cells.length = headers.length) :
    loop suffix count true headers (rows ++ [row]) (strings cells ++ pos) =
      if rows.length + 1 = count.toNat then .ok (headers, rows ++ [row ++ cells], pos)
      else loop suffix count true headers (rows ++ [row ++ cells]) pos := by
  induction cells generalizing row with
  | nil => exact absurd rfl some_left
  | cons c rest ih =>
      obtain ⟨free, filled⟩ := ok c List.mem_cons_self
      have okRest := fun d hd => ok d (List.mem_cons_of_mem _ hd)
      have short : row.length ≠ headers.length := by simp only [List.length_cons] at fits; omega
      simp only [strings_cons, List.append_assoc]
      rw [loop_terminated free, pushCell_partial short]
      simp only [Bool.not_true, Bool.false_and, Bool.false_eq_true, if_false,
        List.isEmpty_iff, nonempty, filled, lastSize_snoc, List.length_append, List.length_cons,
        List.length_nil, Nat.zero_add]
      cases rest with
      | nil =>
          have : row.length + 1 = headers.length := by simpa using fits
          simp [this]
      | cons d rest =>
          have : row.length + 1 ≠ headers.length := by simp only [List.length_cons] at fits; omega
          rw [if_neg (by simp [this]), ih okRest (by simp) (by simp at fits ⊢; omega)]
          simp

/-- One whole row of nonempty cells. -/
theorem loop_row (nonempty : headers ≠ []) {row : Row} (ok : ∀ c ∈ row, NulFree c ∧ c ≠ [])
    (width : row.length = headers.length) {rows : List Row}
    (full : ∀ r ∈ rows, r.length = headers.length) :
    loop suffix count true headers rows (strings row ++ pos) =
      if rows.length + 1 = count.toNat then .ok (headers, rows ++ [row], pos)
      else loop suffix count true headers (rows ++ [row]) pos := by
  cases row with
  | nil => exact absurd (List.length_eq_zero_iff.mp width.symm) nonempty
  | cons c rest =>
      obtain ⟨free, filled⟩ := ok c List.mem_cons_self
      have okRest := fun d hd => ok d (List.mem_cons_of_mem _ hd)
      simp only [strings_cons, List.append_assoc]
      rw [loop_terminated free, pushCell_new full]
      simp only [Bool.not_true, Bool.false_and, Bool.false_eq_true, if_false,
        List.isEmpty_iff, nonempty, filled, lastSize_snoc, List.length_append, List.length_cons,
        List.length_nil, Nat.zero_add]
      cases rest with
      | nil =>
          have : 1 = headers.length := by simpa using width
          simp [← this]
      | cons d rest =>
          have : 1 ≠ headers.length := by simp only [List.length_cons] at width; omega
          rw [if_neg (by simp [this]),
            loop_rest_of_row nonempty okRest (by simp) (by simp at width ⊢; omega)]
          simp

/-- All rows the section announces; the loop stops behind the last cell. -/
theorem loop_rows (nonempty : headers ≠ []) {left : List Row}
    (ok : ∀ c ∈ left.flatten, NulFree c ∧ c ≠ []) (widths : ∀ r ∈ left, r.length = headers.length)
    (some_left : left ≠ []) {rows : List Row} (full : ∀ r ∈ rows, r.length = headers.length)
    (total : rows.length + left.length = count.toNat) :
    loop suffix count true headers rows (strings left.flatten ++ pos) =
      .ok (headers, rows ++ left, pos) := by
  induction left generalizing rows with
  | nil => exact absurd rfl some_left
  | cons row rest ih =>
      have okRow : ∀ c ∈ row, NulFree c ∧ c ≠ [] := fun c hc => ok c (by simp [hc])
      have okRest : ∀ c ∈ rest.flatten, NulFree c ∧ c ≠ [] := fun c hc => ok c (by
        rw [List.flatten_cons]
        exact List.mem_append_right _ hc)
      have width := widths row List.mem_cons_self
      have widthsRest := fun r hr => widths r (List.mem_cons_of_mem _ hr)
      simp only [List.flatten_cons, strings_append, List.append_assoc]
      rw [loop_row nonempty okRow width full]
      cases rest with
      | nil =>
          rw [if_pos (by simpa using total)]
          simp
      | cons next rest =>
          have fullRow : ∀ r ∈ rows ++ [row], r.length = headers.length := by
            intro r hr
            rcases List.mem_append.mp hr with h | h
            · exact full r h
            · rw [List.mem_singleton.mp h]
              exact width
          rw [if_neg (by simp only [List.length_cons] at total; omega),
            ih okRest widthsRest (by simp) fullRow (by simp at total ⊢; omega)]
          simp

end Cells

/-- A table without empty cells is read whole, and the position is left behind it. -/
theorem parse_encode {suffix : Bytes} (proper : suffix ≠ []) (table : WireTable suffix)
    (filled : table.Filled) (rest : Bytes) :
    parse suffix (table.encode ++ rest) = .ok (⟨table.headers, table.rows⟩, rest) := by
  have cells : ∀ c ∈ table.rows.flatten, NulFree c ∧ c ≠ [] := fun c hc =>
    ⟨table.cells_free c hc, filled c hc⟩
  have count : (readBe16 (UInt16.ofNat table.rows.length >>> 8).toUInt8
      (UInt16.ofNat table.rows.length).toUInt8).toNat = table.rows.length := by
    rw [readBe16_be16, table.count_toNat]
  have noHeader : suffix.isSuffixOf ([] : Bytes) = false := by
    simpa [Bool.eq_false_iff, List.suffix_nil] using proper
  simp only [parse, WireTable.encode, be16, List.cons_append, List.nil_append, List.append_assoc]
  rw [readBe16_be16] at count ⊢
  rw [loop_headers table.headers_ok, List.nil_append, loop_terminated nulFree_nil]
  simp only [noHeader, Bool.and_false, Bool.false_eq_true, if_false, List.isEmpty_iff,
    table.headers_ne, if_true]
  by_cases empty : table.rows = []
  · simp [empty]
  · have positive : UInt16.ofNat table.rows.length ≠ 0 := by
      intro zero
      rw [zero] at count
      exact empty (List.length_eq_zero_iff.mp count.symm)
    rw [if_neg positive, loop_rows table.headers_ne cells table.rows_width empty (by simp)
      (by simp [count])]
    have last : lastSize table.rows = table.headers.length := by
      obtain ⟨front, row, split⟩ := (List.eq_nil_or_concat table.rows).resolve_left empty
      rw [split, List.concat_eq_append, lastSize_snoc]
      exact table.rows_width row (by simp [split])
    simp [count, last]

theorem pushCell_flatten (width : Nat) (rows : List Row) (cell : Bytes) :
    (pushCell width rows cell).flatten = rows.flatten ++ [cell] := by
  unfold pushCell
  split
  · simp
  · rename_i started
    rcases List.eq_nil_or_concat rows with rfl | ⟨front, row, rfl⟩
    · simp at started
    · simp

private theorem filled_pushCell {width : Nat} {rows : List Row} {cell : Bytes}
    (filled : ∀ c ∈ rows.flatten, c ≠ []) (nonempty : ¬ cell.isEmpty = true) :
    ∀ c ∈ (pushCell width rows cell).flatten, c ≠ [] := by
  intro c mem
  rw [pushCell_flatten] at mem
  rcases List.mem_append.mp mem with old | new
  · exact filled c old
  · rw [List.mem_singleton.mp new]
    simpa using nonempty

/-- Only nonempty strings become cells. -/
theorem loop_filled {suffix : Bytes} {count : UInt16} {headersParsed : Bool} {headers headers' : Row}
    {rows rows' : List Row} {pos pos' : Bytes} (filled : ∀ c ∈ rows.flatten, c ≠ [])
    (h : loop suffix count headersParsed headers rows pos = .ok (headers', rows', pos')) :
    ∀ c ∈ rows'.flatten, c ≠ [] := by
  fun_induction loop suffix count headersParsed headers rows pos with
  | case1 => cases h; exact filled
  | case2 => cases h
  | case3 _ _ _ _ _ _ _ _ _ ih => exact ih filled h
  | case4 => cases h
  | case5 => cases h; exact filled
  | case6 _ _ _ _ _ _ _ _ _ _ _ _ ih => exact ih filled h
  | case7 headersParsed headers rows pos _ column rest found notHeader some nonempty cells stop =>
      simp only [Except.ok.injEq, Prod.mk.injEq] at h
      rw [← h.2.1]
      exact filled_pushCell filled nonempty
  | case8 headersParsed headers rows pos _ column rest found notHeader some nonempty cells go ih =>
      exact ih (filled_pushCell filled nonempty) h

theorem parse_filled {suffix pos rest : Bytes} {table : QRTable}
    (h : parse suffix pos = .ok (table, rest)) : ∀ c ∈ table.rows.flatten, c ≠ [] := by
  unfold parse at h
  split at h
  · rename_i hi lo pos
    dsimp only at h
    split at h
    · cases h
    · rename_i headers rows pos' done
      split at h
      · cases h
      · cases h
        exact loop_filled (by simp) done
  · cases h

end QRTable

/-! ### Heartbeats -/

theorem playerSuffix_ne : playerSuffix ≠ [] := by decide

theorem teamSuffix_ne : teamSuffix ≠ [] := by decide

/-- **A heartbeat reads back exactly when no cell of its tables is empty.** -/
theorem heartbeat_roundTrip_iff {map : OrdMap Bytes Bytes} {pairs : List (Bytes × Bytes)}
    (listing : pairs.Perm map.toList) (wire : WirePairs pairs) (players : WireTable playerSuffix)
    (teams : WireTable teamSuffix) {packet : QRPacket}
    (data : packet.data.bytes = encodeHeartbeat pairs players teams) :
    QRHeartbeatPacket.parse packet =
        .ok ⟨packet.type, packet.instanceKey, map, players.headers, players.rows, teams.headers,
          teams.rows⟩ ↔
      players.Filled ∧ teams.Filled := by
  have mapRead := QRMap.parse_encodeMap wire (players.encode ++ teams.encode)
  rw [OrdMap.emplaceAll_toList listing] at mapRead
  constructor
  · intro read
    unfold QRHeartbeatPacket.parse at read
    rw [data, encodeHeartbeat, mapRead] at read
    dsimp only at read
    split at read
    · rename_i playersRead
      split at read
      · rename_i teamsRead
        simp only [Except.ok.injEq, QRHeartbeatPacket.mk.injEq, true_and] at read
        obtain ⟨-, playerRows, -, teamRows⟩ := read
        exact ⟨fun c hc => QRTable.parse_filled playersRead c (playerRows ▸ hc),
          fun c hc => QRTable.parse_filled teamsRead c (teamRows ▸ hc)⟩
      · cases read
    · -- Without a player table the packet has no header, but every table has one.
      simp only [if_true, Except.ok.injEq, QRHeartbeatPacket.mk.injEq, true_and] at read
      exact absurd read.1.symm players.headers_ne
  · rintro ⟨playersFilled, teamsFilled⟩
    have teamsRead := QRTable.parse_encode teamSuffix_ne teams teamsFilled []
    rw [List.append_nil] at teamsRead
    unfold QRHeartbeatPacket.parse
    rw [data, encodeHeartbeat, mapRead]
    dsimp only
    rw [QRTable.parse_encode playerSuffix_ne players playersFilled]
    dsimp only
    rw [teamsRead]

namespace HeartbeatSample

def pairs : List (Bytes × Bytes) :=
  [(ascii "gamename", ascii "battlefield2"), (ascii "hostname", ascii "x")]

/-- Two players, of whom the first may be called anything. -/
def players (name : Bytes) (free : NulFree name) : WireTable playerSuffix where
  headers := [ascii "player_", ascii "score_"]
  rows := [[name, ascii "12"], [ascii "y", ascii "7"]]
  headers_ne := by decide
  headers_ok := by decide
  rows_lt := by simp
  rows_width := by simp
  cells_free := by
    have others : NulFree (ascii "12") ∧ NulFree (ascii "y") ∧ NulFree (ascii "7") := by decide
    simpa using ⟨free, others⟩

def teams : WireTable teamSuffix where
  headers := [ascii "team_t", ascii "score_t"]
  rows := [[ascii "US", ascii "3"], [ascii "MEC", ascii "5"]]
  headers_ne := by decide
  headers_ok := by decide
  rows_lt := by decide
  rows_width := by decide
  cells_free := by decide

def packet (name : Bytes) (free : NulFree name) : QRPacket :=
  ⟨.heartbeat, [1, 2, 3, 4],
    Span.whole (encodeHeartbeat pairs (players name free) teams)⟩

/-- With two named players the sample heartbeat reads back. -/
theorem heartbeat_roundTrip_named :
    QRHeartbeatPacket.parse (packet (ascii "x") (by decide)) =
      .ok ⟨.heartbeat, [1, 2, 3, 4], OrdMap.emplaceAll pairs ∅,
        [ascii "player_", ascii "score_"],
        [[ascii "x", ascii "12"], [ascii "y", ascii "7"]],
        [ascii "team_t", ascii "score_t"],
        [[ascii "US", ascii "3"], [ascii "MEC", ascii "5"]]⟩ :=
  (@heartbeat_roundTrip_iff (OrdMap.emplaceAll pairs ∅) pairs (by rfl) (by decide)
    (players (ascii "x") (by decide)) teams (packet (ascii "x") (by decide))
    (by simp [packet])).mpr ⟨by decide, by decide⟩

/-- With an unnamed player the same heartbeat does not read back. -/
theorem heartbeat_roundTrip_fails_unnamed :
    ¬ ∀ (map : OrdMap Bytes Bytes) (pairs : List (Bytes × Bytes)), pairs.Perm map.toList →
      WirePairs pairs → ∀ (players : WireTable playerSuffix) (teams : WireTable teamSuffix)
      (packet : QRPacket), packet.data.bytes = encodeHeartbeat pairs players teams →
      QRHeartbeatPacket.parse packet =
        .ok ⟨packet.type, packet.instanceKey, map, players.headers, players.rows, teams.headers,
          teams.rows⟩ := by
  intro reads
  have read := reads (OrdMap.emplaceAll pairs ∅) pairs (by rfl) (by decide)
    (players [] nulFree_nil) teams (packet [] nulFree_nil)
    (by simp [packet])
  revert read
  decide +kernel

end HeartbeatSample

end GamespyEmulator
