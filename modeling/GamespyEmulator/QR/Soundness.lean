import GamespyEmulator.QR.RoundTrip

/-!
What an accepted heartbeat says about its data. The parser takes more than the
format allows: a list that never closes, a section behind the list that is no
player table, tables whose strings stand out of order, and any bytes behind the
team table, for it never asks where the team table ends. `sectionRest` is the
language of table sections, stated on the strings of a section alone;
`QRTable.parse_ok_iff` shows that the table parser accepts exactly that language.
With it `heartbeat_sound_iff` says exactly which data are accepted only when well
formed.
-/

namespace GamespyEmulator

open Wire

/-! ### The map -/

theorem QRMap.loop_ok {data : OrdMap Bytes Bytes} {key pos : Bytes} (ends : EndsNul pos) :
    ∃ out, QRMap.loop data key pos = .ok out := by
  fun_induction QRMap.loop data key pos with
  | case1 data key pos empty => exact ⟨_, rfl⟩
  | case2 data key pos nonempty absent =>
      rcases ends with rfl | last
      · simp at nonempty
      · exact absurd (List.mem_of_getLast? last) (splitNul_eq_none.mp absent)
  | case3 data key pos nonempty str rest found => exact ⟨_, rfl⟩
  | case4 data key pos nonempty str rest found noKey filled ih =>
      exact ih (endsNul_append ((splitNul_eq_some found).1 ▸ ends))
  | case5 data key pos nonempty str rest found hasKey ih =>
      exact ih (endsNul_append ((splitNul_eq_some found).1 ▸ ends))

/-- A position inside the data is left only behind a closed list: behind the pairs
that follow, after the value the waiting key still lacks. -/
theorem QRMap.loop_closed {data out : OrdMap Bytes Bytes} {key pos rest : Bytes}
    (keyFree : NulFree key) (left : rest ≠ []) (h : QRMap.loop data key pos = .ok (out, rest)) :
    (key = [] → ∃ pairs, WirePairs pairs ∧ pos = encodeMap pairs ++ rest) ∧
      (key ≠ [] → ∃ v pairs, NulFree v ∧ WirePairs pairs ∧
        pos = terminated v ++ (encodeMap pairs ++ rest)) := by
  fun_induction QRMap.loop data key pos with
  | case1 data key pos empty =>
      simp only [Except.ok.injEq, Prod.mk.injEq] at h
      exact absurd (h.2 ▸ List.isEmpty_iff.mp empty) left
  | case2 => cases h
  | case3 data key pos nonempty str after found noKey closing =>
      simp only [Except.ok.injEq, Prod.mk.injEq] at h
      obtain ⟨split, -⟩ := splitNul_eq_some found
      rw [List.isEmpty_iff.mp closing, h.2] at split
      refine ⟨fun _ => ⟨[], by simp [WirePairs], split⟩, fun some => ?_⟩
      exact absurd (List.isEmpty_iff.mp noKey) some
  | case4 data key pos nonempty str after found noKey filled ih =>
      obtain ⟨split, strFree⟩ := splitNul_eq_some found
      have strNe : str ≠ [] := by simpa using filled
      obtain ⟨v, pairs, vFree, wire, tail⟩ := (ih strFree h).2 strNe
      refine ⟨fun _ => ⟨(str, v) :: pairs, ?_, ?_⟩, fun some => ?_⟩
      · rintro e (_ | ⟨_, mem⟩)
        · exact ⟨strNe, strFree, vFree⟩
        · exact wire e mem
      · rw [split, tail]
        simp [encodeMap]
      · exact absurd (List.isEmpty_iff.mp noKey) some
  | case5 data key pos nonempty str after found hasKey ih =>
      obtain ⟨split, strFree⟩ := splitNul_eq_some found
      obtain ⟨pairs, wire, tail⟩ := (ih nulFree_nil h).1 rfl
      refine ⟨fun none => absurd (List.isEmpty_iff.mpr none) hasKey, fun _ => ?_⟩
      exact ⟨str, pairs, strFree, wire, tail ▸ split⟩

/-! ### Table sections -/

/-- How much of a table section has been read: whether the header is closed, the
names in it, the rows begun, and the cells of the last one. -/
structure Progress where
  closed : Bool
  width : Nat
  rows : Nat
  last : Nat

namespace Progress

def start : Progress := ⟨false, 0, 0, 0⟩

/-- The announced rows are there, and the last one is full. -/
def Complete (count : Nat) (p : Progress) : Prop :=
  count ≤ p.rows ∧ (p.rows = 0 ∨ p.last = p.width)

instance (count : Nat) (p : Progress) : Decidable (p.Complete count) := by
  unfold Complete; infer_instance

/-- One more cell, in a new row when there is none or the last one is full. -/
def cell (p : Progress) : Progress :=
  if p.rows = 0 ∨ p.last = p.width then { p with rows := p.rows + 1, last := 1 }
  else { p with last := p.last + 1 }

end Progress

/-- The strings behind a table section with `count` announced rows; `none` when
the strings do not begin with one. A name that ends in `suffix` extends the header
until an empty string closes it, further empty strings mean nothing, and every
other string is a cell. The section ends behind the last cell, or where the header
closes when no row is announced, or with the data. -/
def sectionRest (suffix : Bytes) (count : Nat) (p : Progress) : List Bytes → Option (List Bytes)
  | [] => if p.Complete count then some [] else none
  | s :: ss =>
      if p.closed = false ∧ suffix <:+ s then
        sectionRest suffix count { p with width := p.width + 1 } ss
      else if p.width = 0 then none
      else if s = [] then
        if count = 0 then (if p.Complete count then some ss else none)
        else sectionRest suffix count { p with closed := true } ss
      else if p.cell.rows = count ∧ p.cell.last = p.width then some ss
      else sectionRest suffix count p.cell ss

/-- `pos` is a table section followed by `tail`. -/
def TableSection (suffix pos tail : Bytes) : Prop :=
  ∃ hi lo ss rest, (∀ s ∈ ss, NulFree s) ∧ pos = hi :: lo :: strings ss ∧
    sectionRest suffix (readBe16 hi lo).toNat .start ss = some rest ∧ tail = strings rest

namespace QRTable

/-- The progress a state of the table loop stands for. -/
def progress (headersParsed : Bool) (headers : Row) (rows : List Row) : Progress :=
  ⟨headersParsed, headers.length, rows.length, lastSize rows⟩

theorem progress_pushCell (headersParsed : Bool) (headers : Row) (rows : List Row) (cell : Bytes) :
    progress headersParsed headers (pushCell headers.length rows cell) =
      (progress headersParsed headers rows).cell := by
  rcases List.eq_nil_or_concat rows with rfl | ⟨front, row, rfl⟩
  · simp [progress, pushCell, Progress.cell, lastSize]
  · by_cases full : row.length = headers.length
    · simp [progress, pushCell, Progress.cell, lastSize, full]
    · simp [progress, pushCell, Progress.cell, lastSize, full]

@[simp] theorem complete_progress {count : Nat} {headersParsed : Bool} {headers : Row}
    {rows : List Row} :
    (progress headersParsed headers rows).Complete count ↔
      ¬ (rows.length < count ∨ (rows ≠ [] ∧ lastSize rows ≠ headers.length)) := by
  rw [not_or, not_lt, not_and_or, not_not, not_not, ← List.length_eq_zero_iff]
  rfl

/-- The loop leaves a complete table at `tail`. -/
def Leaves (count : UInt16) (tail : Bytes) (out : Except QRError (Row × List Row × Bytes)) : Prop :=
  ∃ headers rows, out = .ok (headers, rows, tail) ∧
    ¬ (rows.length < count.toNat ∨ (rows ≠ [] ∧ lastSize rows ≠ headers.length))

@[simp] theorem leaves_ok {count : UInt16} {tail pos : Bytes} {headers : Row} {rows : List Row} :
    Leaves count tail (.ok (headers, rows, pos)) ↔
      (progress false headers rows).Complete count.toNat ∧ tail = pos := by
  simp only [Leaves, Except.ok.injEq, Prod.mk.injEq, complete_progress]
  constructor
  · rintro ⟨_, _, ⟨rfl, rfl, rfl⟩, complete⟩
    exact ⟨complete, rfl⟩
  · rintro ⟨complete, rfl⟩
    exact ⟨headers, rows, ⟨rfl, rfl, rfl⟩, complete⟩

@[simp] theorem leaves_error {count : UInt16} {tail : Bytes} {e : QRError} :
    ¬ Leaves count tail (.error e) := by
  rintro ⟨_, _, absent, -⟩
  cases absent

/-- The loop leaves a complete table exactly where `sectionRest` ends the section. -/
theorem loop_leaves_iff {suffix : Bytes} {count : UInt16} {ss : List Bytes}
    (free : ∀ s ∈ ss, NulFree s) (closed : Bool) (headers : Row) (rows : List Row) (tail : Bytes) :
    Leaves count tail (loop suffix count closed headers rows (strings ss)) ↔
      ∃ rest, sectionRest suffix count.toNat (progress closed headers rows) ss = some rest ∧
        tail = strings rest := by
  induction ss generalizing closed headers rows with
  | nil =>
      rw [strings_nil, loop, if_pos List.isEmpty_nil, leaves_ok]
      simp [sectionRest]
  | cons s ss ih =>
      have sFree := free s List.mem_cons_self
      have ih := ih fun t ht => free t (List.mem_cons_of_mem _ ht)
      have width : (progress closed headers rows).width = 0 ↔ headers = [] :=
        List.length_eq_zero_iff
      have zero : count.toNat = 0 ↔ count = 0 := UInt16.toNat_inj (b := 0)
      rw [strings_cons, loop_terminated sFree, sectionRest]
      simp only [Bool.and_eq_true, Bool.not_eq_eq_eq_not, Bool.not_true, List.isSuffixOf_iff_suffix,
        List.isEmpty_iff, width, zero]
      by_cases header : closed = false ∧ suffix <:+ s
      · have same : (progress closed headers rows).closed = false ∧ suffix <:+ s := header
        rw [if_pos header, if_pos same, ih]
        simp [progress]
      have same : ¬ ((progress closed headers rows).closed = false ∧ suffix <:+ s) := header
      rw [if_neg header, if_neg same]
      by_cases bare : headers = []
      · simp [bare]
      rw [if_neg bare, if_neg bare]
      by_cases blank : s = []
      · rw [if_pos blank, if_pos blank]
        by_cases none : count = 0
        · rw [if_pos none, if_pos none, leaves_ok]
          simp
        · rw [if_neg none, if_neg none, ih]
          rfl
      rw [if_neg blank, if_neg blank, ← progress_pushCell]
      by_cases last : (pushCell headers.length rows s).length = count.toNat ∧
          lastSize (pushCell headers.length rows s) = headers.length
      · have same : (progress closed headers (pushCell headers.length rows s)).rows = count.toNat ∧
            (progress closed headers (pushCell headers.length rows s)).last =
              (progress closed headers rows).width := last
        rw [if_pos last, if_pos same, leaves_ok]
        simp [last]
      · have same : ¬ ((progress closed headers (pushCell headers.length rows s)).rows =
            count.toNat ∧ (progress closed headers (pushCell headers.length rows s)).last =
              (progress closed headers rows).width) := last
        rw [if_neg last, if_neg same, ih]

/-- **The table parser accepts exactly the table sections.** -/
theorem parse_ok_iff {suffix pos tail : Bytes} (ends : EndsNul pos) :
    (∃ table, parse suffix pos = .ok (table, tail)) ↔ TableSection suffix pos tail := by
  rcases pos with _ | ⟨hi, _ | ⟨lo, pos⟩⟩
  · simp [parse, TableSection]
  · simp [parse, TableSection]
  obtain ⟨ss, free, rfl⟩ := endsNul_iff_strings.mp (@endsNul_append [hi, lo] pos ends)
  have read : (∃ table, parse suffix (hi :: lo :: strings ss) = .ok (table, tail)) ↔
      Leaves (readBe16 hi lo) tail (loop suffix (readBe16 hi lo) false [] [] (strings ss)) := by
    simp only [parse]
    cases loop suffix (readBe16 hi lo) false [] [] (strings ss) with
    | error e => simp
    | ok out =>
        obtain ⟨headers, rows, pos⟩ := out
        rw [leaves_ok, complete_progress]
        dsimp only
        split
        · simp [*]
        · rename_i complete
          simp only [Except.ok.injEq, Prod.mk.injEq, complete, not_false_eq_true, true_and]
          constructor
          · rintro ⟨_, _, same⟩
            exact same.symm
          · intro same
            exact ⟨_, rfl, same.symm⟩
  rw [read]
  constructor
  · intro left
    obtain ⟨rest, found, rfl⟩ := (loop_leaves_iff free ..).mp left
    exact ⟨hi, lo, ss, rest, free, rfl, found, rfl⟩
  · rintro ⟨hi', lo', ss', rest, free', same, found, rfl⟩
    obtain ⟨rfl, rfl, sameRest⟩ : hi = hi' ∧ lo = lo' ∧ strings ss = strings ss' := by
      simpa using same
    rw [sameRest]
    exact (loop_leaves_iff free' ..).mpr ⟨rest, found, rfl⟩

theorem section_endsNul {suffix pos tail : Bytes} (h : TableSection suffix pos tail) :
    EndsNul tail := by
  obtain ⟨_, _, _, rest, _, _, _, rfl⟩ := h
  exact strings_endsNul rest

end QRTable

/-! ### Heartbeats -/

/-- A player table and a team table, and no byte behind them. -/
def TwoTables (bytes : Bytes) : Prop :=
  ∃ (players : WireTable playerSuffix) (teams : WireTable teamSuffix),
    bytes = players.encode ++ teams.encode

/-- The data is a closed list of pairs followed by `rest`. -/
def ClosedList (data rest : Bytes) : Prop :=
  ∃ pairs, WirePairs pairs ∧ data = encodeMap pairs ++ rest

/-- A well-formed heartbeat: a closed list alone, or a closed list and two tables. -/
def WellFormed (data : Bytes) : Prop :=
  ∃ rest, ClosedList data rest ∧ (rest = [] ∨ TwoTables rest)

/-- A player section whose team section is missing or incomplete. -/
def TeamsMissing (bytes : Bytes) : Prop :=
  ∃ teams, TableSection playerSuffix bytes teams ∧ ¬ ∃ tail, TableSection teamSuffix teams tail

/-- The data on which the parser is strict: none at all, a well-formed heartbeat, or
a closed list before a player section that lacks its team section. -/
def StrictOn (data : Bytes) : Prop :=
  data = [] ∨ ∃ rest, ClosedList data rest ∧ (rest = [] ∨ TwoTables rest ∨ TeamsMissing rest)

/-- The end of a closed list is where the map parser stops, so it is unique. -/
theorem closedList_unique {data rest rest' : Bytes} (h : ClosedList data rest)
    (h' : ClosedList data rest') : rest = rest' := by
  obtain ⟨pairs, wire, rfl⟩ := h
  obtain ⟨pairs', wire', same⟩ := h'
  have read := QRMap.parse_encodeMap wire' rest'
  rw [← same, QRMap.parse_encodeMap wire] at read
  exact congrArg Prod.snd (Except.ok.inj read)

/-- Behind a closed list the parser rejects only a player section that lacks its
team section. -/
theorem QRHeartbeatPacket.parse_closed {packet : QRPacket} {rest : Bytes}
    (closed : ClosedList packet.data.bytes rest) (ends : EndsNul rest) :
    (∃ heartbeat, QRHeartbeatPacket.parse packet = .ok heartbeat) ↔ ¬ TeamsMissing rest := by
  obtain ⟨pairs, wire, data⟩ := closed
  unfold QRHeartbeatPacket.parse
  rw [data, QRMap.parse_encodeMap wire]
  dsimp only
  cases players : QRTable.parse playerSuffix rest with
  | error e =>
      have noPlayers : ∀ teams, ¬ TableSection playerSuffix rest teams := by
        intro teams found
        obtain ⟨table, read⟩ := (QRTable.parse_ok_iff ends).mpr found
        rw [players] at read
        cases read
      simp [TeamsMissing, noPlayers]
  | ok out =>
      obtain ⟨table, teams⟩ := out
      have found := (QRTable.parse_ok_iff ends).mp ⟨table, players⟩
      have only : ∀ teams', TableSection playerSuffix rest teams' → teams' = teams := by
        intro teams' found'
        obtain ⟨table', read⟩ := (QRTable.parse_ok_iff ends).mpr found'
        rw [players] at read
        exact (congrArg Prod.snd (Except.ok.inj read)).symm
      have teamsRead := fun tail =>
        @QRTable.parse_ok_iff teamSuffix teams tail (QRTable.section_endsNul found)
      have rejected : TeamsMissing rest ↔ ¬ ∃ tail, TableSection teamSuffix teams tail := by
        constructor
        · rintro ⟨teams', found', missing⟩
          exact only teams' found' ▸ missing
        · exact fun missing => ⟨teams, found, missing⟩
      rw [rejected, not_not]
      dsimp only
      cases read : QRTable.parse teamSuffix teams with
      | error e => simp [← teamsRead, read]
      | ok out => exact iff_of_true ⟨_, rfl⟩ ⟨out.2, (teamsRead _).mp ⟨out.1, read⟩⟩

/-- Without a closed list the data is taken as a map, whatever it is. -/
theorem QRHeartbeatPacket.parse_unclosed {packet : QRPacket} (ends : EndsNul packet.data.bytes)
    (some_data : packet.data.bytes ≠ []) (unclosed : ¬ ∃ rest, ClosedList packet.data.bytes rest) :
    ∃ heartbeat, QRHeartbeatPacket.parse packet = .ok heartbeat := by
  obtain ⟨⟨map, pos⟩, read⟩ : ∃ out, QRMap.loop ∅ [] packet.data.bytes = .ok out :=
    QRMap.loop_ok ends
  have atEnd : pos = [] := by
    by_contra left
    obtain ⟨pairs, wire, data⟩ := (QRMap.loop_closed nulFree_nil left read).1 rfl
    exact unclosed ⟨pos, pairs, wire, data⟩
  have mapRead : QRMap.parse packet.data.bytes = .ok (map, []) := by
    rw [QRMap.parse, if_neg (by simpa using some_data), read, atEnd]
  unfold QRHeartbeatPacket.parse
  rw [mapRead]
  simp [QRTable.parse]

/-- **A heartbeat is accepted only when well formed exactly on the data on which
the parser is strict.** -/
theorem heartbeat_sound_iff {buffer : Span} {packet : QRPacket}
    (framed : QRPacket.parse buffer = .ok packet) :
    ((∃ heartbeat, QRHeartbeatPacket.parse packet = .ok heartbeat) →
      WellFormed packet.data.bytes) ↔ StrictOn packet.data.bytes := by
  have ends := QRPacket.parse_endsNul framed
  by_cases some_data : packet.data.bytes = []
  · have rejected : ¬ ∃ heartbeat, QRHeartbeatPacket.parse packet = .ok heartbeat := by
      simp [QRHeartbeatPacket.parse, QRMap.parse, some_data]
    exact ⟨fun _ => .inl some_data, fun _ accepted => absurd accepted rejected⟩
  by_cases closes : ∃ rest, ClosedList packet.data.bytes rest
  · obtain ⟨rest, closed⟩ := closes
    have restEnds : EndsNul rest := by
      obtain ⟨pairs, -, data⟩ := closed
      exact endsNul_append (data ▸ ends)
    have wellFormed : WellFormed packet.data.bytes ↔ rest = [] ∨ TwoTables rest := by
      constructor
      · rintro ⟨_, closed', form⟩
        exact closedList_unique closed closed' ▸ form
      · exact fun form => ⟨rest, closed, form⟩
    have strict : StrictOn packet.data.bytes ↔ rest = [] ∨ TwoTables rest ∨ TeamsMissing rest := by
      constructor
      · intro h
        obtain ⟨_, closed', form⟩ := h.resolve_left some_data
        exact closedList_unique closed closed' ▸ form
      · exact fun form => .inr ⟨rest, closed, form⟩
    rw [QRHeartbeatPacket.parse_closed closed restEnds, wellFormed, strict, ← or_iff_not_imp_right,
      or_assoc]
  · have accepted := QRHeartbeatPacket.parse_unclosed ends some_data closes
    constructor
    · intro wellFormed
      obtain ⟨rest, closed, -⟩ := wellFormed accepted
      exact absurd ⟨rest, closed⟩ closes
    · rintro (none | ⟨rest, closed, -⟩)
      · exact absurd none some_data
      · exact absurd ⟨rest, closed⟩ closes

namespace SoundnessSample

/-- A heartbeat datagram with a closed list of one pair and `rest` behind it. -/
def datagram (rest : Bytes) : Span :=
  .whole (3 :: 1 :: 2 :: 3 :: 4 :: (encodeMap [(ascii "gamename", ascii "gmtest")] ++ rest))

def packet (rest : Bytes) : QRPacket := ⟨.heartbeat, [1, 2, 3, 4], (datagram rest).subspan 5⟩

/-- A list alone is well formed, and the parser is strict on it. -/
theorem heartbeat_sound_iff_list :
    ((∃ heartbeat, QRHeartbeatPacket.parse (packet []) = .ok heartbeat) →
      WellFormed (packet []).data.bytes) ↔ StrictOn (packet []).data.bytes :=
  @heartbeat_sound_iff (datagram []) (packet []) rfl

/-- One announced player and no header: the section is dropped, not refused. -/
def badPlayers : Bytes := [0, 1, 120, 0]

/-- A malformed player section is accepted as a heartbeat without players. -/
theorem heartbeat_unsound_badPlayers :
    ¬ ∀ (buffer : Span) (packet : QRPacket), QRPacket.parse buffer = .ok packet →
      (∃ heartbeat, QRHeartbeatPacket.parse packet = .ok heartbeat) →
      WellFormed packet.data.bytes := by
  intro sound
  have closed : ClosedList (packet badPlayers).data.bytes badPlayers :=
    ⟨[(ascii "gamename", ascii "gmtest")], by decide, by decide⟩
  have accepted : (QRHeartbeatPacket.parse (packet badPlayers)).isOk := by decide +kernel
  obtain ⟨rest, closed', form⟩ := sound (datagram badPlayers) (packet badPlayers) rfl
    (by
      cases read : QRHeartbeatPacket.parse (packet badPlayers) with
      | ok heartbeat => exact ⟨heartbeat, rfl⟩
      | error e =>
          rw [read] at accepted
          cases accepted)
  rw [← closedList_unique closed closed'] at form
  rcases form with none | ⟨players, teams, split⟩
  · cases none
  · have long := players.encode_length playerSuffix_ne
    have short := congrArg List.length split
    simp only [badPlayers, List.length_append, List.length_cons, List.length_nil] at short
    omega

end SoundnessSample

end GamespyEmulator
