import GamespyEmulator.Browser.RequestRoundTrip
import GamespyEmulator.Lib.Fallible
import GamespyEmulator.Lib.Reading

/-!
What `ServerListRequest::Parse` accepts, and what it reads. An extractor takes a piece off
the front of its position and leaves the rest; `encodeParsed` writes the pieces of a request
back. `ServerListRequest.Reads` has the parser once more over positions in the packet, cell
by cell, for what is read of it.
-/

namespace GamespyEmulator

open Wire Fallible

/-! ### Pieces -/

section Pieces

variable {pos rest : Bytes}

theorem extractUInt32_eq_ok {value : UInt32} (extracted : extractUInt32 pos = .ok (value, rest)) :
    pos = be32 value ++ rest := by
  unfold extractUInt32 at extracted
  split at extracted
  · rename_i b₀ b₁ b₂ b₃ tail
    cases extracted
    rw [be32_readBe32]
    rfl
  · cases extracted

theorem extractString_eq_ok {maxLength : Option Nat} {str : Bytes}
    (extracted : extractString pos maxLength = .ok (str, rest)) :
    pos = terminated str ++ rest ∧ NulFree str := by
  unfold extractString at extracted
  split at extracted
  · cases extracted
  · rename_i str' rest' found
    split at extracted
    · cases extracted
    · cases extracted
      exact splitNul_eq_some found

theorem extractSpan_eq_ok {n : Nat} {span : Vector UInt8 n}
    (extracted : extractSpan n pos = .ok (span, rest)) : pos = span.toList ++ rest := by
  unfold extractSpan at extracted
  split at extracted
  · cases extracted
  · cases extracted
    simp [Vector.toList]

/-- A field list as the parser was given it: a backslash, and the fields with backslashes
between them. -/
def joinFieldList (fields : List Bytes) : Bytes := backslash :: [backslash].intercalate fields

theorem extractFieldList_eq_ok {fields : List Bytes}
    (extracted : extractFieldList pos = .ok (fields, rest)) :
    pos = terminated (joinFieldList fields) ++ rest := by
  unfold extractFieldList at extracted
  obtain ⟨⟨fieldStr, rest'⟩, string, extracted⟩ := bind_eq_ok.mp extracted
  have piece := (extractString_eq_ok string).1
  dsimp only at extracted
  split at extracted
  · cases extracted
  · rename_i first names
    split at extracted
    · cases extracted
    · rename_i slash
      rw [ne_eq, not_not] at slash
      cases extracted
      rw [piece, slash, joinFieldList]
      cases names with
      | nil => rfl
      | cons c names => simp [List.intercalate_splitOn]

theorem extractOptions_eq_ok {options : Options}
    (extracted : extractOptions pos = .ok (options, rest)) : pos = be32 options ++ rest := by
  unfold extractOptions at extracted
  obtain ⟨⟨value, rest'⟩, integer, extracted⟩ := bind_eq_ok.mp extracted
  have piece := extractUInt32_eq_ok integer
  dsimp only at extracted
  split at extracted
  · rename_i zero
    cases extracted
    rw [piece, zero]
  · split at extracted
    · cases extracted
      exact piece
    · cases extracted

theorem extractIf_eq_ok {flag options : Options} {value : Option UInt32}
    (extracted : extractIf flag pos options = .ok (value, rest)) :
    pos = value.toList.flatMap be32 ++ rest := by
  unfold extractIf at extracted
  split at extracted
  · obtain ⟨⟨number, rest'⟩, integer, made⟩ := map_eq_ok.mp extracted
    cases made
    rw [extractUInt32_eq_ok integer]
    simp
  · cases extracted
    rfl

end Pieces

/-! ### The whole request -/

/-- A parsed request written back: version bytes, big-endian game version, the two names,
the challenge, the filter, the field list, big-endian options, and the alternate address and
the limit where they are present. -/
def ServerListRequest.encodeParsed (r : ServerListRequest) : Bytes :=
  [r.protocolVersion, r.encodingVersion] ++ (be32 r.fromGameVersion ++
    (terminated r.fromGame ++ (terminated r.toGame ++ (r.challenge.toList ++
      (terminated r.serverFilter ++ (terminated (joinFieldList r.fieldList) ++
        (be32 r.options ++ (r.alternateSourceIP.toList.flatMap be32 ++
          r.limitResultCount.toList.flatMap be32))))))))

theorem extract_eq_ok {protocol encoding : UInt8} {pos : Bytes} {r : ServerListRequest}
    (extracted : ServerListRequest.extract protocol encoding pos = .ok r) :
    r.encodeParsed <+: protocol :: encoding :: pos := by
  unfold ServerListRequest.extract at extracted
  obtain ⟨⟨gameversion, pos₁⟩, version, extracted⟩ := bind_eq_ok.mp extracted
  obtain ⟨⟨fromGame, pos₂⟩, from', extracted⟩ := bind_eq_ok.mp extracted
  obtain ⟨⟨toGame, pos₃⟩, to', extracted⟩ := bind_eq_ok.mp extracted
  obtain ⟨⟨challenge, pos₄⟩, challenged, extracted⟩ := bind_eq_ok.mp extracted
  obtain ⟨⟨serverFilter, pos₅⟩, filter, extracted⟩ := bind_eq_ok.mp extracted
  obtain ⟨⟨fieldList, pos₆⟩, fields, extracted⟩ := bind_eq_ok.mp extracted
  obtain ⟨⟨options, pos₇⟩, flags, extracted⟩ := bind_eq_ok.mp extracted
  obtain ⟨⟨alternateIP, pos₈⟩, alternate, extracted⟩ := bind_eq_ok.mp extracted
  obtain ⟨⟨limit, pos₉⟩, limited, extracted⟩ := bind_eq_ok.mp extracted
  cases extracted
  refine ⟨pos₉, ?_⟩
  rw [extractUInt32_eq_ok version, (extractString_eq_ok from').1, (extractString_eq_ok to').1,
    extractSpan_eq_ok challenged, (extractString_eq_ok filter).1, extractFieldList_eq_ok fields,
    extractOptions_eq_ok flags, extractIf_eq_ok alternate, extractIf_eq_ok limited]
  simp only [ServerListRequest.encodeParsed, List.append_assoc, List.cons_append, List.nil_append]

/-- A request is what stands at the front of the packet. -/
theorem parse_eq_ok {packet : Bytes} {r : ServerListRequest}
    (parsed : ServerListRequest.parse packet = .ok r) : r.encodeParsed <+: packet := by
  unfold ServerListRequest.parse at parsed
  split at parsed
  · cases parsed
  · split at parsed
    · split at parsed
      · cases parsed
      · split at parsed
        · cases parsed
        · exact extract_eq_ok parsed
    · cases parsed

/-! ### The parser over cells -/

namespace ServerListRequest.Reads

/-- What an extractor between two positions returns: a value and the position behind it. -/
abbrev Placed (α : Type) := Except RequestError (α × Nat)

section Extractors

variable (start stop : Nat)

/-- `ExtractString`: `std::find` looks at the cells up to a NUL or the end. -/
def extractString (maxLength : Option Nat := none) : Reading UInt8 (Placed Bytes) := do
  let str ← Reading.cellsUntil 0 start (stop - start)
  if start + str.length = stop then return .error .insufficientLength
  else if maxLength.any (· < str.length) then return .error .tooManyKeys
  else return .ok (str, start + str.length + 1)

/-- `ExtractSpan<N>`. The span is only a view; its cells are read by who uses it. -/
def extractSpan (n : Nat) : Reading UInt8 (Placed (Vector UInt8 n)) :=
  if stop - start < n then return .error .insufficientLength
  else do
    let span ← Reading.vector start n
    return .ok (span, start + n)

def extractUInt32 : Reading UInt8 (Placed UInt32) :=
  if stop - start < 4 then return .error .insufficientLength
  else .cell start fun b₀ => .cell (start + 1) fun b₁ => .cell (start + 2) fun b₂ =>
    .cell (start + 3) fun b₃ => return .ok (readBe32 b₀ b₁ b₂ b₃, start + 4)

def extractOptions : Reading UInt8 (Placed Options) :=
  (extractUInt32 start stop).andThen fun (value, pos) =>
    if value = 0 then return .ok (0, pos)
    else if Options.min ≤ value ∧ value ≤ Options.max then return .ok (value, pos)
    else return .error .invalidKey

def extractFieldList : Reading UInt8 (Placed (List Bytes)) :=
  (extractString start stop fieldsTotalLength).andThen fun (fieldStr, pos) =>
    match fieldStr with
    | [] => return .error .invalidKey
    | first :: names =>
        if first ≠ backslash then return .error .invalidKey
        else return .ok (if names.isEmpty then [] else names.splitOn backslash, pos)

def extractIf (flag options : Options) : Reading UInt8 (Placed (Option UInt32)) :=
  if options.shares flag then
    (extractUInt32 start stop).andThen fun (value, pos) => return .ok (some value, pos)
  else return .ok (none, start)

end Extractors

/-- The chain of `ServerListRequest::Parse` behind the version bytes. -/
def extract (protocol encoding : UInt8) (stop : Nat) :
    Reading UInt8 (Except RequestError ServerListRequest) :=
  (extractUInt32 2 stop).andThen fun (gameversion, pos) =>
  (extractString pos stop).andThen fun (fromGame, pos) =>
  (extractString pos stop).andThen fun (toGame, pos) =>
  (extractSpan pos stop clientChallengeLength).andThen fun (challenge, pos) =>
  (extractString pos stop filterTotalLength).andThen fun (serverFilter, pos) =>
  (extractFieldList pos stop).andThen fun (fieldList, pos) =>
  (extractOptions pos stop).andThen fun (options, pos) =>
  (extractIf pos stop Options.alternateSourceIp options).andThen fun (alternateIP, pos) =>
  (extractIf pos stop Options.limitResultCount options).andThen fun (limit, _) =>
    return .ok {
      protocolVersion := protocol
      encodingVersion := encoding
      fromGameVersion := gameversion
      fromGame := fromGame
      toGame := toGame
      challenge := challenge
      serverFilter := serverFilter
      fieldList := fieldList
      options := options
      alternateSourceIP := alternateIP
      limitResultCount := limit }

/-- `ServerListRequest::Parse` of a packet of `size` bytes. -/
def parse (size : Nat) : Reading UInt8 (Except RequestError ServerListRequest) :=
  if size < minSize then return .error .insufficientLength
  else .cell 0 fun protocol =>
    if protocol ≠ listProtocolVersion then return .error .unknownProtocolVersion
    else .cell 1 fun encoding =>
      if encoding ≠ listEncodingVersion then return .error .unknownEncodingVersion
      else extract protocol encoding size

/-! ### What the extractors read -/

/-- In this packet, an extractor over cells stays inside and does what one over the rest of
the packet does. -/
structure Extracts {α : Type} (packet : Bytes) (reads : Reading UInt8 (Placed α)) (list : Extracted α) :
    Prop where
  inside : reads.InBounds (cellsOf packet) packet.length
  result : list = (reads.run (cellsOf packet)).map fun (value, pos) => (value, packet.drop pos)
  bounded : ∀ value pos, reads.run (cellsOf packet) = .ok (value, pos) → pos ≤ packet.length

section Extracts

variable {packet : Bytes} {start : Nat}

theorem extractUInt32_extracts (within : start ≤ packet.length) :
    Extracts packet (extractUInt32 start packet.length)
      (GamespyEmulator.extractUInt32 (packet.drop start)) := by
  unfold extractUInt32
  by_cases short : packet.length - start < 4
  · rw [if_pos short]
    refine ⟨Reading.inBounds_pure _, ?_, fun value pos extracted => by cases extracted⟩
    have few : (packet.drop start).length < 4 := by rwa [List.length_drop]
    unfold GamespyEmulator.extractUInt32
    split
    · rename_i tail
      rw [tail] at few
      simp only [List.length_cons] at few
      omega
    · rfl
  · rw [if_neg short]
    refine ⟨?_, ?_, fun value pos extracted => ?_⟩
    · simp only [Reading.inBounds_cell, Reading.inBounds_pure, and_true]
      omega
    · rw [cellsOf_drop (by omega), cellsOf_drop (by omega), cellsOf_drop (by omega),
        cellsOf_drop (by omega)]
      rfl
    · cases extracted
      omega

theorem extractString_extracts (within : start ≤ packet.length) (maxLength : Option Nat) :
    Extracts packet (extractString start packet.length maxLength)
      (GamespyEmulator.extractString (packet.drop start) maxLength) := by
  have fits : start + (packet.length - start) ≤ packet.length := by omega
  have all : (packet.drop start).take (packet.length - start) = packet.drop start := by
    rw [← List.length_drop, List.take_length]
  have found : (Reading.cellsUntil 0 start (packet.length - start)).run (cellsOf packet) =
      (packet.drop start).takeWhile (· ≠ 0) := by
    rw [Reading.cellsUntil_run, cellsOf_range fits, all]
  have short : ((packet.drop start).takeWhile (· ≠ 0)).length ≤ packet.length - start := by
    rw [← List.length_drop]
    exact (List.takeWhile_prefix _).length_le
  have same : (start + ((packet.drop start).takeWhile (· ≠ 0)).length = packet.length) ↔
      ((packet.drop start).takeWhile (· ≠ 0)).length = (packet.drop start).length := by
    rw [List.length_drop]
    omega
  refine ⟨?_, ?_, ?_⟩
  · rw [extractString, Reading.inBounds_bind]
    refine ⟨Reading.cellsUntil_within fits, ?_⟩
    split
    · exact Reading.inBounds_pure _
    · split <;> exact Reading.inBounds_pure _
  · rw [extractString, Reading.run_bind, found, GamespyEmulator.extractString, splitNul_takeWhile]
    by_cases none' : ((packet.drop start).takeWhile (· ≠ 0)).length = (packet.drop start).length
    · rw [if_pos none', if_pos (same.mpr none')]
      rfl
    · rw [if_neg none', if_neg (mt same.mp none')]
      dsimp only
      split
      · rfl
      · rw [List.drop_drop, ← Nat.add_assoc]
        rfl
  · intro value pos extracted
    rw [extractString, Reading.run_bind, found] at extracted
    split at extracted
    · cases extracted
    · split at extracted
      · cases extracted
      · cases extracted
        omega

theorem extractSpan_extracts (within : start ≤ packet.length) (n : Nat) :
    Extracts packet (extractSpan start packet.length n)
      (GamespyEmulator.extractSpan n (packet.drop start)) := by
  unfold extractSpan GamespyEmulator.extractSpan
  by_cases short : packet.length - start < n
  · rw [if_pos short, dif_pos (by rwa [List.length_drop])]
    exact ⟨Reading.inBounds_pure _, rfl, fun value pos extracted => by cases extracted⟩
  · have fits : start + n ≤ packet.length := by omega
    rw [if_neg short, dif_neg (by rwa [List.length_drop])]
    refine ⟨?_, ?_, fun value pos extracted => ?_⟩
    · rw [Reading.inBounds_bind]
      exact ⟨Reading.vector_inBounds fits, Reading.inBounds_pure _⟩
    · rw [Reading.run_bind, Reading.run_pure]
      simp only [Except.map, Except.ok.injEq, Prod.mk.injEq, List.drop_drop, and_true]
      apply Vector.toList_inj.mp
      rw [Reading.vector_run, cellsOf_range fits]
      rfl
    · rw [Reading.run_bind, Reading.run_pure] at extracted
      cases extracted
      exact fits

/-- The chain of extractors, one link. -/
theorem Extracts.andThen {α β : Type} {reads : Reading UInt8 (Placed α)} {list : Extracted α}
    {next : α × Nat → Reading UInt8 (Placed β)} {next' : α × Bytes → Extracted β}
    (first : Extracts packet reads list)
    (later : ∀ value pos, pos ≤ packet.length →
      Extracts packet (next (value, pos)) (next' (value, packet.drop pos))) :
    Extracts packet (reads.andThen next) (list.bind next') := by
  refine ⟨?_, ?_, ?_⟩
  · apply Reading.andThen_inBounds first.inside
    rintro ⟨value, pos⟩ extracted
    exact (later value pos (first.bounded value pos extracted)).inside
  · rw [first.result, Reading.andThen_run]
    cases extracted : reads.run (cellsOf packet) with
    | error e => rfl
    | ok out =>
        obtain ⟨value, pos⟩ := out
        exact (later value pos (first.bounded value pos extracted)).result
  · intro value pos extracted
    rw [Reading.andThen_run] at extracted
    cases before : reads.run (cellsOf packet) with
    | error e =>
        rw [before] at extracted
        cases extracted
    | ok out =>
        obtain ⟨value', pos'⟩ := out
        rw [before] at extracted
        exact (later value' pos' (first.bounded value' pos' before)).bounded value pos extracted

theorem extracts_ok {α : Type} {value : α} (within : start ≤ packet.length) :
    Extracts packet (return .ok (value, start)) (.ok (value, packet.drop start)) where
  inside := Reading.inBounds_pure _
  result := rfl
  bounded value' pos extracted := by
    cases extracted
    exact within

theorem extracts_error {α : Type} (e : RequestError) :
    @Extracts α packet (return .error e) (.error e) where
  inside := Reading.inBounds_pure _
  result := rfl
  bounded value pos extracted := by cases extracted

theorem extractOptions_extracts (within : start ≤ packet.length) :
    Extracts packet (extractOptions start packet.length)
      (GamespyEmulator.extractOptions (packet.drop start)) := by
  refine (extractUInt32_extracts within).andThen fun value pos within => ?_
  dsimp only
  split
  · exact extracts_ok within
  · split
    · exact extracts_ok within
    · exact extracts_error _

theorem extractFieldList_extracts (within : start ≤ packet.length) :
    Extracts packet (extractFieldList start packet.length)
      (GamespyEmulator.extractFieldList (packet.drop start)) := by
  refine (extractString_extracts within _).andThen fun fieldStr pos within => ?_
  cases fieldStr with
  | nil => exact extracts_error _
  | cons first names =>
      dsimp only
      split
      · exact extracts_error _
      · exact extracts_ok within

theorem extractIf_extracts (within : start ≤ packet.length) (flag options : Options) :
    Extracts packet (extractIf start packet.length flag options)
      (GamespyEmulator.extractIf flag (packet.drop start) options) := by
  unfold extractIf GamespyEmulator.extractIf
  split
  · have map_bind (x : Extracted UInt32) : x.map (fun out => (some out.1, out.2)) =
        x.bind fun out => .ok (some out.1, out.2) := by cases x <;> rfl
    rw [map_bind]
    exact (extractUInt32_extracts within).andThen fun value pos within => extracts_ok within
  · exact extracts_ok within

end Extracts

/-- The chain of extractors up to a request, which has no position. -/
theorem Extracts.request {packet : Bytes} {α : Type} {reads : Reading UInt8 (Placed α)}
    {list : Extracted α}
    {next : α × Nat → Reading UInt8 (Except RequestError ServerListRequest)}
    {next' : α × Bytes → Except RequestError ServerListRequest}
    (first : Extracts packet reads list)
    (later : ∀ value pos, pos ≤ packet.length →
      (next (value, pos)).InBounds (cellsOf packet) packet.length ∧
        (next (value, pos)).run (cellsOf packet) = next' (value, packet.drop pos)) :
    (reads.andThen next).InBounds (cellsOf packet) packet.length ∧
      (reads.andThen next).run (cellsOf packet) = list.bind next' := by
  constructor
  · apply Reading.andThen_inBounds first.inside
    rintro ⟨value, pos⟩ extracted
    exact (later value pos (first.bounded value pos extracted)).1
  · rw [first.result, Reading.andThen_run]
    cases extracted : reads.run (cellsOf packet) with
    | error e => rfl
    | ok out =>
        obtain ⟨value, pos⟩ := out
        exact (later value pos (first.bounded value pos extracted)).2

theorem extract_reads {packet : Bytes} (protocol encoding : UInt8) (long : 2 ≤ packet.length) :
    (extract protocol encoding packet.length).InBounds (cellsOf packet) packet.length ∧
      (extract protocol encoding packet.length).run (cellsOf packet) =
        ServerListRequest.extract protocol encoding (packet.drop 2) := by
  refine (extractUInt32_extracts long).request fun gameversion pos within => ?_
  refine (extractString_extracts within none).request fun fromGame pos within => ?_
  refine (extractString_extracts within none).request fun toGame pos within => ?_
  refine (extractSpan_extracts within clientChallengeLength).request fun challenge pos within => ?_
  refine (extractString_extracts within _).request fun serverFilter pos within => ?_
  refine (extractFieldList_extracts within).request fun fieldList pos within => ?_
  refine (extractOptions_extracts within).request fun options pos within => ?_
  refine (extractIf_extracts within _ options).request fun alternateIP pos within => ?_
  refine (extractIf_extracts within _ options).request fun limit pos within => ?_
  exact ⟨Reading.inBounds_pure _, rfl⟩

/-- The parser over the cells of a packet stays inside the packet, and is the parser. -/
theorem parse_reads (packet : Bytes) :
    (parse packet.length).InBounds (cellsOf packet) packet.length ∧
      (parse packet.length).run (cellsOf packet) = ServerListRequest.parse packet := by
  unfold parse ServerListRequest.parse
  by_cases small : packet.length < minSize
  · rw [if_pos small, if_pos small]
    exact ⟨Reading.inBounds_pure _, rfl⟩
  · have long : 2 ≤ packet.length := (by decide : 2 ≤ minSize).trans (Nat.not_lt.mp small)
    rw [if_neg small, if_neg small, Reading.inBounds_cell, Reading.run_cell]
    match packet with
    | [] => cases long
    | [_] => simp at long
    | protocol :: encoding :: pos =>
        have first : cellsOf (protocol :: encoding :: pos) 0 = protocol := rfl
        have second : cellsOf (protocol :: encoding :: pos) 1 = encoding := rfl
        rw [first]
        dsimp only
        split
        · exact ⟨⟨by omega, Reading.inBounds_pure _⟩, rfl⟩
        · rw [Reading.inBounds_cell, Reading.run_cell, second]
          split
          · exact ⟨⟨by omega, by omega, Reading.inBounds_pure _⟩, rfl⟩
          · obtain ⟨inside, result⟩ := extract_reads protocol encoding long
            exact ⟨⟨by omega, by omega, inside⟩, result⟩

end ServerListRequest.Reads

/-- **What `Parse` accepts is sound.** It reads nothing outside the packet, and a request it
returns, written back, is what the packet begins with. -/
theorem request_sound (packet : Bytes) :
    (ServerListRequest.Reads.parse packet.length).InBounds (cellsOf packet) packet.length ∧
      (ServerListRequest.Reads.parse packet.length).run (cellsOf packet) =
        ServerListRequest.parse packet ∧
      ∀ r, ServerListRequest.parse packet = .ok r → r.encodeParsed <+: packet :=
  ⟨(ServerListRequest.Reads.parse_reads packet).1, (ServerListRequest.Reads.parse_reads packet).2,
    fun _ => parse_eq_ok⟩

namespace RequestSample

/-- A request for the list of one game, with no field and with bytes behind it. -/
def packet : Bytes :=
  [1, 3, 0, 0, 0, 0] ++ terminated (ascii "gamespy2") ++ terminated (ascii "battlefield2") ++
    ascii "AAAAAAAA" ++ terminated [] ++ terminated (ascii "\\") ++ [0, 0, 0, 0] ++ [7]

def request : ServerListRequest where
  protocolVersion := 1
  encodingVersion := 3
  fromGameVersion := 0
  fromGame := ascii "gamespy2"
  toGame := ascii "battlefield2"
  challenge := Vector.replicate 8 65
  serverFilter := []
  fieldList := []
  options := 0
  alternateSourceIP := none
  limitResultCount := none

theorem request_sound_packet : request.encodeParsed <+: packet :=
  (request_sound packet).2.2 request rfl

end RequestSample

end GamespyEmulator
