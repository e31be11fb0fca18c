import GamespyEmulator.Dlls.VideoFallback
import GamespyEmulator.Lib.Greatest
import GamespyEmulator.Lib.Memory

/-!
`client-video-fallback.cpp`: how the `VideoOptions` vtable is found in a renderer that no
version of is known. `setDynamicOption` is the function that pushes the message of its
assertion, and its vtable slot is one that points a little before that.

`find_slots_iff` says which slots are found: those of the function that begins closest
before the only place the message is pushed at, among all that look like slot 7 of the
vtable. The process is one of 32 bits.
-/

namespace GamespyEmulator.VideoFallback

open Wire Memory

/-! ### The image -/

/-- `unknownDynamicOptionMessage`, with its terminator. -/
def unknownDynamicOptionMessage : Bytes := ascii "Unknown DynamicOption value " ++ [0]

def getDynamicOptionValuesSlot : Nat := 6

def setDynamicOptionSlot : Nat := 7

def getDynamicOptionSlot : Nat := 8

def numVTableSlots : Nat := 15

/-- The size of a pointer. -/
def pointerSize : Nat := 4

/-- The pointer at an address. -/
def pointer (m : Bytewise) (a : Nat) : Nat := (word m a).toNat

/-- A `WORD`. -/
def half (m : Bytewise) (a : Nat) : Nat := (m a).toNat + 256 * (m (a + 1)).toNat

/-- The members of an `IMAGE_SECTION_HEADER` that are read. -/
structure SectionHeader where
  virtualSize : UInt32
  virtualAddress : UInt32
  characteristics : UInt32

def sectionHeader (m : Bytewise) (a : Nat) : SectionHeader :=
  ⟨word m (a + 8), word m (a + 12), word m (a + 36)⟩

/-- `Image`. Without a code section, its range begins at the null pointer. -/
structure Image where
  code : Range
  data : List Range

namespace Image

/-- One turn of the constructor's loop. -/
def add (base : Nat) (image : Image) (header : SectionHeader) : Image :=
  let range : Range := ⟨base + header.virtualAddress.toNat,
    base + header.virtualAddress.toNat + header.virtualSize.toNat⟩
  if header.characteristics &&& 0x00000020 ≠ 0 then
    if image.code.begin = 0 then { image with code := range } else image
  else if header.characteristics &&& 0x02000000 = 0 then
    { image with data := image.data ++ [range] }
  else image

/-- `Image::Image`. -/
def ofModule (m : Bytewise) (base : Nat) : Image :=
  let nt := base + pointer m (base + 0x3C)
  let first := nt + 24 + half m (nt + 20)
  (List.range (half m (nt + 6))).foldl
    (fun image i => image.add base (sectionHeader m (first + 40 * i))) ⟨⟨0, 0⟩, []⟩

section Predicates

variable (image : Image) (m : Bytewise)

/-- `resolve`, with the number of jumps it follows. -/
def resolve : Nat → Nat → Nat
  | 0, p => p
  | n + 1, p =>
      if image.code.contains p ∧ p + 5 ≤ image.code.stop ∧ m p = 0xE9 then
        resolve n ((p + 5 + pointer m (p + 1)) % 2 ^ 32)
      else p

/-- `is_vtable`: the first range that the vtable is in decides. -/
def isVtable (vtable size : Nat) : Bool :=
  match image.data.find? fun range =>
      range.contains vtable ∧ range.contains (vtable + pointerSize * (size - 1)) with
  | none => false
  | some _ => (List.range size).all fun i => image.code.contains (pointer m (vtable + pointerSize * i))

/-- `is_getter`. -/
def isGetter (function : Nat) : Bool :=
  let p := image.resolve m 4 function
  ((List.range 64).takeWhile fun i => decide (image.code.contains (p + i + 2))).any fun i =>
    m (p + i) == 0xC2 && m (p + i + 1) == 0x04 && m (p + i + 2) == 0x00

end Predicates

/-- The places of the pointers in the data. -/
def words (image : Image) : List Nat :=
  image.data.flatMap fun range =>
    (List.range ((range.stop - range.begin) / pointerSize)).map (range.begin + pointerSize * ·)

end Image

/-! ### Finding the slots -/

/-- `push offset message`. -/
def push (message : Nat) : Bytes := 0x68 :: wordBytes (UInt32.ofNat message)

/-- `maxDistance`. -/
def maxDistance : Nat := 0x2000

section Find

variable (m : Bytewise) (image : Image)

/-- The message in the first range that has it. -/
def message : Option Nat := image.data.findSome? fun range => findBytes m range unknownDynamicOptionMessage

/-- The place that pushes the message, unless there is another one. -/
def site (message : Nat) : Option Nat :=
  match findBytes m image.code (push message) with
  | none => none
  | some site =>
      match findBytes m ⟨site + 1, image.code.stop⟩ (push message) with
      | none => some site
      | some _ => none

variable (site : Nat)

/-- A slot of a vtable like that of `VideoOptions`. -/
def inVtable (slot : Nat) : Bool :=
  let vtable := slot - pointerSize * setDynamicOptionSlot
  image.isVtable m vtable numVTableSlots &&
    image.isGetter m (pointer m (vtable + pointerSize * getDynamicOptionValuesSlot)) &&
    image.isGetter m (pointer m (vtable + pointerSize * getDynamicOptionSlot))

/-- One turn of the loop over the pointers: the function so far, and its slots. -/
def slotTurn (found : Nat × List Nat) (slot : Nat) : Nat × List Nat :=
  if ¬image.code.contains (pointer m slot) then found
  else
    let target := image.resolve m 4 (pointer m slot)
    if target > site ∨ site - target > maxDistance ∨ target < found.1 then found
    else if ¬inVtable m image slot then found
    else
      let found := if target ≠ found.1 then (target, []) else found
      (found.1, found.2 ++ [slot])

end Find

/-- What `find_set_dynamic_option_slots` returns, and `isRenderer`. -/
structure FoundSlots where
  slots : List Nat
  isRenderer : Bool
deriving DecidableEq, Repr

/-- `find_set_dynamic_option_slots`. -/
def findSetDynamicOptionSlots (m : Bytewise) (module : Nat) : FoundSlots :=
  let image := Image.ofModule m module
  if image.code.begin = 0 then ⟨[], false⟩
  else
    match message m image with
    | none => ⟨[], false⟩
    | some message =>
        match site m image message with
        | none => ⟨[], true⟩
        | some site => ⟨(image.words.foldl (slotTurn m image site) (0, [])).2, true⟩

/-! ### What is found -/

section Candidates

variable (m : Bytewise) (image : Image) (site : Nat)

/-- A pointer that looks like slot 7 of the vtable, and the function it leads to, which begins
at most `maxDistance` before the place of the push. -/
structure Candidate (slot target : Nat) : Prop where
  points : image.code.contains (pointer m slot)
  leads : target = image.resolve m 4 (pointer m slot)
  before : target ≤ site
  near : site ≤ target + maxDistance
  vtable : inVtable m image slot

/-- The function of a slot. -/
def target? (slot : Nat) : Option Nat :=
  let target := image.resolve m 4 (pointer m slot)
  if image.code.contains (pointer m slot) ∧ target ≤ site ∧ site ≤ target + maxDistance ∧
      inVtable m image slot then some target
  else none

variable {m image site} {slot target : Nat}

theorem target?_eq_some : target? m image site slot = some target ↔
    Candidate m image site slot target := by
  unfold target?
  dsimp only
  rw [Option.ite_none_right_eq_some, Option.some_inj]
  constructor
  · rintro ⟨⟨points, before, near, vtable⟩, rfl⟩
    exact ⟨points, rfl, before, near, vtable⟩
  · rintro ⟨points, rfl, before, near, vtable⟩
    exact ⟨⟨points, before, near, vtable⟩, rfl⟩

/-- The loop collects the slots of the greatest function. -/
theorem slotTurn_eq (found : Nat × List Nat) (slot : Nat) :
    slotTurn m image site found slot = Greatest.turn (target? m image site) found slot := by
  cases led : target? m image site slot with
  | none =>
      have missing : ∀ target, ¬Candidate m image site slot target := fun target candidate => by
        rw [target?_eq_some.mpr candidate] at led
        cases led
      rw [Greatest.turn, led]
      dsimp only
      unfold slotTurn
      dsimp only
      split
      · rfl
      · rename_i points
        split
        · rfl
        · rename_i near
          have before : image.resolve m 4 (pointer m slot) ≤ site := by omega
          have close : site ≤ image.resolve m 4 (pointer m slot) + maxDistance := by omega
          exact if_pos fun vtable => missing (image.resolve m 4 (pointer m slot))
            ⟨not_not.mp points, rfl, before, close, vtable⟩
  | some target =>
      obtain ⟨points, leads, before, near, vtable⟩ := target?_eq_some.mp led
      rw [Greatest.turn, led, slotTurn, if_neg (not_not.mpr points), ← leads]
      dsimp only
      by_cases less : target < found.1
      · have skipped : target > site ∨ site - target > maxDistance ∨ target < found.1 :=
          .inr (.inr less)
        rw [if_pos skipped, if_pos less]
      · have kept : ¬(target > site ∨ site - target > maxDistance ∨ target < found.1) := by omega
        rw [if_neg kept, if_neg (not_not.mpr vtable), if_neg less]
        by_cases same : target = found.1
        · rw [if_neg (not_not.mpr same), if_pos same]
        · rw [if_pos same, if_neg same]
          rfl

theorem slotTurns_eq (m : Bytewise) (image : Image) (site : Nat) :
    image.words.foldl (slotTurn m image site) (0, []) =
      Greatest.scan (target? m image site) 0 image.words := by
  have same : slotTurn m image site = Greatest.turn (target? m image site) := by
    funext found slot
    exact slotTurn_eq found slot
  rw [same]
  rfl

end Candidates

/-- The place is the only one in the code that pushes the message, which is the first text of
its kind in the data. -/
structure PushedAt (m : Bytewise) (image : Image) (site : Nat) : Prop where
  code : image.code.begin ≠ 0
  only : ∃ place, message m image = some place ∧
    ∀ p, Occurs m image.code (push place) p ↔ p = site

theorem site_eq_some {m : Bytewise} {image : Image} {place p : Nat} :
    site m image place = some p ↔ ∀ q, Occurs m image.code (push place) q ↔ q = p := by
  unfold site
  cases found : findBytes m image.code (push place) with
  | none =>
      have none := findBytes_eq_none.mp found
      exact iff_of_false nofun fun only => none p ((only p).mpr rfl)
  | some first =>
      obtain ⟨occurs, least⟩ := findBytes_eq_some.mp found
      have later (q : Nat) : Occurs m ⟨first + 1, image.code.stop⟩ (push place) q ↔
          Occurs m image.code (push place) q ∧ first < q := by
        constructor
        · rintro ⟨low, high, matched⟩
          exact ⟨⟨by have := occurs.low; dsimp only at low; omega, high, matched⟩, low⟩
        · rintro ⟨⟨low, high, matched⟩, less⟩
          exact ⟨less, high, matched⟩
      dsimp only
      cases second : findBytes m ⟨first + 1, image.code.stop⟩ (push place) with
      | none =>
          have none := findBytes_eq_none.mp second
          rw [Option.some_inj]
          constructor
          · rintro rfl q
            refine ⟨fun other => ?_, fun same => same ▸ occurs⟩
            have reached := least q other
            by_contra apart
            exact none q ((later q).mpr ⟨other, by omega⟩)
          · exact fun only => (only first).mp occurs
      | some other =>
          obtain ⟨again, less⟩ := (later other).mp (findBytes_eq_some.mp second).1
          refine iff_of_false nofun fun only => ?_
          have same := (only first).mp occurs
          have same' := (only other).mp again
          omega

theorem slots_eq {m : Bytewise} {module site : Nat} (pushed : PushedAt m (.ofModule m module) site) :
    (findSetDynamicOptionSlots m module).slots =
      (Greatest.scan (target? m (.ofModule m module) site) 0 (Image.ofModule m module).words).2 := by
  obtain ⟨place, said, only⟩ := pushed.only
  rw [findSetDynamicOptionSlots, if_neg pushed.code, said]
  dsimp only
  rw [site_eq_some.mpr only]
  dsimp only
  rw [slotTurns_eq]

theorem slots_pushed {m : Bytewise} {module slot : Nat}
    (mem : slot ∈ (findSetDynamicOptionSlots m module).slots) :
    ∃ site, PushedAt m (.ofModule m module) site := by
  unfold findSetDynamicOptionSlots at mem
  dsimp only at mem
  split at mem
  · cases mem
  · rename_i code
    split at mem
    · cases mem
    · rename_i place said
      split at mem
      · cases mem
      · rename_i p found
        exact ⟨p, code, place, said, site_eq_some.mp found⟩

theorem PushedAt.unique {m : Bytewise} {image : Image} {site site' : Nat}
    (pushed : PushedAt m image site) (pushed' : PushedAt m image site') : site = site' := by
  obtain ⟨place, said, only⟩ := pushed.only
  obtain ⟨place', said', only'⟩ := pushed'.only
  cases said.symm.trans said'
  exact (only' site).mp ((only site).mpr rfl)

/-- The slots that are found, in terms of the place of the push. -/
theorem mem_slots_iff {m : Bytewise} {module site : Nat}
    (pushed : PushedAt m (.ofModule m module) site) (slot : Nat) :
    slot ∈ (findSetDynamicOptionSlots m module).slots ↔
      slot ∈ (Image.ofModule m module).words ∧
        ∃ target, Candidate m (.ofModule m module) site slot target ∧
          ∀ other ∈ (Image.ofModule m module).words, ∀ target',
            Candidate m (.ofModule m module) site other target' → target' ≤ target := by
  rw [slots_eq pushed, Greatest.mem_scan_iff fun _ _ _ _ => Nat.zero_le _]
  simp only [target?_eq_some]

/-- **Which slots are found.** A slot is found exactly if the message is pushed at one place
only, the slot is a pointer in the data that looks like slot 7 of the vtable, and no other
such pointer leads to a function that begins closer before that place. -/
theorem find_slots_iff (m : Bytewise) (module slot : Nat) :
    slot ∈ (findSetDynamicOptionSlots m module).slots ↔
      ∃ site target, PushedAt m (.ofModule m module) site ∧
        slot ∈ (Image.ofModule m module).words ∧
        Candidate m (.ofModule m module) site slot target ∧
        ∀ other ∈ (Image.ofModule m module).words, ∀ target',
          Candidate m (.ofModule m module) site other target' → target' ≤ target := by
  constructor
  · intro mem
    obtain ⟨site, pushed⟩ := slots_pushed mem
    obtain ⟨inside, target, candidate, closest⟩ := (mem_slots_iff pushed slot).mp mem
    exact ⟨site, target, pushed, inside, candidate, closest⟩
  · rintro ⟨site, target, pushed, inside, candidate, closest⟩
    exact (mem_slots_iff pushed slot).mpr ⟨inside, target, candidate, closest⟩

end GamespyEmulator.VideoFallback
