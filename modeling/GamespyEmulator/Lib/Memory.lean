import GamespyEmulator.Lib.Wire

/-!
A memory of bytes with little-endian words of 32 bits: what a stored word changes, and the
first place of a pattern of bytes in a range.
-/

namespace Memory

open Wire

/-- A memory, by addresses. -/
abbrev Bytewise := Nat → UInt8

/-- A half-open range of addresses. -/
structure Range where
  begin : Nat
  stop : Nat
deriving DecidableEq, Repr

namespace Range

def contains (range : Range) (a : Nat) : Prop := range.begin ≤ a ∧ a < range.stop

instance (range : Range) (a : Nat) : Decidable (range.contains a) :=
  inferInstanceAs (Decidable (_ ∧ _))

/-- No address is in both. -/
def Apart (range other : Range) : Prop := range.stop ≤ other.begin ∨ other.stop ≤ range.begin

instance (range other : Range) : Decidable (range.Apart other) :=
  inferInstanceAs (Decidable (_ ∨ _))

end Range

/-! ### Words -/

/-- The word at an address. -/
def word (m : Bytewise) (a : Nat) : UInt32 := readBe32 (m (a + 3)) (m (a + 2)) (m (a + 1)) (m a)

/-- The bytes of a word, in the order they are stored. -/
def wordBytes (v : UInt32) : Bytes := (be32 v).reverse

/-- A memory behind a word that is stored. -/
def store (m : Bytewise) (a : Nat) (v : UInt32) : Bytewise := fun b =>
  if a ≤ b ∧ b < a + 4 then (wordBytes v).getD (b - a) 0 else m b

section Store

variable (m : Bytewise) (a : Nat) (v : UInt32)

theorem store_apart {b : Nat} (apart : b < a ∨ a + 4 ≤ b) : store m a v b = m b := by
  unfold store
  rw [if_neg (by omega)]

theorem store_byte {i : Nat} (inside : i < 4) : store m a v (a + i) = (wordBytes v).getD i 0 := by
  unfold store
  rw [if_pos (by omega), Nat.add_sub_cancel_left]

@[simp] theorem word_store : word (store m a v) a = v := by
  have first := store_byte m a v (show 0 < 4 by omega)
  rw [Nat.add_zero] at first
  rw [word, store_byte m a v (by omega), store_byte m a v (by omega), store_byte m a v (by omega),
    first]
  exact readBe32_be32 v

theorem word_store_apart {b : Nat} (apart : b + 4 ≤ a ∨ a + 4 ≤ b) :
    word (store m a v) b = word m b := by
  unfold word
  rw [store_apart m a v (by omega), store_apart m a v (by omega), store_apart m a v (by omega),
    store_apart m a v (by omega)]

/-- The bytes of a word that is read are those that are stored. -/
theorem store_word : store m a (word m a) = m := by
  funext b
  unfold store
  split
  · rename_i inside
    have parts := be32_readBe32 (m (a + 3)) (m (a + 2)) (m (a + 1)) (m a)
    obtain ⟨i, rfl⟩ : ∃ i, b = a + i := ⟨b - a, by omega⟩
    rw [Nat.add_sub_cancel_left, wordBytes, word, parts]
    obtain rfl | rfl | rfl | rfl : i = 0 ∨ i = 1 ∨ i = 2 ∨ i = 3 := by omega
    · rfl
    · rfl
    · rfl
    · rfl
  · rfl

end Store

/-- A memory behind one word that is stored at many places. -/
def storeAll (m : Bytewise) (places : List Nat) (v : UInt32) : Bytewise :=
  places.foldl (fun m a => store m a v) m

/-- Places whose words do not overlap. -/
def Separate (places : List Nat) : Prop := places.Pairwise fun a b => a + 4 ≤ b ∨ b + 4 ≤ a

section StoreAll

variable {m : Bytewise} {places : List Nat} {v : UInt32} {b : Nat}

theorem storeAll_apart (apart : ∀ a ∈ places, b < a ∨ a + 4 ≤ b) : storeAll m places v b = m b := by
  induction places generalizing m with
  | nil => rfl
  | cons a rest ih =>
      obtain ⟨first, others⟩ := List.forall_mem_cons.mp apart
      exact (ih others).trans (store_apart m a v first)

theorem word_storeAll_apart (apart : ∀ a ∈ places, b + 4 ≤ a ∨ a + 4 ≤ b) :
    word (storeAll m places v) b = word m b := by
  induction places generalizing m with
  | nil => rfl
  | cons a rest ih =>
      obtain ⟨first, others⟩ := List.forall_mem_cons.mp apart
      exact (ih others).trans (word_store_apart m a v first)

theorem word_storeAll (separate : Separate places) (mem : b ∈ places) :
    word (storeAll m places v) b = v := by
  induction places generalizing m with
  | nil => exact absurd mem List.not_mem_nil
  | cons a rest ih =>
      obtain ⟨apart, others⟩ := List.pairwise_cons.mp separate
      rcases List.mem_cons.mp mem with rfl | inside
      · have later : word (storeAll (store m b v) rest v) b = word (store m b v) b :=
          word_storeAll_apart apart
        exact later.trans (word_store m b v)
      · exact ih others inside

/-- A byte of a place does not depend on the memory before. -/
theorem storeAll_inside {m' : Bytewise} {a : Nat} (separate : Separate places) (mem : a ∈ places)
    (low : a ≤ b) (high : b < a + 4) : storeAll m places v b = storeAll m' places v b := by
  have bytes (m : Bytewise) : storeAll m places v b =
      store (storeAll m places v) a (word (storeAll m places v) a) b := by
    rw [store_word]
  rw [bytes, bytes m', word_storeAll separate mem, word_storeAll separate mem]
  unfold store
  rw [if_pos ⟨low, high⟩, if_pos ⟨low, high⟩]

/-- Where every place holds the word already, storing it changes nothing. -/
theorem storeAll_eq_self (holds : ∀ a ∈ places, word m a = v) : storeAll m places v = m := by
  induction places with
  | nil => rfl
  | cons a rest ih =>
      obtain ⟨first, others⟩ := List.forall_mem_cons.mp holds
      have same : store m a v = m := by rw [← first, store_word]
      change storeAll (store m a v) rest v = m
      rw [same]
      exact ih others

end StoreAll

/-! ### Patterns -/

/-- The bytes at an address are those of the pattern. -/
def Matches (m : Bytewise) (pattern : Bytes) (a : Nat) : Prop :=
  ∀ i < pattern.length, m (a + i) = pattern.getD i 0

instance (m : Bytewise) (pattern : Bytes) (a : Nat) : Decidable (Matches m pattern a) :=
  inferInstanceAs (Decidable (∀ i < pattern.length, _))

/-- The places where a pattern fits into a range. -/
def places (range : Range) (size : Nat) : List Nat :=
  (List.range (range.stop + 1 - size - range.begin)).map (range.begin + ·)

theorem mem_places {range : Range} {size a : Nat} :
    a ∈ places range size ↔ range.begin ≤ a ∧ a + size ≤ range.stop := by
  rw [places, List.mem_map]
  constructor
  · rintro ⟨i, inside, rfl⟩
    have bound := List.mem_range.mp inside
    omega
  · rintro ⟨low, high⟩
    refine ⟨a - range.begin, List.mem_range.mpr (by omega), by omega⟩

/-- The first place of a pattern. -/
def findBytes (m : Bytewise) (range : Range) (pattern : Bytes) : Option Nat :=
  (places range pattern.length).find? fun a => Matches m pattern a

/-- A pattern fits at a place of a range. -/
structure Occurs (m : Bytewise) (range : Range) (pattern : Bytes) (a : Nat) : Prop where
  low : range.begin ≤ a
  high : a + pattern.length ≤ range.stop
  found : Matches m pattern a

section Find

variable {m : Bytewise} {range : Range} {pattern : Bytes} {a : Nat}

theorem findBytes_eq_none :
    findBytes m range pattern = none ↔ ∀ a, ¬Occurs m range pattern a := by
  rw [findBytes, List.find?_eq_none]
  constructor
  · rintro none a ⟨low, high, found⟩
    exact none a (mem_places.mpr ⟨low, high⟩) (decide_eq_true found)
  · intro none a mem found
    obtain ⟨low, high⟩ := mem_places.mp mem
    exact none a ⟨low, high, of_decide_eq_true found⟩

theorem findBytes_eq_some :
    findBytes m range pattern = some a ↔
      Occurs m range pattern a ∧ ∀ b, Occurs m range pattern b → a ≤ b := by
  have sorted : (places range pattern.length).Pairwise (· < ·) := by
    rw [places, List.pairwise_map]
    exact List.pairwise_lt_range.imp fun less => Nat.add_lt_add_left less _
  rw [findBytes, List.find?_eq_some_iff_append]
  constructor
  · rintro ⟨found, front, back, split, others⟩
    have mem : a ∈ places range pattern.length := by rw [split]; simp
    obtain ⟨low, high⟩ := mem_places.mp mem
    refine ⟨⟨low, high, of_decide_eq_true found⟩, fun b occurs => ?_⟩
    have inside := mem_places.mpr ⟨occurs.low, occurs.high⟩
    rw [split, List.pairwise_append, List.pairwise_cons] at sorted
    rw [split] at inside
    rcases List.mem_append.mp inside with before | after
    · have not := others b before
      rw [decide_eq_true occurs.found] at not
      cases not
    · rcases List.mem_cons.mp after with rfl | later
      · exact le_rfl
      · exact (sorted.2.1.1 b later).le
  · rintro ⟨⟨low, high, found⟩, first⟩
    obtain ⟨front, back, split⟩ := List.append_of_mem (mem_places.mpr ⟨low, high⟩)
    refine ⟨decide_eq_true found, front, back, split, fun b before => ?_⟩
    rw [split, List.pairwise_append] at sorted
    have less := sorted.2.2 b before a (by simp)
    have inside : b ∈ places range pattern.length := by
      rw [split]
      exact List.mem_append_left _ before
    obtain ⟨lowB, highB⟩ := mem_places.mp inside
    simp only [Bool.not_eq_true', decide_eq_false_iff_not]
    exact fun found => less.not_ge (first b ⟨lowB, highB, found⟩)

end Find

end Memory
