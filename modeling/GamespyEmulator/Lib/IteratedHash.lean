import Mathlib

/-!
Hashing in blocks: a padded text is cut into blocks of one size, and a compression
function is folded over them.

`foldl_eq_iff` says what it takes for two lists of blocks to end in one state, when
neither is a tail of the other: somewhere, in front of the same remaining blocks, the
compression function takes two different inputs to one state.
-/

namespace IteratedHash

/-! ### Blocks -/

section Chunks

variable {A : Type*} (size : Nat)

/-- So many pieces of a size. -/
def chunks : Nat → List A → List (List A)
  | 0, _ => []
  | n + 1, items => items.take size :: chunks n (items.drop size)

variable {size}

theorem chunks_append {m : Nat} {front : List A} (whole : front.length = size * m) (n : Nat)
    (back : List A) : chunks size (m + n) (front ++ back) = chunks size m front ++ chunks size n back := by
  induction m generalizing front with
  | zero =>
      cases List.eq_nil_of_length_eq_zero (whole.trans (Nat.mul_zero size))
      rw [Nat.zero_add]
      rfl
  | succ m ih =>
      have long : size ≤ front.length := by
        rw [whole]
        exact Nat.le_mul_of_pos_right size (Nat.succ_pos m)
      have rest : (front.drop size).length = size * m := by
        rw [List.length_drop, whole, Nat.mul_succ, Nat.add_sub_cancel]
      rw [Nat.add_right_comm, chunks, List.take_append_of_le_length long,
        List.drop_append_of_le_length long, ih rest]
      rfl

theorem chunks_single {items : List A} (one : items.length = size) : chunks size 1 items = [items] := by
  rw [chunks, ← one, List.take_length]
  rfl

@[simp] theorem length_chunks (n : Nat) (items : List A) : (chunks size n items).length = n := by
  induction n generalizing items with
  | zero => rfl
  | succ n ih => rw [chunks, List.length_cons, ih]

end Chunks

/-! ### Collisions -/

section Collision

variable {State Block : Type*} (compress : State → Block → State) (start : State)

/-- Two runs meet: different inputs of the compression function give one state, and the
blocks behind them are the same. -/
inductive Meet : List Block → List Block → Prop where
  | intro (front front' : List Block) (block block' : Block) (back : List Block)
      (apart : (front.foldl compress start, block) ≠ (front'.foldl compress start, block'))
      (same : compress (front.foldl compress start) block =
        compress (front'.foldl compress start) block') :
      Meet (front ++ block :: back) (front' ++ block' :: back)

variable {compress start} {blocks blocks' : List Block}

/-- Runs that meet end in one state. -/
theorem Meet.foldl_eq (meet : Meet compress start blocks blocks') :
    blocks.foldl compress start = blocks'.foldl compress start := by
  obtain ⟨front, front', block, block', back, -, same⟩ := meet
  rw [List.foldl_append, List.foldl_append, List.foldl_cons, List.foldl_cons, same]

/-- A meeting in front of one more block. -/
theorem Meet.snoc (meet : Meet compress start blocks blocks') (last : Block) :
    Meet compress start (blocks ++ [last]) (blocks' ++ [last]) := by
  obtain ⟨front, front', block, block', back, apart, same⟩ := meet
  rw [List.append_assoc, List.append_assoc]
  exact .intro front front' block block' (back ++ [last]) apart same

/-- Runs that end in one state meet, unless one list is a tail of the other. -/
theorem meet_of_foldl_eq (same : blocks.foldl compress start = blocks'.foldl compress start)
    (apart : ¬ blocks <:+ blocks') (apart' : ¬ blocks' <:+ blocks) :
    Meet compress start blocks blocks' := by
  have snoc_suffix {front back : List Block} (last : Block) (tail : front <:+ back) :
      front ++ [last] <:+ back ++ [last] := by
    obtain ⟨more, rfl⟩ := tail
    exact ⟨more, (List.append_assoc _ _ _).symm⟩
  induction blocks using List.reverseRecOn generalizing blocks' with
  | nil => exact absurd List.nil_suffix apart
  | append_singleton front block ih =>
      rcases List.eq_nil_or_concat' blocks' with rfl | ⟨front', block', rfl⟩
      · exact absurd List.nil_suffix apart'
      rw [List.foldl_append, List.foldl_append] at same
      by_cases inputs : (front.foldl compress start, block) = (front'.foldl compress start, block')
      · -- The last inputs agree, so the runs met earlier.
        obtain ⟨states, rfl⟩ := Prod.mk.inj inputs
        have earlier := ih states (fun tail => apart (snoc_suffix block tail))
          (fun tail => apart' (snoc_suffix block tail))
        exact earlier.snoc block
      · exact .intro front front' block block' [] inputs same

theorem foldl_eq_iff (apart : ¬ blocks <:+ blocks') (apart' : ¬ blocks' <:+ blocks) :
    blocks.foldl compress start = blocks'.foldl compress start ↔
      Meet compress start blocks blocks' :=
  ⟨fun same => meet_of_foldl_eq same apart apart', Meet.foldl_eq⟩

end Collision

end IteratedHash
