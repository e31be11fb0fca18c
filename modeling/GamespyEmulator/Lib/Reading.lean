import GamespyEmulator.Lib.Wire

/-!
Programs that read a memory cell by cell, with what they read. `agree` is why that
matters: memories that hold the same in the cells a program reads are the same to it, so
a program that stays in bounds cannot learn what is behind them.
-/

/-- A program over a memory of `B`s: it returns, or reads a cell and goes on. -/
inductive Reading (B A : Type) where
  | ret (value : A)
  | cell (i : Nat) (next : B → Reading B A)

namespace Reading

variable {B A C : Type}

protected def bind : Reading B A → (A → Reading B C) → Reading B C
  | .ret value, next => next value
  | .cell i later, next => .cell i fun b => (later b).bind next

instance : Monad (Reading B) where
  pure := .ret
  bind := Reading.bind

/-- What a program returns in a memory. -/
def run (memory : Nat → B) : Reading B A → A
  | .ret value => value
  | .cell i next => (next (memory i)).run memory

/-- The cells a program reads in a memory, in order. -/
def touched (memory : Nat → B) : Reading B A → List Nat
  | .ret _ => []
  | .cell i next => i :: (next (memory i)).touched memory

/-- A program reads no cell from a limit on. -/
def InBounds (memory : Nat → B) (limit : Nat) (t : Reading B A) : Prop :=
  ∀ i ∈ t.touched memory, i < limit

section Rules

variable {memory other : Nat → B} {limit : Nat} {t : Reading B A} {next : A → Reading B C}

@[simp] theorem run_pure (value : A) : (pure value : Reading B A).run memory = value := rfl

@[simp] theorem run_ret (value : A) : (Reading.ret value : Reading B A).run memory = value := rfl

@[simp] theorem run_cell (i : Nat) (next : B → Reading B A) :
    (Reading.cell i next).run memory = (next (memory i)).run memory := rfl

@[simp] theorem run_bind : (t >>= next).run memory = (next (t.run memory)).run memory := by
  induction t with
  | ret value => rfl
  | cell i later ih => exact ih (memory i)

theorem touched_bind :
    (t >>= next).touched memory = t.touched memory ++ (next (t.run memory)).touched memory := by
  induction t with
  | ret value => rfl
  | cell i later ih => exact congrArg (i :: ·) (ih (memory i))

/-- **Memories that agree where a program reads are the same to it.** -/
theorem agree (same : ∀ i ∈ t.touched memory, other i = memory i) :
    t.run other = t.run memory ∧ t.touched other = t.touched memory := by
  induction t with
  | ret value => exact ⟨rfl, rfl⟩
  | cell i later ih =>
      obtain ⟨here, others⟩ := List.forall_mem_cons.mp same
      obtain ⟨result, reads⟩ := ih (memory i) others
      rw [run_cell, run_cell, touched, touched, here]
      exact ⟨result, congrArg (i :: ·) reads⟩

theorem InBounds.agree (bounds : t.InBounds memory limit)
    (same : ∀ i < limit, other i = memory i) : t.run other = t.run memory :=
  (Reading.agree fun i read => same i (bounds i read)).1

@[simp] theorem inBounds_ret (value : A) : (Reading.ret value : Reading B A).InBounds memory limit :=
  fun _ read => absurd read List.not_mem_nil

@[simp] theorem inBounds_pure (value : A) : (pure value : Reading B A).InBounds memory limit :=
  inBounds_ret value

theorem inBounds_cell {i : Nat} {next : B → Reading B A} :
    (Reading.cell i next).InBounds memory limit ↔
      i < limit ∧ (next (memory i)).InBounds memory limit :=
  List.forall_mem_cons

theorem inBounds_bind : (t >>= next).InBounds memory limit ↔
    t.InBounds memory limit ∧ (next (t.run memory)).InBounds memory limit := by
  unfold InBounds
  rw [touched_bind]
  exact List.forall_mem_append

end Rules

/-! ### Programs that can fail -/

section AndThen

variable {E : Type} {memory : Nat → B} {limit : Nat} {t : Reading B (Except E A)}
  {next : A → Reading B (Except E C)}

/-- The next program, unless the first one failed. -/
def andThen (t : Reading B (Except E A)) (next : A → Reading B (Except E C)) :
    Reading B (Except E C) := do
  match ← t with
  | .error e => return .error e
  | .ok value => next value

theorem andThen_run : (t.andThen next).run memory =
    (t.run memory).bind fun value => (next value).run memory := by
  rw [andThen, run_bind]
  cases t.run memory <;> rfl

theorem andThen_inBounds (first : t.InBounds memory limit)
    (later : ∀ value, t.run memory = .ok value → (next value).InBounds memory limit) :
    (t.andThen next).InBounds memory limit := by
  rw [andThen, inBounds_bind]
  refine ⟨first, ?_⟩
  cases result : t.run memory with
  | error e => exact inBounds_pure _
  | ok value => exact later value result

end AndThen

/-! ### Cells in a row -/

/-- `n` cells from one on. -/
def cells : Nat → Nat → Reading B (List B)
  | _, 0 => .ret []
  | start, n + 1 => .cell start fun b => do
      let rest ← cells (start + 1) n
      return b :: rest

/-- `n` cells from one on, as a vector. -/
def vector (start : Nat) : (n : Nat) → Reading B (Vector B n)
  | 0 => .ret #v[]
  | n + 1 => do
      let front ← vector start n
      .cell (start + n) fun b => .ret (front.push b)

/-- The cells before one that holds `stop`, of `n` at most. -/
def cellsUntil [DecidableEq B] (stop : B) : Nat → Nat → Reading B (List B)
  | _, 0 => .ret []
  | start, n + 1 => .cell start fun b =>
      if b = stop then .ret []
      else do
        let rest ← cellsUntil stop (start + 1) n
        return b :: rest

variable {memory : Nat → B}

theorem cells_run (start n : Nat) :
    (cells start n).run memory = (List.range' start n).map memory := by
  induction n generalizing start with
  | zero => rfl
  | succ n ih =>
      rw [cells, run_cell, run_bind, run_pure, ih, List.range'_succ, List.map_cons]

theorem cells_touched (start n : Nat) :
    (cells start n : Reading B (List B)).touched memory = List.range' start n := by
  induction n generalizing start with
  | zero => rfl
  | succ n ih =>
      rw [cells, touched, touched_bind, ih, List.range'_succ]
      exact congrArg (start :: ·) (List.append_nil _)

theorem cells_inBounds {start n limit : Nat} (fits : start + n ≤ limit) :
    (cells start n : Reading B (List B)).InBounds memory limit := by
  intro i read
  rw [cells_touched, List.mem_range'_1] at read
  omega

theorem vector_run (start n : Nat) :
    ((vector start n).run memory).toList = (List.range' start n).map memory := by
  induction n with
  | zero => rfl
  | succ n ih =>
      rw [vector, run_bind, run_cell, run_ret, Vector.toList_push, ih, List.range'_concat,
        List.map_append, Nat.one_mul]
      rfl

theorem vector_inBounds {start n limit : Nat} (fits : start + n ≤ limit) :
    (vector start n : Reading B (Vector B n)).InBounds memory limit := by
  induction n with
  | zero => exact inBounds_ret _
  | succ n ih =>
      rw [vector, inBounds_bind, inBounds_cell]
      exact ⟨ih (by omega), by omega, inBounds_ret _⟩

variable [DecidableEq B] {stop : B}

theorem cellsUntil_run (start n : Nat) :
    (cellsUntil stop start n).run memory =
      ((List.range' start n).map memory).takeWhile (· ≠ stop) := by
  induction n generalizing start with
  | zero => rfl
  | succ n ih =>
      rw [cellsUntil, run_cell, List.range'_succ, List.map_cons, List.takeWhile_cons]
      by_cases here : memory start = stop
      · simp [here]
      · simp [here, ih]

/-- Nothing is read behind a cell that holds `stop`. -/
theorem cellsUntil_inBounds {start n at' : Nat} (stops : memory at' = stop) (front : start ≤ at') :
    (cellsUntil stop start n).InBounds memory (at' + 1) := by
  induction n generalizing start with
  | zero => exact inBounds_ret _
  | succ n ih =>
      rw [cellsUntil, inBounds_cell]
      refine ⟨Nat.lt_succ_of_le front, ?_⟩
      by_cases here : memory start = stop
      · rw [if_pos here]
        exact inBounds_ret _
      · rw [if_neg here, inBounds_bind]
        have later : start ≠ at' := fun same => here (same ▸ stops)
        exact ⟨ih (by omega), inBounds_pure _⟩

theorem cellsUntil_within {start n limit : Nat} (fits : start + n ≤ limit) :
    (cellsUntil stop start n).InBounds memory limit := by
  induction n generalizing start with
  | zero => exact inBounds_ret _
  | succ n ih =>
      rw [cellsUntil, inBounds_cell]
      refine ⟨by omega, ?_⟩
      split
      · exact inBounds_ret _
      · rw [inBounds_bind]
        exact ⟨ih (by omega), inBounds_pure _⟩

/-- The first cell is read. -/
theorem cellsUntil_first (start n : Nat) : start ∈ (cellsUntil stop start (n + 1)).touched memory :=
  List.mem_cons_self

end Reading

namespace Wire

/-- The cells of an array. -/
def cellsOf (memory : Bytes) : Nat → UInt8 := fun i => memory.getD i 0

theorem cellsOf_range {memory : Bytes} {start n : Nat} (fits : start + n ≤ memory.length) :
    (List.range' start n).map (cellsOf memory) = (memory.drop start).take n := by
  apply List.ext_getElem
  · simp only [List.length_map, List.length_range', List.length_take, List.length_drop]
    omega
  · intro i small _
    simp only [List.length_map, List.length_range'] at small
    simp only [List.getElem_map, List.getElem_range'_1, List.getElem_take, List.getElem_drop, cellsOf]
    exact List.getD_eq_getElem memory 0 (by omega)

theorem cellsOf_drop {memory : Bytes} {start : Nat} (inside : start < memory.length) :
    memory.drop start = cellsOf memory start :: memory.drop (start + 1) := by
  rw [List.drop_eq_getElem_cons inside, cellsOf, List.getD_eq_getElem memory 0 inside]

/-- A split at a NUL, by what stands before the NUL. -/
theorem splitNul_takeWhile (bs : Bytes) :
    splitNul bs =
      if (bs.takeWhile (· ≠ 0)).length = bs.length then none
      else some (bs.takeWhile (· ≠ 0), bs.drop ((bs.takeWhile (· ≠ 0)).length + 1)) := by
  induction bs with
  | nil => rfl
  | cons b bs ih =>
      rw [splitNul, List.takeWhile_cons]
      by_cases zero : b = 0
      · simp [zero]
      · simp only [zero, if_false, ne_eq, not_false_eq_true, decide_true, if_true, List.length_cons,
          Nat.add_right_cancel_iff]
        rw [ih]
        split <;> rfl

end Wire
