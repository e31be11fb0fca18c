import Mathlib

/-!
Packets in a byte stream. A format says what stands at the front of a buffer; more bytes
behind it do not change that. `cut` cuts a whole stream into packets. `read` is a reader
that has a buffer of limited capacity and gets the stream in chunks, of which it takes
what fits: `read_eq_cut` says that it finds the packets of the whole stream, however the
stream is chunked, as long as a full buffer always has a packet at its front.

`delimited` is the format of packets that end with a terminator.
-/

namespace Framing

variable {B A : Type}

/-- What stands at the front of a buffer: less than a packet, a packet of some length, or
what ends the reader. -/
inductive Front (A : Type) where
  | incomplete
  | packet (value : A) (length : Nat)
  | stop

structure Format (B A : Type) where
  front : List B → Front A
  length_pos {buffer : List B} {value : A} {length : Nat} :
    front buffer = .packet value length → 0 < length ∧ length ≤ buffer.length
  stable {buffer : List B} (more : List B) :
    front buffer ≠ .incomplete → front (buffer ++ more) = front buffer

/-! ### The whole stream -/

/-- The packets of a stream, and whether something in it ends the reader. -/
def cut (format : Format B A) (stream : List B) : List A × Bool :=
  match _found : format.front stream with
  | .incomplete => ([], false)
  | .stop => ([], true)
  | .packet value length =>
      let rest := cut format (stream.drop length)
      (value :: rest.1, rest.2)
termination_by stream.length
decreasing_by
  have inside := format.length_pos _found
  rw [List.length_drop]
  omega

section Cut

variable {format : Format B A} {stream : List B}

theorem cut_incomplete (found : format.front stream = .incomplete) :
    cut format stream = ([], false) := by
  rw [cut]
  split
  · rfl
  · rename_i other
    rw [found] at other
    cases other
  · rename_i other
    rw [found] at other
    cases other

theorem cut_stop (found : format.front stream = .stop) : cut format stream = ([], true) := by
  rw [cut]
  split
  · rename_i other
    rw [found] at other
    cases other
  · rfl
  · rename_i other
    rw [found] at other
    cases other

theorem cut_packet {value : A} {length : Nat} (found : format.front stream = .packet value length) :
    cut format stream =
      (value :: (cut format (stream.drop length)).1, (cut format (stream.drop length)).2) := by
  rw [cut]
  split
  · rename_i other
    rw [found] at other
    cases other
  · rename_i other
    rw [found] at other
    cases other
  · rename_i other
    rw [found] at other
    cases other
    rfl

end Cut

/-! ### A reader -/

/-- How a reader ends: at the end of its input, at what ends it, or with a full buffer
that has no packet at its front. -/
inductive Ended where
  | eof
  | stopped
  | full
deriving DecidableEq, Repr

/-- A reader with these bytes in its buffer. A read takes of the next chunk what there is
room for. -/
def read (format : Format B A) (capacity : Nat) (buffer : List B) (chunks : List (List B)) :
    List A × Ended :=
  match _found : format.front buffer with
  | .stop => ([], .stopped)
  | .packet value length =>
      let rest := read format capacity (buffer.drop length) chunks
      (value :: rest.1, rest.2)
  | .incomplete =>
      if capacity ≤ buffer.length then ([], .full)
      else match chunks with
        | [] => ([], .eof)
        | chunk :: rest =>
            if chunk.length ≤ capacity - buffer.length then
              read format capacity (buffer ++ chunk) rest
            else
              read format capacity (buffer ++ chunk.take (capacity - buffer.length))
                (chunk.drop (capacity - buffer.length) :: rest)
termination_by 2 * chunks.flatten.length + chunks.length + buffer.length
decreasing_by
  · have inside := format.length_pos _found
    rw [List.length_drop]
    omega
  · simp only [List.flatten_cons, List.length_append, List.length_cons]
    omega
  · simp only [List.flatten_cons, List.length_append, List.length_cons, List.length_drop,
      List.length_take]
    omega

/-- At each cut of the stream, a buffer filled from it shows what stands at its front. -/
inductive Fits (format : Format B A) (capacity : Nat) : List B → Prop where
  | last {stream : List B}
      (shows : ∀ buffer, buffer <+: stream → capacity ≤ buffer.length →
        format.front buffer ≠ .incomplete)
      (none : ∀ value length, format.front stream ≠ .packet value length) :
      Fits format capacity stream
  | packet {stream : List B} {value : A} {length : Nat}
      (shows : ∀ buffer, buffer <+: stream → capacity ≤ buffer.length →
        format.front buffer ≠ .incomplete)
      (found : format.front stream = .packet value length)
      (rest : Fits format capacity (stream.drop length)) : Fits format capacity stream

theorem Fits.shows {format : Format B A} {capacity : Nat} {stream : List B}
    (fits : Fits format capacity stream) {buffer : List B} (front : buffer <+: stream)
    (full : capacity ≤ buffer.length) : format.front buffer ≠ .incomplete := by
  cases fits with
  | last shows _ => exact shows buffer front full
  | packet shows _ _ => exact shows buffer front full

theorem Fits.drop {format : Format B A} {capacity : Nat} {stream : List B} {value : A}
    {length : Nat} (fits : Fits format capacity stream)
    (found : format.front stream = .packet value length) :
    Fits format capacity (stream.drop length) := by
  cases fits with
  | last _ none => exact absurd found (none value length)
  | packet _ found' rest =>
      rw [found] at found'
      cases found'
      exact rest

/-- What a buffer shows, the whole stream shows. -/
theorem front_stream {format : Format B A} {buffer : List B} (more : List B)
    {shown : Front A} (found : format.front buffer = shown) (whole : shown ≠ .incomplete) :
    format.front (buffer ++ more) = shown := by
  rw [← found] at whole ⊢
  exact format.stable more whole

/-- **A reader finds the packets of the whole stream, however it is chunked.** -/
theorem read_eq_cut {format : Format B A} {capacity : Nat} (buffer : List B)
    (chunks : List (List B)) (fits : Fits format capacity (buffer ++ chunks.flatten)) :
    read format capacity buffer chunks =
      ((cut format (buffer ++ chunks.flatten)).1,
        if (cut format (buffer ++ chunks.flatten)).2 then .stopped else .eof) := by
  fun_induction read format capacity buffer chunks with
  | case1 buffer chunks found =>
      rw [cut_stop (front_stream chunks.flatten found (by simp))]
      rfl
  | case2 buffer chunks value length found rest ih =>
      have whole := front_stream chunks.flatten found (by simp)
      have inside := (format.length_pos found).2
      have dropped : (buffer ++ chunks.flatten).drop length =
          buffer.drop length ++ chunks.flatten := List.drop_append_of_le_length inside
      have left := fits.drop whole
      rw [dropped] at left
      have read : rest = _ := ih left
      rw [cut_packet whole, dropped, read]
  | case3 buffer chunks found full =>
      exact absurd found (fits.shows (List.prefix_append _ _) full)
  | case4 buffer found room =>
      rw [List.flatten_nil, List.append_nil, cut_incomplete found]
      rfl
  | case5 buffer found room chunk rest fitting ih =>
      rw [List.append_assoc, ← List.flatten_cons] at ih
      exact ih fits
  | case6 buffer found room chunk rest fitting ih =>
      have same : buffer ++ chunk.take (capacity - buffer.length) ++
          (chunk.drop (capacity - buffer.length) :: rest).flatten =
            buffer ++ (chunk :: rest).flatten := by
        have parts := List.take_append_drop (capacity - buffer.length) chunk
        rw [List.flatten_cons, List.flatten_cons, List.append_assoc, ← List.append_assoc (chunk.take _),
          parts]
      rw [same] at ih
      exact ih fits

/-! ### Packets that end with a terminator -/

section Delimited

variable [BEq B] [LawfulBEq B] {terminator : List B}

/-- What stands before the first occurrence of the terminator. -/
def before (terminator : List B) : List B → Option (List B)
  | [] => if terminator.isEmpty then some [] else none
  | c :: rest =>
      if terminator.isPrefixOf (c :: rest) then some []
      else (before terminator rest).map fun front => c :: front

/-- The terminator does not occur in front of its end. -/
def Clean (terminator body : List B) : Prop :=
  ∀ p < body.length, ¬ terminator <+: (body ++ terminator).drop p

theorem before_eq_some {buffer front : List B} (found : before terminator buffer = some front) :
    front ++ terminator <+: buffer := by
  induction buffer generalizing front with
  | nil =>
      unfold before at found
      split at found
      · rename_i empty
        cases found
        rw [List.isEmpty_iff.mp empty]
        exact List.nil_prefix
      · cases found
  | cons c rest ih =>
      unfold before at found
      split at found
      · rename_i here
        cases found
        exact List.isPrefixOf_iff_prefix.mp here
      · obtain ⟨front', found', rfl⟩ := Option.map_eq_some_iff.mp found
        exact List.cons_prefix_cons.mpr ⟨rfl, ih found'⟩

theorem before_stable {buffer front : List B} (found : before terminator buffer = some front)
    (more : List B) : before terminator (buffer ++ more) = some front := by
  induction buffer generalizing front with
  | nil =>
      unfold before at found
      split at found
      · rename_i empty
        cases found
        rw [List.isEmpty_iff] at empty
        subst empty
        cases more <;> rfl
      · cases found
  | cons c rest ih =>
      have inside : terminator.length ≤ (c :: rest).length := by
        have := (before_eq_some found).length_le
        rw [List.length_append] at this
        omega
      have same : terminator.isPrefixOf ((c :: rest) ++ more) = terminator.isPrefixOf (c :: rest) := by
        rw [Bool.eq_iff_iff, List.isPrefixOf_iff_prefix, List.isPrefixOf_iff_prefix]
        constructor
        · intro longer
          exact List.prefix_of_prefix_length_le longer (List.prefix_append _ _) inside
        · intro shorter
          exact shorter.trans (List.prefix_append _ _)
      unfold before at found
      rw [List.cons_append] at same ⊢
      rw [before, same]
      split at found
      · rename_i here
        rw [if_pos here]
        exact found
      · rename_i elsewhere
        obtain ⟨front', found', rfl⟩ := Option.map_eq_some_iff.mp found
        rw [if_neg elsewhere, ih found']
        rfl

theorem before_clean {body : List B} (clean : Clean terminator body) (rest : List B) :
    before terminator (body ++ terminator ++ rest) = some body := by
  refine before_stable ?_ rest
  induction body with
  | nil =>
      cases terminator with
      | nil => rfl
      | cons c rest =>
          have whole : (c :: rest).isPrefixOf (c :: rest) = true :=
            List.isPrefixOf_iff_prefix.mpr (List.prefix_refl _)
          rw [List.nil_append, before, if_pos whole]
  | cons c body ih =>
      have apart : terminator.isPrefixOf (c :: (body ++ terminator)) ≠ true := by
        intro here
        exact clean 0 (Nat.zero_lt_succ _) (List.isPrefixOf_iff_prefix.mp here)
      have shorter : Clean terminator body := by
        intro p inside
        exact clean (p + 1) (Nat.succ_lt_succ inside)
      rw [List.cons_append, before, if_neg apart, ih shorter]
      rfl

variable (nonempty : terminator ≠ []) (decode : List B → A)

/-- Packets that end with the terminator; `decode` is given what stands before it. -/
def delimited : Format B A where
  front buffer :=
    match before terminator buffer with
    | none => .incomplete
    | some front => .packet (decode front) (front.length + terminator.length)
  length_pos := by
    intro buffer value length found
    split at found
    · cases found
    · rename_i front first
      cases found
      have inside := (before_eq_some first).length_le
      rw [List.length_append] at inside
      have pos := List.length_pos_iff.mpr nonempty
      omega
  stable := by
    intro buffer more shown
    cases first : before terminator buffer with
    | none =>
        rw [first] at shown
        exact absurd rfl shown
    | some front => rw [before_stable first more]

variable {nonempty decode}

theorem delimited_front {body : List B} (clean : Clean terminator body) (rest : List B) :
    (delimited nonempty decode).front (body ++ terminator ++ rest) =
      .packet (decode body) (body.length + terminator.length) := by
  simp only [delimited, before_clean clean rest]

theorem delimited_nil : (delimited nonempty decode).front [] = .incomplete := by
  have some' : ¬ terminator.isEmpty := by simpa using nonempty
  simp [delimited, before, some']

/-- **Clean bodies are cut at their terminators**, and a buffer that has room for each of
them is never full without a packet. -/
theorem cut_delimited {capacity : Nat} {bodies : List (List B)}
    (clean : ∀ body ∈ bodies, Clean terminator body)
    (room : ∀ body ∈ bodies, body.length + terminator.length ≤ capacity) (some' : 0 < capacity) :
    cut (delimited nonempty decode) (bodies.flatMap fun body => body ++ terminator) =
        (bodies.map decode, false) ∧
      Fits (delimited nonempty decode) capacity
        (bodies.flatMap fun body => body ++ terminator) := by
  induction bodies with
  | nil =>
      refine ⟨cut_incomplete delimited_nil, .last ?_ ?_⟩
      · intro buffer front full
        have empty : buffer = [] := List.prefix_nil.mp front
        subst empty
        exact absurd full (Nat.not_le.mpr some')
      · intro value length found
        rw [List.flatMap_nil, delimited_nil] at found
        cases found
  | cons body bodies ih =>
      obtain ⟨first, others⟩ := List.forall_mem_cons.mp clean
      obtain ⟨small, smaller⟩ := List.forall_mem_cons.mp room
      obtain ⟨rest, fits⟩ := ih others smaller
      rw [List.flatMap_cons]
      have found := @delimited_front B A _ _ terminator nonempty decode body first
        (bodies.flatMap fun body => body ++ terminator)
      have left : (body ++ terminator ++ bodies.flatMap fun body => body ++ terminator).drop
          (body.length + terminator.length) = bodies.flatMap fun body => body ++ terminator := by
        rw [← List.length_append, List.drop_left]
      constructor
      · rw [cut_packet found, left, rest]
        rfl
      · refine .packet ?_ found (by rw [left]; exact fits)
        intro buffer front full
        have shown : body ++ terminator <+: buffer := by
          refine List.prefix_of_prefix_length_le (List.prefix_append _ _) front ?_
          rw [List.length_append]
          omega
        obtain ⟨more, rfl⟩ := shown
        rw [delimited_front first more]
        simp

end Delimited

end Framing
