import GamespyEmulator.Lib.Wire

/-!
The text of an SQL statement, read byte by byte as SQLite's tokenizer reads it: literals
and quoted names, comments, parameters with their suffix, and the end of the statement.
The state says only what a byte belongs to, not which token it is.

A clause of words behind a blank keeps the kind of the text in front of it
(`kind_append_clause`): it is read, or hidden, or the text is refused.
-/

namespace Sql

open Wire

/-! ### States -/

/-- What opens a literal or a quoted name. -/
inductive Quote where
  | single
  | double
  | back
  | bracket
deriving DecidableEq, Repr

def Quote.close : Quote → UInt8
  | .single => 39
  | .double => 34
  | .back => 96
  | .bracket => 93

/-- What the last byte belongs to. -/
inductive State where
  | code
  | word
  | dash
  | slash
  /-- The first bytes of a byte order mark, which is a blank. -/
  | mark (second : Bool)
  | parameter (named : Bool)
  /-- A colon behind a parameter: of its name, if another one follows. -/
  | colon (named : Bool)
  /-- The parenthesis behind a parameter's name, a part of the name. -/
  | suffix
  | literal (quote : Quote)
  | line
  /-- Directly behind the opening of a block comment. -/
  | opened
  | block
  | star
  | ended
  | refused
deriving DecidableEq, Repr

/-- A text is read on, or hidden in a comment or behind the end, or cannot end here. -/
inductive Kind where
  | plain
  | hidden
  | unfinished
deriving DecidableEq, Repr

def State.kind : State → Kind
  | .code | .word | .dash | .slash | .mark _ | .parameter true => .plain
  | .line | .opened | .block | .star | .ended => .hidden
  | .parameter false | .colon _ | .suffix | .literal _ | .refused => .unfinished

/-! ### Reading -/

/-- Letters, digits, `_`, `$` and the bytes behind ASCII. -/
def isWord (c : UInt8) : Bool :=
  (48 ≤ c && c ≤ 57) || (65 ≤ c && c ≤ 90) || (97 ≤ c && c ≤ 122) || c == 95 || c == 36 || 128 ≤ c

def isSpace (c : UInt8) : Bool := c == 32 || (9 ≤ c && c ≤ 13)

/-- The first byte of a token. -/
def first (c : UInt8) : State :=
  if c = 45 then .dash
  else if c = 47 then .slash
  else if c = 36 ∨ c = 64 ∨ c = 58 ∨ c = 35 then .parameter false
  else if c = 39 then .literal .single
  else if c = 34 then .literal .double
  else if c = 96 then .literal .back
  else if c = 91 then .literal .bracket
  else if c = 59 then .ended
  else if c = 239 then .mark false
  else if isWord c then .word
  else .code

/-- A byte behind the first of a word. -/
def inWord (c : UInt8) : State := if isWord c then .word else first c

/-- A byte in a block comment. -/
def inBlock (c : UInt8) : State := if c = 42 then .star else .block

/-- One byte other than NUL. A doubled quote closes a literal and opens the next one. -/
def next : State → UInt8 → State
  | .code, c => first c
  | .word, c => inWord c
  | .dash, c => if c = 45 then .line else first c
  | .slash, c => if c = 42 then .opened else first c
  | .mark second, c =>
      if c = (if second then 191 else 187) then (if second then .code else .mark true) else inWord c
  | .parameter named, c =>
      if isWord c then .parameter true
      else if c = 58 then .colon named
      else if named then (if c = 40 then .suffix else first c)
      else .refused
  | .colon named, c =>
      if c = 58 then .parameter named
      else if named ∧ isWord c then .parameter true
      else .refused
  | .suffix, c => if c = 41 then .code else if isSpace c then .refused else .suffix
  | .literal quote, c => if c = quote.close then .code else .literal quote
  | .line, c => if c = 10 then .code else .line
  | .opened, c => inBlock c
  | .block, c => inBlock c
  | .star, c => if c = 47 then .code else inBlock c
  | .ended, _ => .ended
  | .refused, _ => .refused

/-- One byte. A NUL ends the text. -/
def step (s : State) (c : UInt8) : State :=
  if c = 0 then (if s.kind = .unfinished then .refused else .ended) else next s c

/-- The state behind a text. -/
def read (text : Bytes) : State := text.foldl step .code

theorem read_append (front back : Bytes) : read (front ++ back) = back.foldl step (read front) :=
  List.foldl_append

/-! ### Clauses -/

/-- Capitals, digits and blanks. -/
def isClause (c : UInt8) : Bool := c == 32 || (48 ≤ c && c ≤ 57) || (65 ≤ c && c ≤ 90)

/-- A blank and words behind it. -/
structure Clause (clause : Bytes) : Prop where
  blank : clause.head? = some 32
  words : ∀ c ∈ clause, isClause c

/-- Nothing is pending that the next byte could complete. -/
def State.settled : State → Bool
  | .code | .word | .literal _ | .line | .block | .ended | .refused => true
  | _ => false

section Clause

variable {c : UInt8} (clauseByte : isClause c)
include clauseByte

/-- A byte of a clause is no other byte. -/
theorem clause_apart (other : UInt8) (none : isClause other = false) : c ≠ other := by
  rintro rfl
  rw [clauseByte] at none
  cases none

theorem clause_word (word : c ≠ 32) : isWord c := by
  have words : (48 ≤ c && c ≤ 57) || (65 ≤ c && c ≤ 90) := by
    simpa [isClause, word] using clauseByte
  unfold isWord
  rw [words]
  rfl

theorem first_clause : first c = if c = 32 then .code else .word := by
  have apart := clause_apart clauseByte
  have start : first c = if isWord c then .word else .code := by
    simp only [first, apart 45 rfl, apart 47 rfl, apart 36 rfl, apart 64 rfl, apart 58 rfl,
      apart 35 rfl, apart 39 rfl, apart 34 rfl, apart 96 rfl, apart 91 rfl, apart 59 rfl,
      apart 239 rfl, or_self, if_false]
  rw [start]
  by_cases blank : c = 32
  · rw [if_pos blank, blank]
    rfl
  · rw [if_neg blank, if_pos (clause_word clauseByte blank)]

/-- A settled state stays settled and of its kind. -/
theorem step_settled {s : State} (settled : s.settled) :
    (step s c).settled ∧ (step s c).kind = s.kind := by
  have apart := clause_apart clauseByte
  rw [step, if_neg (apart 0 rfl)]
  have token : (first c).settled ∧ (first c).kind = .plain := by
    rw [first_clause clauseByte]
    split <;> exact ⟨rfl, rfl⟩
  cases s with
  | code => exact token
  | word =>
      rw [next, inWord]
      split
      · exact ⟨rfl, rfl⟩
      · exact token
  | literal quote =>
      have other : isClause quote.close = false := by cases quote <;> rfl
      rw [next, if_neg (apart _ other)]
      exact ⟨rfl, rfl⟩
  | line =>
      rw [next, if_neg (apart 10 rfl)]
      exact ⟨rfl, rfl⟩
  | block =>
      rw [next, inBlock, if_neg (apart 42 rfl)]
      exact ⟨rfl, rfl⟩
  | ended => exact ⟨rfl, rfl⟩
  | refused => exact ⟨rfl, rfl⟩
  | dash => cases settled
  | slash => cases settled
  | mark second => cases settled
  | parameter named => cases settled
  | colon named => cases settled
  | suffix => cases settled
  | opened => cases settled
  | star => cases settled

end Clause

/-- A blank settles what was pending. -/
theorem step_blank (s : State) : (step s 32).settled ∧ (step s 32).kind = s.kind := by
  cases s with
  | mark second => cases second <;> exact ⟨rfl, rfl⟩
  | parameter named => cases named <;> exact ⟨rfl, rfl⟩
  | colon named => cases named <;> exact ⟨rfl, rfl⟩
  | literal quote => cases quote <;> exact ⟨rfl, rfl⟩
  | code => exact ⟨rfl, rfl⟩
  | word => exact ⟨rfl, rfl⟩
  | dash => exact ⟨rfl, rfl⟩
  | slash => exact ⟨rfl, rfl⟩
  | suffix => exact ⟨rfl, rfl⟩
  | line => exact ⟨rfl, rfl⟩
  | opened => exact ⟨rfl, rfl⟩
  | block => exact ⟨rfl, rfl⟩
  | star => exact ⟨rfl, rfl⟩
  | ended => exact ⟨rfl, rfl⟩
  | refused => exact ⟨rfl, rfl⟩

theorem foldl_settled {words : Bytes} (clause : ∀ c ∈ words, isClause c) {s : State}
    (settled : s.settled) : (words.foldl step s).kind = s.kind := by
  induction words generalizing s with
  | nil => rfl
  | cons c rest ih =>
      obtain ⟨one, others⟩ := List.forall_mem_cons.mp clause
      obtain ⟨stays, same⟩ := step_settled one settled
      rw [List.foldl_cons, ih others stays, same]

/-- **A clause is read, or hidden, or refused, as the text in front of it leaves it.** -/
theorem kind_append_clause (head : Bytes) {clause : Bytes} (words : Clause clause) :
    (read (head ++ clause)).kind = (read head).kind := by
  obtain ⟨blank, all⟩ := words
  cases clause with
  | nil => cases blank
  | cons c rest =>
      obtain rfl : c = 32 := Option.some.inj blank
      obtain ⟨settled, same⟩ := step_blank (read head)
      rw [read_append, List.foldl_cons,
        foldl_settled (fun c mem => all c (List.mem_cons_of_mem _ mem)) settled, same]

theorem Clause.of_prefix {front clause : Bytes} (words : Clause clause) (pre : front <+: clause)
    (nonempty : front ≠ []) : Clause front := by
  refine ⟨?_, fun c mem => words.words c (pre.subset mem)⟩
  cases front with
  | nil => exact absurd rfl nonempty
  | cons c rest =>
      obtain ⟨others, rfl⟩ := pre
      exact words.blank

/-- Every byte of `tail` is of one kind behind `head`. -/
def Throughout (kind : Kind) (head tail : Bytes) : Prop :=
  ∀ front, front <+: tail → (read (head ++ front)).kind = kind

theorem throughout_clause_iff {kind : Kind} {head clause : Bytes} (words : Clause clause) :
    Throughout kind head clause ↔ (read head).kind = kind := by
  constructor
  · intro throughout
    have before := throughout [] List.nil_prefix
    rwa [List.append_nil] at before
  · intro before front pre
    by_cases none : front = []
    · rw [none, List.append_nil, before]
    · rw [kind_append_clause head (words.of_prefix pre none), before]

/-! ### Texts without a mark -/

/-- A byte that opens no literal, comment or parameter, and ends no statement. -/
def Harmless (c : UInt8) : Prop := c ≠ 0 ∧ (first c = .code ∨ first c = .word)

instance : DecidablePred Harmless := fun _ => inferInstanceAs (Decidable (_ ∧ _))

theorem step_harmless {s : State} (outside : s = .code ∨ s = .word) {c : UInt8}
    (harmless : Harmless c) : step s c = .code ∨ step s c = .word := by
  rw [step, if_neg harmless.1]
  rcases outside with rfl | rfl
  · exact harmless.2
  · rw [next, inWord]
    split
    · exact .inr rfl
    · exact harmless.2

theorem plain_of_harmless {text : Bytes} (harmless : ∀ c ∈ text, Harmless c) :
    (read text).kind = .plain := by
  have outside : read text = .code ∨ read text = .word := by
    induction text using List.reverseRecOn with
    | nil => exact .inl rfl
    | append_singleton front c ih =>
        rw [read_append]
        exact step_harmless (ih fun c mem => harmless c (List.mem_append_left _ mem))
          (harmless c (by simp))
  rcases outside with code | word
  · rw [code]
    rfl
  · rw [word]
    rfl

end Sql
