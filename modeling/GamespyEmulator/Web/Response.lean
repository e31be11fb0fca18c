import GamespyEmulator.Lib.Numeral

/-!
`bf2web::response`: the text of an answer of the BF2 web service, and the number of its
characters, which is counted while the text is built and printed behind it.
`response_length` says that the two agree after every sequence of calls.
-/

namespace GamespyEmulator.BF2Web

open Wire

def tab : UInt8 := 9

def newline : UInt8 := 10

def dollar : UInt8 := 36

/-! ### Responses -/

/-- `bf2web::response`. -/
structure Response where
  error : Bool
  errorCode : UInt32
  str : Bytes
  length : Nat
deriving DecidableEq, Repr

/-- `response::type`. -/
inductive LineType where
  | header
  | data
deriving DecidableEq, Repr

/-- An argument of `Append`: of an integral type, or a text. -/
inductive Element where
  | integer (elem : Int)
  | text (elem : Bytes)
deriving DecidableEq, Repr

/-- What `AppendElement` appends: `std::to_string` of an integral element, and a text as
it is. -/
def Element.bytes : Element → Bytes
  | .integer elem => Numeral.integer elem
  | .text elem => elem

namespace Response

/-- A new response. `error_code` has no initializer. -/
def initial (errorCode : UInt32) : Response := ⟨false, errorCode, [], 0⟩

/-- `SetError`. -/
def setError (r : Response) (error : Bool) (code : UInt32) : Response :=
  { r with error := error, errorCode := code }

/-- `AppendElement`. -/
def appendElement (r : Response) (elem : Element) : Response :=
  { r with length := r.length + elem.bytes.length, str := r.str ++ elem.bytes ++ [tab] }

/-- `Append`. -/
def append (r : Response) (t : LineType) (args : List Element) : Response :=
  let r := { r with length := r.length + 1 }
  let r := match t with
    | .header => { r with str := r.str ++ ascii "H\t" }
    | .data => { r with str := r.str ++ ascii "D\t" }
  let r := args.foldl appendElement r
  { r with str := r.str ++ [newline] }

/-- The first line of `ToString`, and `errlen`. -/
def firstLine (r : Response) : Bytes × Nat :=
  if r.error then
    if r.errorCode ≠ 0 then
      let code := Numeral.decimal r.errorCode.toNat
      (ascii "E\t" ++ code ++ [newline], code.length)
    else (ascii "E\n", 0)
  else (ascii "O\n", 0)

/-- The end of `ToString`, which prints a number. -/
def trailer (number : Nat) : Bytes :=
  [dollar, tab] ++ Numeral.decimal number ++ [tab, dollar]

/-- `ToString`. -/
def toString (r : Response) : Bytes :=
  r.firstLine.1 ++ r.str ++ trailer (1 + r.length + r.firstLine.2)

end Response

/-! ### Calls -/

inductive Call where
  | setError (error : Bool) (code : UInt32)
  | append (t : LineType) (args : List Element)

def Response.call (r : Response) : Call → Response
  | .setError error code => r.setError error code
  | .append t args => r.append t args

/-- A response after a sequence of calls. -/
def Response.after (errorCode : UInt32) (calls : List Call) : Response :=
  calls.foldl call (.initial errorCode)

/-- Text elements have no tab and no newline. -/
def Element.Plain : Element → Prop
  | .integer _ => True
  | .text elem => tab ∉ elem ∧ newline ∉ elem

def Call.Plain : Call → Prop
  | .setError _ _ => True
  | .append _ args => ∀ arg ∈ args, arg.Plain

/-! ### Counting -/

/-- The characters that are neither a tab nor a newline. -/
def visible (text : Bytes) : Nat := text.countP fun c => c ≠ tab ∧ c ≠ newline

@[simp] theorem visible_append (front back : Bytes) :
    visible (front ++ back) = visible front + visible back :=
  List.countP_append

theorem visible_plain {text : Bytes} (tabs : tab ∉ text) (newlines : newline ∉ text) :
    visible text = text.length := by
  refine List.countP_eq_length.mpr fun c mem => ?_
  have noTab : c ≠ tab := fun eq => tabs (eq ▸ mem)
  have noNewline : c ≠ newline := fun eq => newlines (eq ▸ mem)
  simp [noTab, noNewline]

theorem digits_plain {digits : Bytes} (chars : ∀ b ∈ digits, Numeral.isDigit b ∨ b = 45) :
    visible digits = digits.length := by
  refine visible_plain (fun mem => ?_) fun mem => ?_
  · exact absurd (chars tab mem) (by decide)
  · exact absurd (chars newline mem) (by decide)

theorem Element.Plain.visible {elem : Element} (plain : elem.Plain) :
    visible elem.bytes = elem.bytes.length := by
  cases elem with
  | integer number => exact digits_plain (Numeral.integer_chars number)
  | text text => exact visible_plain plain.1 plain.2

/-- `length` counts the visible characters of the text. -/
def Response.Counted (r : Response) : Prop := visible r.str = r.length

namespace Response

variable {r : Response}

theorem Counted.appendElement (counted : r.Counted) {elem : Element} (plain : elem.Plain) :
    (r.appendElement elem).Counted := by
  have one : visible [tab] = 0 := rfl
  have before : visible r.str = r.length := counted
  rw [Counted, Response.appendElement, visible_append, visible_append, plain.visible, one, before]
  rfl

theorem Counted.elements {args : List Element} (counted : r.Counted)
    (plain : ∀ arg ∈ args, arg.Plain) : (args.foldl Response.appendElement r).Counted := by
  induction args generalizing r with
  | nil => exact counted
  | cons arg rest ih =>
      obtain ⟨first, others⟩ := List.forall_mem_cons.mp plain
      exact ih (counted.appendElement first) others

theorem Counted.append (counted : r.Counted) (t : LineType) {args : List Element}
    (plain : ∀ arg ∈ args, arg.Plain) : (r.append t args).Counted := by
  have before : visible r.str = r.length := counted
  have ended {opened : Response} (counted : opened.Counted) :
      ({ opened with str := opened.str ++ [newline] } : Response).Counted := by
    have none : visible [newline] = 0 := rfl
    have held : visible opened.str = opened.length := counted
    rw [Counted, visible_append, none, held]
    rfl
  cases t with
  | header =>
      have one : visible (ascii "H\t") = 1 := rfl
      refine ended (Counted.elements ?_ plain)
      rw [Counted, visible_append, one, before]
  | data =>
      have one : visible (ascii "D\t") = 1 := rfl
      refine ended (Counted.elements ?_ plain)
      rw [Counted, visible_append, one, before]

theorem Counted.call (counted : r.Counted) {call : Call} (plain : call.Plain) :
    (r.call call).Counted := by
  cases call with
  | setError error code => exact counted
  | append t args => exact counted.append t plain

theorem after_counted (errorCode : UInt32) {calls : List Call}
    (plain : ∀ call ∈ calls, call.Plain) :
    (Response.after errorCode calls).Counted := by
  have kept : ∀ (calls : List Call) (r : Response), r.Counted → (∀ call ∈ calls, call.Plain) →
      (calls.foldl Response.call r).Counted := by
    intro calls
    induction calls with
    | nil => exact fun r counted _ => counted
    | cons call rest ih =>
        intro r counted plain
        obtain ⟨first, others⟩ := List.forall_mem_cons.mp plain
        exact ih _ (counted.call first) others
  exact kept calls _ rfl plain

/-- The first line has one visible character, and an error code. -/
theorem visible_firstLine (r : Response) : visible r.firstLine.1 = 1 + r.firstLine.2 := by
  unfold firstLine
  split
  · split
    · have digits := digits_plain fun b mem =>
        .inl (Numeral.decimal_all_digits r.errorCode.toNat b mem)
      have error : visible (ascii "E\t") = 1 := rfl
      have ended : visible [newline] = 0 := rfl
      simp only [visible_append, digits, error, ended, Nat.add_zero]
    · rfl
  · rfl

/-! ### The trailer -/

/-- From behind, the digits of a trailer end at a tab. -/
theorem trailer_digits (front : Bytes) (number : Nat) :
    (((front ++ trailer number).reverse).drop 2).takeWhile Numeral.isDigit =
      (Numeral.decimal number).reverse := by
  have reversed : (front ++ trailer number).reverse =
      [dollar, tab] ++ ((Numeral.decimal number).reverse ++ tab :: dollar :: front.reverse) := by
    simp [trailer]
  have digits : ∀ b ∈ (Numeral.decimal number).reverse, Numeral.isDigit b := fun b mem =>
    Numeral.decimal_all_digits number b (List.mem_reverse.mp mem)
  have ended : (tab :: dollar :: front.reverse).takeWhile Numeral.isDigit = [] := rfl
  rw [reversed, List.drop_left', List.takeWhile_append_of_pos digits, ended, List.append_nil]
  rfl

/-- A text says only one number in its trailer. -/
theorem trailer_inj {front front' : Bytes} {number number' : Nat}
    (same : front ++ trailer number = front' ++ trailer number') :
    front = front' ∧ number = number' := by
  have digits : Numeral.decimal number = Numeral.decimal number' := by
    rw [← List.reverse_inj, ← trailer_digits front number, same, trailer_digits]
  have numbers : number = number' := by
    rw [← Numeral.value_decimal number, digits, Numeral.value_decimal]
  subst numbers
  exact ⟨List.append_cancel_right same, rfl⟩

end Response

/-! ### The number that is printed -/

/-- **The number in the trailer of a response is that of the visible characters in front of
the trailer.** -/
theorem response_length (errorCode : UInt32) (calls : List Call)
    (plain : ∀ call ∈ calls, call.Plain) :
    ∃ body number, (Response.after errorCode calls).toString = body ++ Response.trailer number ∧
      number = visible body ∧ ∀ body' number',
        (Response.after errorCode calls).toString = body' ++ Response.trailer number' →
          body' = body ∧ number' = number := by
  have counted : visible (Response.after errorCode calls).str =
      (Response.after errorCode calls).length := Response.after_counted errorCode plain
  refine ⟨_, _, rfl, ?_, fun body' number' same => Response.trailer_inj same.symm⟩
  rw [visible_append, Response.visible_firstLine, counted]
  omega

/-- An error with its code, and a line of data behind a header. -/
def errorCalls : List Call :=
  [.setError true 107, .append .header [.text (ascii "pid"), .text (ascii "score")],
    .append .data [.integer 43, .integer (-7)]]

theorem response_length_error :
    ∃ body number, (Response.after 0 errorCalls).toString = body ++ Response.trailer number ∧
      number = visible body ∧ ∀ body' number',
        (Response.after 0 errorCalls).toString = body' ++ Response.trailer number' →
          body' = body ∧ number' = number := by
  refine response_length 0 errorCalls ?_
  intro call mem
  fin_cases mem
  · trivial
  · intro arg inside
    fin_cases inside <;> exact ⟨by decide, by decide⟩
  · intro arg inside
    fin_cases inside <;> trivial

example : (Response.after 0 errorCalls).toString =
    ascii "E\t107\nH\tpid\tscore\t\nD\t43\t-7\t\n$\t18\t$" := rfl

end GamespyEmulator.BF2Web
