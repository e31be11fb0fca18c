import GamespyEmulator.Web.Response

/-!
What the text of a response says: whether it is an error, and its lines with their values.
`Document.read` reads a text as the game does, line by line and tab by tab, and checks the
number behind the lines. `read_toString` reads back every sequence of calls, and
`text_eq_iff` says that the text is that of what the calls say, and of nothing else.
-/

namespace GamespyEmulator.BF2Web

open Wire

/-! ### Documents -/

structure Line where
  type : LineType
  values : List Bytes
deriving DecidableEq, Repr

/-- The code of an error, and the lines. -/
structure Document where
  error : Option Nat
  lines : List Line
deriving DecidableEq, Repr

def LineType.letter : LineType → UInt8
  | .header => 72
  | .data => 68

/-- A line of a text, with no newline. -/
def Line.text (line : Line) : Bytes :=
  line.type.letter :: tab :: line.values.flatMap (· ++ [tab])

/-- A line has a letter and its values, each with a tab behind it. -/
def Line.read (text : Bytes) : Option Line :=
  match text.splitOn tab with
  | [72] :: fields =>
      if fields.getLast? = some [] then some ⟨.header, fields.dropLast⟩ else none
  | [68] :: fields =>
      if fields.getLast? = some [] then some ⟨.data, fields.dropLast⟩ else none
  | _ => none

/-- The first line. -/
def readFirst (text : Bytes) : Option (Option Nat) :=
  match text.splitOn tab with
  | [[79]] => some none
  | [[69]] => some (some 0)
  | [[69], digits] => if digits.all Numeral.isDigit then some (some (Numeral.value digits)) else none
  | _ => none

/-- The last line. -/
def readLast (text : Bytes) : Option Nat :=
  match text.splitOn tab with
  | [[36], digits, [36]] =>
      if digits.all Numeral.isDigit then some (Numeral.value digits) else none
  | _ => none

/-- A text is read if the number in its last line is that of the visible characters before
that line. -/
def Document.read (text : Bytes) : Option Document :=
  match text.splitOn newline with
  | [] => none
  | first :: rest => do
      let error ← readFirst first
      let number ← readLast (← rest.getLast?)
      let lines ← rest.dropLast.mapM Line.read
      if number = visible first + (rest.dropLast.map visible).sum then some ⟨error, lines⟩ else none

/-- Each line of data has a value for each name in the header above it. -/
def rectangular : Option Nat → List Line → Prop
  | _, [] => True
  | _, ⟨.header, names⟩ :: rest => rectangular (some names.length) rest
  | width, ⟨.data, values⟩ :: rest => width = some values.length ∧ rectangular width rest

def Document.Rectangular (document : Document) : Prop := rectangular none document.lines

/-! ### Reading what is ended -/

/-- Pieces that are ended by a separator are read back, with what comes behind them. -/
theorem splitOn_ended {separator : UInt8} {pieces : List Bytes} {last : Bytes}
    (clean : ∀ piece ∈ pieces, separator ∉ piece) (cleanLast : separator ∉ last) :
    (pieces.flatMap (· ++ [separator]) ++ last).splitOn separator = pieces ++ [last] := by
  have joined : pieces.flatMap (· ++ [separator]) ++ last =
      [separator].intercalate (pieces ++ [last]) := by
    clear clean
    induction pieces with
    | nil => simp
    | cons piece rest ih =>
        have longer : rest ++ [last] ≠ [] := by simp
        rw [List.flatMap_cons, List.append_assoc, ih, List.cons_append,
          List.intercalate_cons_of_ne_nil longer]
  rw [joined]
  apply List.splitOn_intercalate
  · intro piece mem
    rcases List.mem_append.mp mem with inside | last'
    · exact clean piece inside
    · rw [List.mem_singleton.mp last']
      exact cleanLast
  · simp

/-- Values without tabs and newlines. -/
def Line.Plain (line : Line) : Prop := ∀ value ∈ line.values, tab ∉ value ∧ newline ∉ value

theorem Line.read_text {line : Line} (plain : line.Plain) : Line.read line.text = some line := by
  obtain ⟨type, values⟩ := line
  have clean : ∀ value ∈ values, tab ∉ value := fun value mem => (plain value mem).1
  have split (letter : UInt8) (other : letter ≠ tab) :
      (letter :: tab :: values.flatMap (· ++ [tab])).splitOn tab = [letter] :: (values ++ [[]]) := by
    have all : ∀ piece ∈ [letter] :: values, tab ∉ piece := by
      intro piece mem
      rcases List.mem_cons.mp mem with rfl | inside
      · simpa using other.symm
      · exact clean piece inside
    have ended := splitOn_ended all List.not_mem_nil
    simpa using ended
  cases type with
  | header => simp [Line.read, Line.text, LineType.letter, split 72 (by decide)]
  | data => simp [Line.read, Line.text, LineType.letter, split 68 (by decide)]

theorem Line.text_clean {line : Line} (plain : line.Plain) : newline ∉ line.text := by
  obtain ⟨type, values⟩ := line
  have inside : newline ∉ values.flatMap (· ++ [tab]) := by
    intro mem
    obtain ⟨value, held, mem⟩ := List.mem_flatMap.mp mem
    rcases List.mem_append.mp mem with own | ended
    · exact (plain value held).2 own
    · exact absurd (List.mem_singleton.mp ended) (by decide)
  cases type with
  | header =>
      simp only [Line.text, LineType.letter, List.mem_cons, not_or]
      exact ⟨by decide, by decide, inside⟩
  | data =>
      simp only [Line.text, LineType.letter, List.mem_cons, not_or]
      exact ⟨by decide, by decide, inside⟩

/-! ### What calls say -/

/-- The text of an element has no tab and no newline. -/
theorem Element.Plain.bytes {elem : Element} (plain : elem.Plain) :
    tab ∉ elem.bytes ∧ newline ∉ elem.bytes := by
  cases elem with
  | text text => exact plain
  | integer number =>
      have chars := Numeral.integer_chars number
      exact ⟨fun mem => absurd (chars tab mem) (by decide),
        fun mem => absurd (chars newline mem) (by decide)⟩

/-- The line a call appends. -/
def Call.line? : Call → Option Line
  | .setError _ _ => none
  | .append t args => some ⟨t, args.map Element.bytes⟩

/-- The error behind a call. -/
def Call.errorBehind (error : Option Nat) : Call → Option Nat
  | .setError error code => if error then some code.toNat else none
  | .append _ _ => error

/-- What a sequence of calls says. -/
def Document.of (calls : List Call) : Document :=
  ⟨calls.foldl Call.errorBehind none, calls.filterMap Call.line?⟩

theorem Document.of_plain {calls : List Call} (plain : ∀ call ∈ calls, call.Plain) :
    ∀ line ∈ (Document.of calls).lines, line.Plain := by
  intro line mem value inside
  obtain ⟨call, held, appends⟩ := List.mem_filterMap.mp mem
  cases call with
  | setError error code => cases appends
  | append t args =>
      cases appends
      obtain ⟨elem, arg, rfl⟩ := List.mem_map.mp inside
      exact (plain _ held elem arg).bytes

namespace Response

/-- The error code that is printed. -/
def error? (r : Response) : Option Nat := if r.error then some r.errorCode.toNat else none

theorem error?_after (errorCode : UInt32) (calls : List Call) :
    (Response.after errorCode calls).error? = (Document.of calls).error := by
  have folded : ∀ (r : Response), (calls.foldl call r).error? =
      calls.foldl Call.errorBehind r.error? := by
    induction calls with
    | nil => exact fun r => rfl
    | cons first rest ih =>
        intro r
        rw [List.foldl_cons, List.foldl_cons, ih]
        cases first with
        | setError error code => rfl
        | append t args =>
            have kept : ∀ (args : List Element) (r : Response),
                (args.foldl appendElement r).error? = r.error? := by
              intro args
              induction args with
              | nil => exact fun r => rfl
              | cons arg others ih => exact fun r => ih (r.appendElement arg)
            have same : (r.append t args).error? = r.error? := by
              cases t with
              | header => exact kept args _
              | data => exact kept args _
            rw [call, same]
            rfl
  exact folded (.initial errorCode)

theorem str_elements (args : List Element) (r : Response) :
    (args.foldl appendElement r).str =
      r.str ++ (args.map Element.bytes).flatMap (· ++ [tab]) := by
  induction args generalizing r with
  | nil => simp
  | cons arg rest ih => simp [ih, appendElement]

theorem str_append (r : Response) (t : LineType) (args : List Element) :
    (r.append t args).str = r.str ++ (Line.text ⟨t, args.map Element.bytes⟩ ++ [newline]) := by
  have header : ascii "H\t" = [72, tab] := rfl
  have data : ascii "D\t" = [68, tab] := rfl
  cases t with
  | header => simp [append, str_elements, Line.text, LineType.letter, header]
  | data => simp [append, str_elements, Line.text, LineType.letter, data]

theorem str_after (errorCode : UInt32) (calls : List Call) :
    (Response.after errorCode calls).str =
      ((Document.of calls).lines.map Line.text).flatMap (· ++ [newline]) := by
  have folded : ∀ (r : Response), (calls.foldl call r).str =
      r.str ++ ((calls.filterMap Call.line?).map Line.text).flatMap (· ++ [newline]) := by
    induction calls with
    | nil => exact fun r => (List.append_nil _).symm
    | cons first rest ih =>
        intro r
        rw [List.foldl_cons, ih]
        cases first with
        | setError error code => rfl
        | append t args => simp [call, str_append, Call.line?]
  exact folded (.initial errorCode)

end Response

/-! ### Reading a response -/

/-- The first line, with no newline. -/
def Document.first (error : Option Nat) : Bytes :=
  match error with
  | none => [79]
  | some 0 => [69]
  | some code => 69 :: tab :: Numeral.decimal code

theorem digits_clean (number : Nat) :
    tab ∉ Numeral.decimal number ∧ newline ∉ Numeral.decimal number := by
  have digits := Numeral.decimal_all_digits number
  exact ⟨fun mem => absurd (digits tab mem) (by decide),
    fun mem => absurd (digits newline mem) (by decide)⟩

theorem readFirst_first (error : Option Nat) : readFirst (Document.first error) = some error := by
  have digits (code : Nat) : (Numeral.decimal code).all Numeral.isDigit :=
    List.all_eq_true.mpr (Numeral.decimal_all_digits code)
  rcases error with _ | _ | code
  · rfl
  · rfl
  · have split : (69 :: tab :: Numeral.decimal (code + 1)).splitOn tab =
        [[69], Numeral.decimal (code + 1)] := by
      have ended := @splitOn_ended tab [[69]] _ (by decide) (digits_clean (code + 1)).1
      simpa using ended
    simp [readFirst, Document.first, split, digits, Numeral.value_decimal]

theorem first_clean (error : Option Nat) : newline ∉ Document.first error := by
  rcases error with _ | _ | code
  · decide
  · decide
  · simp only [Document.first, List.mem_cons, not_or]
    exact ⟨by decide, by decide, (digits_clean (code + 1)).2⟩

theorem readLast_trailer (number : Nat) : readLast (Response.trailer number) = some number := by
  have digits : (Numeral.decimal number).all Numeral.isDigit :=
    List.all_eq_true.mpr (Numeral.decimal_all_digits number)
  have split : (Response.trailer number).splitOn tab = [[36], Numeral.decimal number, [36]] := by
    have clean : ∀ piece ∈ [[36], Numeral.decimal number], tab ∉ piece := by
      intro piece mem
      rcases List.mem_cons.mp mem with rfl | mem
      · decide
      · rw [List.mem_singleton.mp mem]
        exact (digits_clean number).1
    have ended := @splitOn_ended tab _ [36] clean (by decide)
    simpa [Response.trailer, dollar] using ended
  simp [readLast, split, digits, Numeral.value_decimal]

theorem trailer_clean (number : Nat) : newline ∉ Response.trailer number := by
  simp only [Response.trailer, List.mem_append, not_or]
  exact ⟨⟨by decide, (digits_clean number).2⟩, by decide⟩

/-- The first line is that of the error. -/
theorem Response.firstLine_eq (r : Response) :
    r.firstLine.1 = Document.first r.error? ++ [newline] := by
  cases error : r.error with
  | false =>
      simp only [firstLine, error?, error, Document.first]
      rfl
  | true =>
      have word : ascii "E\t" = [69, tab] := rfl
      cases code : r.errorCode.toNat with
      | zero =>
          have none : ¬r.errorCode ≠ 0 := not_not.mpr (UInt32.toNat_inj.mp code)
          simp only [firstLine, error?, error, code, if_true, if_neg none, Document.first]
          rfl
      | succ n =>
          have some : r.errorCode ≠ 0 := by
            rintro zero
            simp [zero] at code
          simp [firstLine, error?, error, code, some, Document.first, word]

theorem visible_lines (pieces : List Bytes) :
    visible (pieces.flatMap (· ++ [newline])) = (pieces.map visible).sum := by
  have none : visible [newline] = 0 := rfl
  induction pieces with
  | nil => rfl
  | cons piece rest ih =>
      rw [List.flatMap_cons, visible_append, visible_append, none, ih]
      rfl

theorem mapM_read {lines : List Line} (plain : ∀ line ∈ lines, line.Plain) :
    (lines.map Line.text).mapM Line.read = some lines := by
  induction lines with
  | nil => rfl
  | cons line rest ih =>
      obtain ⟨first, others⟩ := List.forall_mem_cons.mp plain
      simp [Line.read_text first, ih others]

/-- After every sequence of calls, the text of a response is read as the last error that was
set and all lines in their order, and its number is right. -/
theorem read_toString (errorCode : UInt32) (calls : List Call)
    (plain : ∀ call ∈ calls, call.Plain) :
    Document.read (Response.after errorCode calls).toString = some (Document.of calls) := by
  have linesPlain := Document.of_plain plain
  have counted : visible (Response.after errorCode calls).str =
      (Response.after errorCode calls).length := Response.after_counted errorCode plain
  have firstVisible := (Response.after errorCode calls).visible_firstLine
  have errorSame := Response.error?_after errorCode calls
  have firstSame := (Response.after errorCode calls).firstLine_eq
  have strSame := Response.str_after errorCode calls
  have text : (Response.after errorCode calls).toString =
      (Document.first (Document.of calls).error :: (Document.of calls).lines.map Line.text).flatMap
        (· ++ [newline]) ++ Response.trailer
          (1 + (Response.after errorCode calls).length +
            (Response.after errorCode calls).firstLine.2) := by
    rw [Response.toString, firstSame, strSame, errorSame, List.flatMap_cons]
  rw [firstSame, errorSame, visible_append] at firstVisible
  rw [strSame, visible_lines] at counted
  have none : visible [newline] = 0 := rfl
  generalize (Response.after errorCode calls).length = length at *
  generalize (Response.after errorCode calls).firstLine.2 = codeLength at *
  have clean : ∀ piece ∈ Document.first (Document.of calls).error ::
      (Document.of calls).lines.map Line.text, newline ∉ piece := by
    intro piece mem
    rcases List.mem_cons.mp mem with rfl | inside
    · exact first_clean _
    · obtain ⟨line, held, rfl⟩ := List.mem_map.mp inside
      exact Line.text_clean (linesPlain line held)
  have split := splitOn_ended clean (trailer_clean (1 + length + codeLength))
  have number : 1 + length + codeLength = visible (Document.first (Document.of calls).error) +
      (((Document.of calls).lines.map Line.text).map visible).sum := by
    omega
  rw [text, Document.read, split]
  simp only [List.cons_append, readFirst_first, List.getLast?_concat, readLast_trailer,
    List.dropLast_concat, mapM_read linesPlain, Option.bind_eq_bind, Option.bind_some]
  exact if_pos number

/-- The text is made of what the calls say. -/
theorem toString_congr {errorCode errorCode' : UInt32} {calls calls' : List Call}
    (plain : ∀ call ∈ calls, call.Plain) (plain' : ∀ call ∈ calls', call.Plain)
    (same : Document.of calls = Document.of calls') :
    (Response.after errorCode calls).toString = (Response.after errorCode' calls').toString := by
  have counted : visible (Response.after errorCode calls).str =
      (Response.after errorCode calls).length := Response.after_counted errorCode plain
  have counted' : visible (Response.after errorCode' calls').str =
      (Response.after errorCode' calls').length := Response.after_counted errorCode' plain'
  have lines : (Response.after errorCode calls).str = (Response.after errorCode' calls').str := by
    rw [Response.str_after, Response.str_after, same]
  have first : (Response.after errorCode calls).firstLine.1 =
      (Response.after errorCode' calls').firstLine.1 := by
    rw [Response.firstLine_eq, Response.firstLine_eq, Response.error?_after, Response.error?_after,
      same]
  have firstCount := (Response.after errorCode calls).visible_firstLine
  have firstCount' := (Response.after errorCode' calls').visible_firstLine
  have number : 1 + (Response.after errorCode calls).length +
        (Response.after errorCode calls).firstLine.2 =
      1 + (Response.after errorCode' calls').length +
        (Response.after errorCode' calls').firstLine.2 := by
    rw [first] at firstCount
    rw [lines] at counted
    omega
  rw [Response.toString, Response.toString, first, lines, number]

/-- **A text says what its calls said.** Two sequences of calls give one text exactly when
they append the same lines and end with the same error, whatever `error_code` was before. -/
theorem text_eq_iff (errorCode errorCode' : UInt32) {calls calls' : List Call}
    (plain : ∀ call ∈ calls, call.Plain) (plain' : ∀ call ∈ calls', call.Plain) :
    (Response.after errorCode calls).toString = (Response.after errorCode' calls').toString ↔
      Document.of calls = Document.of calls' := by
  constructor
  · intro same
    have read := read_toString errorCode calls plain
    rw [same, read_toString errorCode' calls' plain'] at read
    exact (Option.some.inj read).symm
  · exact toString_congr plain plain'

/-- An error that is taken back, and the same line without it. -/
theorem text_eq_iff_retracted :
    (Response.after 7 [.setError true 107, .append .data [.integer (-7)], .setError false 5]).toString =
        (Response.after 0 [.append .data [.text (ascii "-7")]]).toString ↔
      Document.of [.setError true 107, .append .data [.integer (-7)], .setError false 5] =
        Document.of [.append .data [.text (ascii "-7")]] := by
  apply text_eq_iff
  · intro call mem
    fin_cases mem
    · trivial
    · intro arg inside
      rw [List.mem_singleton.mp inside]
      trivial
    · trivial
  · intro call mem
    rw [List.mem_singleton.mp mem]
    intro arg inside
    rw [List.mem_singleton.mp inside]
    exact ⟨by decide, by decide⟩

example : Document.read (ascii "E\t107\nH\tpid\tscore\t\nD\t43\t-7\t\n$\t18\t$") =
    some ⟨some 107, [⟨.header, [ascii "pid", ascii "score"]⟩,
      ⟨.data, [ascii "43", ascii "-7"]⟩]⟩ := by
  decide +kernel

end GamespyEmulator.BF2Web
