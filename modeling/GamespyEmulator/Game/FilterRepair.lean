import GamespyEmulator.Game.BF2

/-!
The two repairs of `BF2::GetServers`, which rewrite a filter as text. The first looks at
the first `gametype` and the character in front of it; the second doubles the quotes of a
hostname search up to the first `%'`.

`hostname_literal_iff` says which search texts are taken literally, `gametype_repair_iff`
which filters keep their meaning.
-/

namespace GamespyEmulator.BF2

open Wire

/-! ### Substrings -/

section Search

variable {needle front back text : Bytes}

theorem splitFirst_eq_none : splitFirst needle text = none ↔ ¬ needle <:+: text := by
  induction text with
  | nil => cases needle <;> simp [splitFirst]
  | cons c text ih =>
      rw [splitFirst, List.infix_cons_iff, not_or, ← ih, ← List.isPrefixOf_iff_prefix]
      split
      · simp [*]
      · simp [*]

/-- A found split, put together again. -/
theorem splitFirst_eq_some (found : splitFirst needle text = some (front, back)) :
    text = front ++ back ∧ needle <+: back := by
  induction text generalizing front with
  | nil =>
      rw [splitFirst] at found
      split at found
      · cases found
        simp_all
      · cases found
  | cons c text ih =>
      rw [splitFirst] at found
      split at found
      · rename_i here
        cases found
        exact ⟨rfl, List.isPrefixOf_iff_prefix.mp here⟩
      · obtain ⟨⟨front', back'⟩, later, eq⟩ := Option.map_eq_some_iff.mp found
        cases eq
        obtain ⟨split, begins⟩ := ih later
        exact ⟨by rw [split, List.cons_append], begins⟩

theorem splitFirst_prefix (begins : needle <+: text) : splitFirst needle text = some ([], text) := by
  cases text with
  | nil => simp [splitFirst, List.prefix_nil.mp begins]
  | cons c text => rw [splitFirst, if_pos (List.isPrefixOf_iff_prefix.mpr begins)]

/-- A word does not reach over a character that stands nowhere behind its own first one. -/
theorem prefix_append_cons {c : UInt8} (apart : c ∉ needle.tail) (some' : front ≠ []) :
    needle <+: front ++ c :: back ↔ needle <+: front := by
  constructor
  · intro begins
    by_contra beyond
    obtain ⟨rest, split⟩ := begins
    rcases List.append_eq_append_iff.mp split with ⟨more, eq, -⟩ | ⟨more, eq, tail⟩
    · exact beyond ⟨more, eq.symm⟩
    · cases more with
      | nil => exact beyond ⟨[], by simp [eq]⟩
      | cons d more =>
          have same : c = d := (List.cons.inj tail).1
          rw [eq, List.tail_append_of_ne_nil some'] at apart
          exact apart (List.mem_append_right _ (same ▸ List.mem_cons_self))
  · exact fun begins => begins.trans (List.prefix_append _ _)

theorem splitFirst_append_cons {c : UInt8} (apart : c ∉ needle.tail) (some' : needle ≠ []) :
    splitFirst needle (front ++ c :: back) =
      match splitFirst needle front with
      | some (before, after) => some (before, after ++ c :: back)
      | none => (splitFirst needle (c :: back)).map fun (before, after) => (front ++ before, after) := by
  induction front with
  | nil =>
      have nowhere : splitFirst needle [] = none := by simp [splitFirst, some']
      rw [nowhere]
      simp
  | cons d front ih =>
      have same : needle.isPrefixOf (d :: front ++ c :: back) = needle.isPrefixOf (d :: front) := by
        rw [Bool.eq_iff_iff, List.isPrefixOf_iff_prefix, List.isPrefixOf_iff_prefix]
        exact prefix_append_cons apart (by simp)
      rw [List.cons_append] at same ⊢
      rw [splitFirst, same, splitFirst]
      split
      · rfl
      · rw [ih]
        cases splitFirst needle front with
        | none => simp [Function.comp_def]
        | some out => rfl

theorem infix_append_cons {c : UInt8} (apart : c ∉ needle.tail) (some' : needle ≠ []) :
    needle <:+: front ++ c :: back ↔ needle <:+: front ∨ needle <:+: c :: back := by
  rw [← not_iff_not, not_or, ← splitFirst_eq_none, ← splitFirst_eq_none, ← splitFirst_eq_none,
    splitFirst_append_cons apart some']
  cases splitFirst needle front with
  | none => simp
  | some out => simp

end Search

/-! ### String literals -/

/-- Every quote twice. -/
def doubled (text : Bytes) : Bytes := text.flatMap fun c => if c = quote then [quote, quote] else [c]

@[simp] theorem doubled_nil : doubled [] = [] := rfl

@[simp] theorem doubled_append (front back : Bytes) :
    doubled (front ++ back) = doubled front ++ doubled back := List.flatMap_append

theorem doubled_quote (text : Bytes) : doubled (quote :: text) = quote :: quote :: doubled text := rfl

theorem doubled_other {c : UInt8} (other : c ≠ quote) (text : Bytes) :
    doubled (c :: text) = c :: doubled text := by
  simp [doubled, other]

/-- A literal behind its opening quote: the text it denotes, and what follows the closing
quote. A doubled quote stands for one. -/
def readLiteral : Bytes → Option (Bytes × Bytes)
  | [] => none
  | [c] => if c = quote then some ([], []) else none
  | c :: d :: rest =>
      if c ≠ quote then (readLiteral (d :: rest)).map fun (text, after) => (c :: text, after)
      else if d = quote then (readLiteral rest).map fun (text, after) => (quote :: text, after)
      else some ([], d :: rest)

theorem readLiteral_other {c : UInt8} (other : c ≠ quote) (rest : Bytes) :
    readLiteral (c :: rest) = (readLiteral rest).map fun (text, after) => (c :: text, after) := by
  cases rest with
  | nil => simp [readLiteral, other]
  | cons d rest => rw [readLiteral, if_pos other]

theorem readLiteral_doubled (text : Bytes) {after : Bytes} (apart : after.head? ≠ some quote) :
    readLiteral (doubled text ++ quote :: after) = some (text, after) := by
  induction text with
  | nil =>
      cases after with
      | nil => rfl
      | cons d after =>
          have other : d ≠ quote := by simpa using apart
          simp [readLiteral, other]
  | cons c text ih =>
      by_cases isQuote : c = quote
      · subst isQuote
        simp [doubled_quote, readLiteral, ih]
      · rw [doubled_other isQuote, List.cons_append, readLiteral_other isQuote, ih]
        rfl

/-- What was read, written again. -/
theorem eq_of_readLiteral {literal text after : Bytes}
    (read : readLiteral literal = some (text, after)) : literal = doubled text ++ quote :: after := by
  induction literal using readLiteral.induct generalizing text with
  | case1 => cases read
  | case2 =>
      cases read
      rfl
  | case3 c other =>
      rw [readLiteral, if_neg other] at read
      cases read
  | case4 c d rest other ih =>
      rw [readLiteral, if_pos other] at read
      obtain ⟨⟨text', after'⟩, later, eq⟩ := Option.map_eq_some_iff.mp read
      cases eq
      rw [doubled_other other, ih later, List.cons_append]
  | case5 c rest closes ih =>
      rw [readLiteral, if_neg closes, if_pos rfl] at read
      obtain ⟨⟨text', after'⟩, later, eq⟩ := Option.map_eq_some_iff.mp read
      cases eq
      rw [doubled_quote, not_not.mp closes, ih later]
      rfl
  | case6 c d rest closes other =>
      rw [readLiteral, if_neg closes, if_neg other] at read
      cases read
      rw [not_not.mp closes]
      rfl

/-- A text with more quotes behind its doubled form than in front cannot catch up. -/
theorem append_ne_quotes_doubled {text front back : Bytes} (apart : front.head? ≠ some quote)
    (n : Nat) : text ++ front ≠ List.replicate (n + 1) quote ++ (doubled text ++ back) := by
  induction text generalizing n with
  | nil =>
      intro same
      rw [List.nil_append] at same
      exact apart (by simp [same, List.replicate_succ])
  | cons c text ih =>
      intro same
      rw [List.replicate_succ, List.cons_append, List.cons_append] at same
      obtain ⟨rfl, later⟩ := List.cons.inj same
      refine ih (n + 1) ?_
      rw [later, doubled_quote, List.replicate_succ' (n := n + 1), List.replicate_succ' (n := n)]
      simp

/-- Only a text without quotes equals its doubled form, also with something behind. -/
theorem quoteFree_of_doubled {text front back : Bytes} (apart : front.head? ≠ some quote)
    (same : text ++ front = doubled text ++ back) : quote ∉ text ∧ front = back := by
  induction text with
  | nil => exact ⟨by simp, same⟩
  | cons c text ih =>
      by_cases isQuote : c = quote
      · subst isQuote
        rw [doubled_quote, List.cons_append, List.cons_append, List.cons_append] at same
        have later := (List.cons.inj same).2
        exact absurd later (append_ne_quotes_doubled apart 0)
      · rw [doubled_other isQuote, List.cons_append, List.cons_append] at same
        obtain ⟨free, eq⟩ := ih (List.cons.inj same).2
        exact ⟨by simpa using ⟨Ne.symm isQuote, free⟩, eq⟩

/-! ### The executed filter -/

/-- The filter that `GetServers` puts behind `WHERE`. -/
def executedFilter (query : Bytes) : Bytes := repairHostname (repairGametype query)

theorem getServers_executedFilter (sqlite : Sqlite) (game : Game) (query : Bytes)
    (fields : List Bytes) (limit skip : Nat) :
    getServers sqlite game none query fields limit skip =
      (sqlite.select game.table (Game.selectText (executedFilter query) fields limit skip)).map
        (Game.ResultRow.saved fields) := rfl

def gametypeWord : Bytes := ascii "gametype"

def hostnameSearch : Bytes := ascii "hostname like '%"

/-- Where the second repair takes the search text to end. -/
def searchEnd : Bytes := ascii "%'"

def conjunction : Bytes := ascii " and "

section Words

theorem cons_of_gametypeWord {text : Bytes} (word : gametypeWord <+: text) :
    ∃ more, text = 103 :: more := by
  obtain ⟨more, rfl⟩ := word
  exact ⟨ascii "ametype" ++ more, rfl⟩

theorem gametypeWord_once : (103 : UInt8) ∉ gametypeWord.tail := by decide

theorem gametypeWord_ne_nil : gametypeWord ≠ [] := by decide

theorem hostnameSearch_eq : hostnameSearch = ascii "hostname like '" ++ [37] := rfl

theorem hostnameSearch_ne_nil : hostnameSearch ≠ [] := by decide

theorem hostnameSearch_getLast? : hostnameSearch.getLast? = some 37 := rfl

theorem searchEnd_eq : searchEnd = [37, 39] := rfl

theorem conjunction_cons : conjunction = 32 :: ascii "and " := rfl

theorem conjunction_length : conjunction.length = 5 := rfl

end Words

theorem repairGametype_none {query : Bytes} (absent : splitFirst gametypeWord query = none) :
    repairGametype query = query := by
  unfold repairGametype
  rw [gametypeWord] at absent
  rw [absent]

theorem repairGametype_some {query front back : Bytes}
    (found : splitFirst gametypeWord query = some (front, back)) :
    repairGametype query =
      if front = [] ∨ front.getLast? = some blank then query else front ++ conjunction ++ back := by
  unfold repairGametype
  rw [gametypeWord] at found
  rw [found]
  simp only [List.isEmpty_iff, conjunction]

theorem repairHostname_none {query : Bytes} (absent : splitFirst hostnameSearch query = none) :
    repairHostname query = query := by
  unfold repairHostname
  rw [hostnameSearch] at absent
  dsimp only
  rw [absent]

theorem searchEnd_split (text rest : Bytes) :
    splitFirst searchEnd (text ++ (searchEnd ++ rest)) =
      match splitFirst searchEnd text with
      | some (before, after) => some (before, after ++ (searchEnd ++ rest))
      | none => some (text, searchEnd ++ rest) := by
  rw [searchEnd_eq]
  have apart : (37 : UInt8) ∉ ([37, 39] : Bytes).tail := by decide
  have split := @splitFirst_append_cons [37, 39] text (39 :: rest) 37 apart (by simp)
  have here : splitFirst [37, 39] (37 :: 39 :: rest) = some ([], 37 :: 39 :: rest) :=
    splitFirst_prefix ⟨rest, rfl⟩
  rw [here] at split
  simpa using split

/-- A hostname search whose text is closed by `%'`: the quotes are doubled up to the first
`%'`. -/
theorem repairHostname_search (text rest : Bytes) :
    repairHostname (hostnameSearch ++ (text ++ (searchEnd ++ rest))) =
      hostnameSearch ++ match splitFirst searchEnd text with
      | some (before, after) => doubled before ++ (after ++ (searchEnd ++ rest))
      | none => doubled text ++ (searchEnd ++ rest) := by
  have here : splitFirst hostnameSearch (hostnameSearch ++ (text ++ (searchEnd ++ rest))) =
      some ([], hostnameSearch ++ (text ++ (searchEnd ++ rest))) :=
    splitFirst_prefix (List.prefix_append _ _)
  have split := searchEnd_split text rest
  unfold repairHostname
  rw [← hostnameSearch, ← searchEnd]
  dsimp only
  rw [here]
  dsimp only
  rw [List.drop_left, split]
  cases splitFirst searchEnd text with
  | none => simp [doubled]
  | some out => simp [doubled]

/-! ### Hostname searches -/

/-- The filter is a search on the hostname whose literal denotes `%text%`, followed by
`rest`. -/
def SearchesFor (filter text rest : Bytes) : Prop :=
  ∃ literal, filter = ascii "hostname like '" ++ literal ∧
    readLiteral literal = some (37 :: (text ++ [37]), rest)

theorem searchesFor_iff {filter text rest : Bytes} (apart : rest.head? ≠ some quote) :
    SearchesFor filter text rest ↔
      filter = hostnameSearch ++ (doubled text ++ (searchEnd ++ rest)) := by
  have closing : searchEnd = [37, quote] := searchEnd_eq
  have literal : doubled (37 :: (text ++ [37])) ++ quote :: rest =
      [37] ++ (doubled text ++ (searchEnd ++ rest)) := by
    have other : (37 : UInt8) ≠ quote := by decide
    rw [doubled_other other, doubled_append, doubled_other other, closing]
    simp
  rw [hostnameSearch_eq, List.append_assoc, ← literal]
  constructor
  · rintro ⟨literal', rfl, read⟩
    rw [eq_of_readLiteral read]
  · rintro rfl
    exact ⟨_, rfl, readLiteral_doubled _ apart⟩

theorem splitFirst_cons_other {needle : Bytes} {c : UInt8} (other : needle.head? ≠ some c)
    (some' : needle ≠ []) (text : Bytes) :
    splitFirst needle (c :: text) =
      (splitFirst needle text).map fun (before, after) => (c :: before, after) := by
  rw [splitFirst, if_neg]
  cases needle with
  | nil => exact absurd rfl some'
  | cons d needle =>
      have different : d ≠ c := by simpa using other
      simp [List.isPrefixOf, different]

/-- In a hostname search, only the search text can hold the word. -/
theorem gametype_search {text rest : Bytes} (unnamed : ¬ gametypeWord <:+: rest) :
    splitFirst gametypeWord (hostnameSearch ++ (text ++ (searchEnd ++ rest))) =
      (splitFirst gametypeWord text).map fun (before, after) =>
        (hostnameSearch ++ before, after ++ (searchEnd ++ rest)) := by
  have outside : (37 : UInt8) ∉ gametypeWord.tail := by decide
  have first : ∀ c : UInt8, c ≠ 103 → gametypeWord.head? ≠ some c := by
    intro c other same
    exact other (Option.some.inj same).symm
  have other (c : UInt8) (apart : c ≠ 103) (text : Bytes) :=
    splitFirst_cons_other (first c apart) gametypeWord_ne_nil text
  have before : splitFirst gametypeWord (ascii "hostname like '") = none := rfl
  have behind : splitFirst gametypeWord (37 :: 39 :: rest) = none := by
    rw [other 37 (by decide), other 39 (by decide), splitFirst_eq_none.mpr unnamed]
    rfl
  have inside : splitFirst gametypeWord (text ++ (37 :: 39 :: rest)) =
      (splitFirst gametypeWord text).map fun (before, after) => (before, after ++ 37 :: 39 :: rest) := by
    rw [splitFirst_append_cons outside gametypeWord_ne_nil, behind]
    cases splitFirst gametypeWord text <;> rfl
  rw [hostnameSearch_eq, searchEnd_eq]
  simp only [List.append_assoc, List.cons_append, List.nil_append]
  rw [splitFirst_append_cons outside gametypeWord_ne_nil, before]
  dsimp only
  rw [other 37 (by decide), inside]
  cases splitFirst gametypeWord text with
  | none => rfl
  | some out => simp

/-- Doubling leaves the first character. -/
theorem doubled_head (front back : Bytes) :
    (doubled front ++ back).head? = (front ++ back).head? := by
  cases front with
  | nil => rfl
  | cons c front =>
      by_cases isQuote : c = quote
      · subst isQuote
        rfl
      · rw [doubled_other isQuote]
        rfl

/-- What the first repair inserts is not taken back by the second. -/
theorem inserted_differs {front back : Bytes} (word : gametypeWord <+: back) (rest : Bytes) :
    repairHostname (hostnameSearch ++ (front ++ conjunction ++ back ++ (searchEnd ++ rest))) ≠
      hostnameSearch ++ (doubled (front ++ back) ++ (searchEnd ++ rest)) := by
  have first : back.head? = some 103 := by
    obtain ⟨more, rfl⟩ := cons_of_gametypeWord word
    rfl
  have letter : (doubled back).head? = some 103 := by
    have same := doubled_head back []
    rw [List.append_nil, List.append_nil] at same
    rw [same, first]
  have spaced : (conjunction ++ back).head? = some blank := by
    rw [conjunction_cons]
    rfl
  intro same
  rw [repairHostname_search] at same
  have same := List.append_cancel_left same
  rw [doubled_append front back] at same
  cases found : splitFirst searchEnd (front ++ conjunction ++ back) with
  | none =>
      rw [found, doubled_append, doubled_append] at same
      have same := List.append_cancel_right same
      rw [List.append_assoc] at same
      have five : (doubled conjunction).length = 5 := rfl
      have lengths := congrArg List.length (List.append_cancel_left same)
      rw [List.length_append, five] at lengths
      omega
  | some out =>
      obtain ⟨before, after⟩ := out
      rw [found] at same
      dsimp only at same
      rw [← List.append_assoc] at same
      have same := List.append_cancel_right same
      obtain ⟨split, -⟩ := splitFirst_eq_some found
      rw [List.append_assoc] at split
      -- the first `%'` ends behind what was inserted, or in front of it
      rcases List.append_eq_append_iff.mp split.symm with ⟨more, rfl, tail⟩ | ⟨more, rfl, tail⟩
      · rw [tail, doubled_append before more, List.append_assoc] at same
        have same := List.append_cancel_left same
        have apart : (conjunction ++ back).head? ≠ some quote := by rw [spaced]; decide
        obtain ⟨-, eq⟩ := quoteFree_of_doubled apart same
        rw [eq, letter] at spaced
        cases spaced
      · rw [doubled_append front more, List.append_assoc] at same
        have same := List.append_cancel_left same
        have head := congrArg List.head? same
        rw [doubled_head, ← tail, spaced, letter] at head
        cases head

theorem infix_iff_found {needle text : Bytes} :
    needle <:+: text ↔ splitFirst needle text ≠ none := by
  rw [ne_eq, splitFirst_eq_none, not_not]

/-- Behind the first `%'` quotes stay single. -/
theorem repairHostname_doubles_iff {text rest : Bytes} :
    repairHostname (hostnameSearch ++ (text ++ (searchEnd ++ rest))) =
      hostnameSearch ++ (doubled text ++ (searchEnd ++ rest)) ↔ ¬ searchEnd <:+: text := by
  rw [repairHostname_search]
  cases found : splitFirst searchEnd text with
  | none => exact iff_of_true rfl (splitFirst_eq_none.mp found)
  | some out =>
      obtain ⟨before, after⟩ := out
      refine iff_of_false ?_ (not_not.mpr (infix_iff_found.mpr (by simp [found])))
      obtain ⟨rfl, begins⟩ := splitFirst_eq_some found
      intro same
      have same := List.append_cancel_left same
      rw [doubled_append, List.append_assoc] at same
      have same := List.append_cancel_left same
      rw [← List.append_assoc, ← List.append_assoc] at same
      have same := List.append_cancel_right (List.append_cancel_right same)
      have free := (@quoteFree_of_doubled after [] [] (by simp) (by simpa using same)).1
      have quoted : quote ∈ searchEnd := by decide
      exact free (begins.subset quoted)

/-- The search text has no `%'`, and its first `gametype` a blank in front. -/
structure Literal (text : Bytes) : Prop where
  unclosed : ¬ searchEnd <:+: text
  spaced : ∀ front back, splitFirst gametypeWord text = some (front, back) →
    front.getLast? = some blank

/-- **A search text is taken literally exactly when it has no `%'` and its first `gametype`,
if it has one, follows a blank.** -/
theorem hostname_literal_iff {text rest : Bytes} (tail : rest = [] ∨ ascii " and" <+: rest)
    (unnamed : ¬ gametypeWord <:+: rest) :
    SearchesFor (executedFilter (hostnameSearch ++ (text ++ (searchEnd ++ rest)))) text rest ↔
      Literal text := by
  have apart : rest.head? ≠ some quote := by
    rcases tail with rfl | ⟨more, rfl⟩
    · decide
    · have spelled : ascii " and" = 32 :: ascii "and" := rfl
      have first : (32 :: ascii "and" ++ more).head? = some 32 := rfl
      rw [spelled, first]
      decide
  have named := @gametype_search text rest unnamed
  rw [searchesFor_iff apart, executedFilter]
  cases found : splitFirst gametypeWord text with
  | none =>
      rw [found] at named
      rw [repairGametype_none named, repairHostname_doubles_iff]
      refine ⟨fun unclosed => ⟨unclosed, ?_⟩, Literal.unclosed⟩
      intro front back split
      rw [found] at split
      cases split
  | some out =>
      obtain ⟨front, back⟩ := out
      obtain ⟨rfl, word⟩ := splitFirst_eq_some found
      rw [found] at named
      rw [repairGametype_some named]
      have opened : hostnameSearch ++ front ≠ [] := by simp [hostnameSearch_ne_nil]
      have last : (hostnameSearch ++ front).getLast? = some blank ↔ front.getLast? = some blank := by
        rw [List.getLast?_append, hostnameSearch_getLast?]
        cases front.getLast? with
        | none => decide
        | some c => simp
      by_cases space : front.getLast? = some blank
      · rw [if_pos (.inr (last.mpr space)), repairHostname_doubles_iff]
        refine ⟨fun unclosed => ⟨unclosed, ?_⟩, Literal.unclosed⟩
        intro front' back' split
        rw [found] at split
        cases split
        exact space
      · rw [if_neg (not_or.mpr ⟨opened, mt last.mp space⟩)]
        refine iff_of_false ?_ fun literal => space (literal.spaced front back found)
        have differs := @inserted_differs front back word rest
        simpa only [List.append_assoc] using differs

/-- A search for `o'neil`, with a condition behind it. -/
theorem hostname_literal_oneil :
    SearchesFor (executedFilter (ascii "hostname like '%o'neil%' and numplayers > 0"))
      (ascii "o'neil") (ascii " and numplayers > 0") := by
  have literal : Literal (ascii "o'neil") := by
    refine ⟨?_, ?_⟩
    · rw [← splitFirst_eq_none]
      rfl
    · intro front back found
      have absent : splitFirst gametypeWord (ascii "o'neil") = none := rfl
      rw [absent] at found
      cases found
  have unnamed : ¬ gametypeWord <:+: ascii " and numplayers > 0" := by
    rw [← splitFirst_eq_none]
    rfl
  have split : ascii "hostname like '%o'neil%' and numplayers > 0" =
      hostnameSearch ++ (ascii "o'neil" ++ (searchEnd ++ ascii " and numplayers > 0")) := by
    rfl
  rw [split]
  refine (hostname_literal_iff (.inr ?_) unnamed).mpr literal
  decide

/-- The search text `100%'s`: the quote behind the percent sign stays single. -/
theorem hostname_literal_fails_percent :
    ¬ ∀ text rest : Bytes, NulFree text → (rest = [] ∨ ascii " and" <+: rest) →
      ¬ gametypeWord <:+: rest → ¬ ascii "hostname" <:+: rest →
      SearchesFor (executedFilter (hostnameSearch ++ (text ++ (searchEnd ++ rest)))) text rest := by
  intro claimed
  have empty : ∀ {word : Bytes}, word ≠ [] → ¬ word <:+: [] := fun some' inside =>
    some' (List.eq_nil_of_infix_nil inside)
  have search := claimed (ascii "100%'s") [] (by decide) (.inl rfl)
    (empty (by decide)) (empty (by decide))
  rw [searchesFor_iff (by decide)] at search
  revert search
  decide

/-! ### Game types -/

theorem repairHostname_length (query : Bytes) : query.length ≤ (repairHostname query).length := by
  have grows : ∀ text : Bytes, text.length ≤ (doubled text).length := by
    intro text
    induction text with
    | nil => simp
    | cons c text ih =>
        by_cases isQuote : c = quote
        · subst isQuote
          simp [doubled_quote]
          omega
        · simp [doubled_other isQuote, ih]
  unfold repairHostname
  dsimp only
  split
  · exact Nat.le_refl _
  · rename_i front back found
    obtain ⟨rfl, begins⟩ := splitFirst_eq_some found
    split
    · simp
    · rename_i hostname rest found'
      obtain ⟨more, rfl⟩ := begins
      rw [List.drop_left] at found'
      obtain ⟨rfl, -⟩ := splitFirst_eq_some found'
      have := grows hostname
      rw [← doubled]
      simp only [List.length_append]
      omega

/-- A first `gametype` stands at the start or behind a blank. -/
def Spaced (filter : Bytes) : Prop :=
  ∀ front back, splitFirst gametypeWord filter = some (front, back) →
    front = [] ∨ front.getLast? = some blank

/-- A filter without a hostname search is executed as it is exactly when its first
`gametype` stands at the start or behind a blank. -/
theorem executedFilter_self_iff {filter : Bytes} (searchless : ¬ hostnameSearch <:+: filter) :
    executedFilter filter = filter ↔ Spaced filter := by
  have kept := repairHostname_none (splitFirst_eq_none.mpr searchless)
  rw [executedFilter]
  cases found : splitFirst gametypeWord filter with
  | none =>
      rw [repairGametype_none found]
      refine iff_of_true kept ?_
      intro front back split
      rw [found] at split
      cases split
  | some out =>
      obtain ⟨front, back⟩ := out
      rw [repairGametype_some found]
      by_cases spaced : front = [] ∨ front.getLast? = some blank
      · rw [if_pos spaced]
        refine iff_of_true kept ?_
        intro front' back' split
        rw [found] at split
        cases split
        exact spaced
      · rw [if_neg spaced]
        refine iff_of_false ?_ fun all => spaced (all front back found)
        obtain ⟨split, -⟩ := splitFirst_eq_some found
        intro same
        have longer := repairHostname_length (front ++ conjunction ++ back)
        rw [same, split] at longer
        simp only [List.length_append, conjunction_length] at longer
        omega

/-! ### Joined filters -/

theorem infix_of_append {needle front back : Bytes} {c : UInt8} (last : needle.getLast? = some c)
    (outside : c ∉ back) (inside : needle <:+: front ++ back) : needle <:+: front := by
  obtain ⟨before, after, split⟩ := inside
  rcases List.append_eq_append_iff.mp split with ⟨more, eq, -⟩ | ⟨more, eq, tail⟩
  · exact ⟨before, more, eq.symm⟩
  · rcases List.eq_nil_or_concat more with rfl | ⟨more, d, rfl⟩
    · exact ⟨before, [], by simpa using eq⟩
    · have same := congrArg List.getLast? eq
      rw [List.getLast?_append, last, List.concat_eq_append, ← List.append_assoc,
        List.getLast?_concat] at same
      have same : c = d := Option.some.inj (by simpa using same)
      exact absurd (by rw [tail, same]; simp) outside

/-- No hostname search comes about where two texts without one are joined. -/
theorem searchless_joined {front back : Bytes} (left : ¬ hostnameSearch <:+: front)
    (right : ¬ hostnameSearch <:+: back) :
    ¬ hostnameSearch <:+: front ++ conjunction ++ back := by
  have spelled : conjunction = [32, 97, 110] ++ 100 :: [32] := rfl
  have outside : (100 : UInt8) ∉ hostnameSearch.tail := by decide
  have elsewhere {c : UInt8} (other : hostnameSearch.head? ≠ some c) (text : Bytes) :
      hostnameSearch <:+: c :: text → hostnameSearch <:+: text := by
    intro inside
    by_contra absent
    have found := infix_iff_found.mp inside
    rw [splitFirst_cons_other other hostnameSearch_ne_nil, splitFirst_eq_none.mpr absent] at found
    exact found rfl
  have joined : front ++ conjunction ++ back = (front ++ [32, 97, 110]) ++ 100 :: 32 :: back := by
    rw [spelled]
    simp
  rw [joined, infix_append_cons outside hostnameSearch_ne_nil, not_or]
  constructor
  · exact fun inside => left (infix_of_append hostnameSearch_getLast? (by decide) inside)
  · intro inside
    exact right (elsewhere (by decide) _ (elsewhere (by decide) _ inside))

section Joined

variable {front back : Bytes}

theorem gametype_joined (word : gametypeWord <+: back) :
    splitFirst gametypeWord (front ++ back) =
      match splitFirst gametypeWord front with
      | some (before, after) => some (before, after ++ back)
      | none => some (front, back) := by
  have here := splitFirst_prefix word
  obtain ⟨more, rfl⟩ := cons_of_gametypeWord word
  rw [splitFirst_append_cons gametypeWord_once gametypeWord_ne_nil, here]
  cases splitFirst gametypeWord front <;> simp

theorem searchless_append (left : ¬ hostnameSearch <:+: front)
    (right : ¬ hostnameSearch <:+: back) (word : gametypeWord <+: back) :
    ¬ hostnameSearch <:+: front ++ back := by
  have outside : (103 : UInt8) ∉ hostnameSearch.tail := by decide
  obtain ⟨more, rfl⟩ := cons_of_gametypeWord word
  rw [infix_append_cons outside hostnameSearch_ne_nil, not_or]
  exact ⟨left, right⟩

/-- A filter that follows another one without a blank is joined to it exactly when the other
one has no `gametype`. -/
theorem executedFilter_joined_iff (left : ¬ hostnameSearch <:+: front)
    (right : ¬ hostnameSearch <:+: back) (some' : front ≠ [])
    (unspaced : front.getLast? ≠ some blank) (word : gametypeWord <+: back) :
    executedFilter (front ++ back) = front ++ conjunction ++ back ↔
      ¬ gametypeWord <:+: front := by
  have named := @gametype_joined front back word
  rw [executedFilter]
  cases found : splitFirst gametypeWord front with
  | none =>
      rw [found] at named
      rw [repairGametype_some named, if_neg (not_or.mpr ⟨some', unspaced⟩)]
      refine iff_of_true ?_ (splitFirst_eq_none.mp found)
      exact repairHostname_none (splitFirst_eq_none.mpr (searchless_joined left right))
  | some out =>
      obtain ⟨before, after⟩ := out
      obtain ⟨rfl, word'⟩ := splitFirst_eq_some found
      rw [found] at named
      rw [repairGametype_some named]
      refine iff_of_false ?_ (not_not.mpr (infix_iff_found.mpr (by simp [found])))
      split
      · rw [repairHostname_none (splitFirst_eq_none.mpr (searchless_append left right word))]
        intro same
        have lengths := congrArg List.length same
        simp only [List.length_append, conjunction_length] at lengths
        omega
      · have before' : ¬ hostnameSearch <:+: before := fun inside =>
          left (inside.trans (List.prefix_append _ _).isInfix)
        have after' : ¬ hostnameSearch <:+: after := fun inside =>
          left (inside.trans (List.suffix_append _ _).isInfix)
        have clear := searchless_joined before' (searchless_append after' right word)
        rw [repairHostname_none (splitFirst_eq_none.mpr clear)]
        intro same
        rw [List.append_assoc, List.append_assoc, List.append_assoc] at same
        have same := congrArg List.head? (List.append_cancel_left same)
        obtain ⟨more, rfl⟩ := cons_of_gametypeWord word'
        rw [conjunction_cons] at same
        cases same

end Joined

/-- Some well-formed filters: comparisons of registered keys with string literals, joined by
`and` and `or`, or in parentheses. -/
inductive WellFormed : Bytes → Prop where
  | compare {key value : Bytes} (registered : key ∈ bf2Data.keys.map (·.name)) :
      WellFormed (key ++ ascii " = '" ++ doubled value ++ [quote])
  | and {left right : Bytes} : WellFormed left → WellFormed right →
      WellFormed (left ++ conjunction ++ right)
  | or {left right : Bytes} : WellFormed left → WellFormed right →
      WellFormed (left ++ ascii " or " ++ right)
  | parenthesised {inner : Bytes} : WellFormed inner → WellFormed (ascii "(" ++ inner ++ ascii ")")

/-- **When the first repair keeps the meaning of a filter without a hostname search.** The
filter is executed as it is exactly when its first `gametype` stands at the start or behind a
blank; a selection that begins with the word, and follows the rest of the filter without a
blank, is joined to it by `and` exactly when the rest has no `gametype`. -/
theorem gametype_repair_iff {filter : Bytes} (searchless : ¬ hostnameSearch <:+: filter) :
    (executedFilter filter = filter ↔ Spaced filter) ∧
    ∀ front back : Bytes, filter = front ++ back → front ≠ [] →
      front.getLast? ≠ some blank → gametypeWord <+: back →
      (executedFilter filter = front ++ conjunction ++ back ↔ ¬ gametypeWord <:+: front) := by
  refine ⟨executedFilter_self_iff searchless, ?_⟩
  rintro front back rfl some' unspaced word
  have left : ¬ hostnameSearch <:+: front := fun inside =>
    searchless (inside.trans (List.prefix_append _ _).isInfix)
  have right : ¬ hostnameSearch <:+: back := fun inside =>
    searchless (inside.trans (List.suffix_append _ _).isInfix)
  exact executedFilter_joined_iff left right some' unspaced word

/-- The selection of a game type, as the source quotes it. -/
theorem gametype_repair_ranked :
    executedFilter (ascii "bf2_ranked = 1gametype like '%gpcm_cq%'") =
      ascii "bf2_ranked = 1 and gametype like '%gpcm_cq%'" := by
  have searchless : ¬ hostnameSearch <:+: ascii "bf2_ranked = 1gametype like '%gpcm_cq%'" :=
    splitFirst_eq_none.mp rfl
  have joined : ascii "bf2_ranked = 1 and gametype like '%gpcm_cq%'" =
      ascii "bf2_ranked = 1" ++ conjunction ++ ascii "gametype like '%gpcm_cq%'" := rfl
  rw [joined]
  refine ((gametype_repair_iff searchless).2 _ _ rfl ?_ ?_ ?_).mpr ?_
  · decide
  · decide
  · exact List.isPrefixOf_iff_prefix.mp rfl
  · exact splitFirst_eq_none.mp rfl

/-- A game type in parentheses. -/
theorem gametype_repair_fails_parenthesis :
    ¬ ((∀ filter : Bytes, WellFormed filter → ¬ hostnameSearch <:+: filter →
        executedFilter filter = filter) ∧
      (∀ front back : Bytes, WellFormed front → WellFormed back →
        ¬ hostnameSearch <:+: front → ¬ hostnameSearch <:+: back →
        front.getLast? ≠ some blank → gametypeWord <+: back →
        executedFilter (front ++ back) = front ++ conjunction ++ back)) := by
  rintro ⟨kept, -⟩
  have filter : WellFormed (ascii "(gametype = 'gpm_cq')") := by
    have registered : gametypeWord ∈ bf2Data.keys.map (·.name) := by decide
    have spelled : ascii "(gametype = 'gpm_cq')" = ascii "(" ++ (gametypeWord ++ ascii " = '" ++
        doubled (ascii "gpm_cq") ++ [quote]) ++ ascii ")" := rfl
    rw [spelled]
    exact .parenthesised (.compare registered)
  have same := kept _ filter (splitFirst_eq_none.mp rfl)
  revert same
  decide

end GamespyEmulator.BF2
