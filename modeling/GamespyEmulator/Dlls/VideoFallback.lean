import GamespyEmulator.Lib.Checked
import GamespyEmulator.Lib.FirstLeast
import GamespyEmulator.Lib.Numeral

/-!
`client-video-fallback.cpp`: the mode that replaces a resolution the display does not
have. The source asks for the closest size first, then for the closest refresh rate, and
on equal distance for the lower one; it folds the three into one score.

`closest_resolution_iff` says when the score picks the mode that was asked for, and when
its arithmetic does not overflow.
-/

namespace GamespyEmulator.VideoFallback

open Wire

/-! ### Resolutions -/

structure Resolution where
  width : Int32 := 0
  height : Int32 := 0
  refresh : Int32 := 0
deriving DecidableEq, Repr

/-- `isspace`. -/
def isSpace (c : UInt8) : Bool := c == 32 || (9 ≤ c && c ≤ 13)

/-- A sign, and what follows it. -/
def splitSign : Bytes → Bool × Bytes
  | 45 :: rest => (true, rest)
  | 43 :: rest => (false, rest)
  | text => (false, text)

section Scan

-- `wide` is what `%d` stores for a number that is out of range, which C leaves open.
variable (wide : Int → Int32)

/-- `%d`: the number, and the text behind it. -/
def scanInt (text : Bytes) : Option (Int32 × Bytes) :=
  let (negative, text) := splitSign (text.dropWhile isSpace)
  let digits := text.takeWhile Numeral.isDigit
  if digits.isEmpty then none
  else
    let number : Int := if negative then -(Numeral.value digits) else Numeral.value digits
    some ((Checked.int32 number).getD (wide number), text.dropWhile Numeral.isDigit)

/-- A character of the format. -/
def scanChar (c : UInt8) : Bytes → Option Bytes
  | [] => none
  | d :: rest => if d = c then some rest else none

/-- `parse_resolution`: `sscanf` with `%dx%d@%dHz` sets what it reads, and the result says
whether that is all three numbers. -/
def parseResolution (value : Bytes) (res : Resolution) : Resolution × Bool :=
  match scanInt wide (cstr value) with
  | none => (res, false)
  | some (width, text) =>
      let res := { res with width := width }
      match (scanChar 120 text).bind (scanInt wide) with
      | none => (res, false)
      | some (height, text) =>
          let res := { res with height := height }
          match (scanChar 64 text).bind (scanInt wide) with
          | none => (res, false)
          | some (refresh, _) => ({ res with refresh := refresh }, true)

/-- A mode of the list, if it parses. -/
def mode? (value : Bytes) : Option Resolution :=
  let (candidate, parsed) := parseResolution wide value {}
  if parsed then some candidate else none

end Scan

/-! ### The closest resolution -/

/-- `std::abs(a - b)`. -/
def distance (a b : Int32) : Option Int32 := (Checked.sub a b).bind Checked.abs

/-- The score of a candidate, a `long long`, unless an `int` overflows on the way. -/
def score (wanted candidate : Resolution) : Option Int := do
  let width ← distance candidate.width wanted.width
  let height ← distance candidate.height wanted.height
  let sizeDistance ← Checked.add width height
  let refreshDistance ← distance candidate.refresh wanted.refresh
  return sizeDistance.toInt * 100000 + refreshDistance.toInt * 2 +
    if candidate.refresh > wanted.refresh then 1 else 0

/-- `std::numeric_limits<long long>::max()`. -/
def maxScore : Int := 2 ^ 63 - 1

/-- The loop of `closest_resolution` from place `i` on. -/
def closestFrom (wide : Int → Int32) (wanted : Resolution) (i : Nat) (best : Option Nat)
    (bestScore : Int) : List Bytes → Option (Option Nat)
  | [] => some best
  | value :: rest =>
      match mode? wide value with
      | none => closestFrom wide wanted (i + 1) best bestScore rest
      | some candidate =>
          match score wanted candidate with
          | none => none
          | some score =>
              if score < bestScore then closestFrom wide wanted (i + 1) (some i) score rest
              else closestFrom wide wanted (i + 1) best bestScore rest

/-- `closest_resolution`: the place of the replacement, if there is one. There is no result
at all when an `int` overflows. `desktop` is what `EnumDisplaySettingsA` reports. -/
def closestResolution (wide : Int → Int32) (desktop : Option Resolution) (values : List Bytes)
    (requested : Bytes) : Option (Option Nat) :=
  let (wanted, parsed) := parseResolution wide requested {}
  let wanted := if parsed then wanted else desktop.getD wanted
  closestFrom wide wanted 0 none maxScore values

example : closestResolution (fun _ => 0) none
    [ascii "800x600@60Hz", ascii "1920x1080@60Hz", ascii "1920x1080@75Hz"]
    (ascii "1920x1080@100Hz") = some (some 2) := by decide

/-! ### What was asked for -/

section Preference

variable (wanted candidate : Resolution)

def sizeDistance : Nat :=
  (candidate.width.toInt - wanted.width.toInt).natAbs +
    (candidate.height.toInt - wanted.height.toInt).natAbs

def refreshDistance : Nat := (candidate.refresh.toInt - wanted.refresh.toInt).natAbs

/-- A refresh rate above the wanted one loses a tie. -/
def exceeds : Nat := if candidate.refresh > wanted.refresh then 1 else 0

/-- The order of the modes: by size, then by refresh rate, then the lower refresh rate. -/
def preference : ℕ ×ₗ ℕ ×ₗ ℕ :=
  toLex (sizeDistance wanted candidate,
    toLex (refreshDistance wanted candidate, exceeds wanted candidate))

/-- The part of the score that is about the refresh rate. -/
def refreshCost : Nat := refreshDistance wanted candidate * 2 + exceeds wanted candidate

/-- The score, without overflow. -/
def exactScore : Nat := sizeDistance wanted candidate * 100000 + refreshCost wanted candidate

/-- The differences fit into an `int`. -/
def FitsInt : Prop :=
  sizeDistance wanted candidate < 2 ^ 31 ∧ refreshDistance wanted candidate < 2 ^ 31

instance : Decidable (FitsInt wanted candidate) := inferInstanceAs (Decidable (_ ∧ _))

end Preference

variable {wanted b c : Resolution}

theorem exceeds_le (wanted candidate : Resolution) : exceeds wanted candidate ≤ 1 := by
  unfold exceeds
  split <;> omega

/-- The tie bit counts less than one step of the refresh rate. -/
theorem refresh_le_iff :
    toLex (refreshDistance wanted b, exceeds wanted b) ≤
        toLex (refreshDistance wanted c, exceeds wanted c) ↔
      refreshCost wanted b ≤ refreshCost wanted c := by
  have bitB := exceeds_le wanted b
  have bitC := exceeds_le wanted c
  rw [Prod.Lex.toLex_le_toLex, refreshCost, refreshCost]
  dsimp only
  omega

theorem preference_le_iff : preference wanted b ≤ preference wanted c ↔
    sizeDistance wanted b < sizeDistance wanted c ∨
      (sizeDistance wanted b = sizeDistance wanted c ∧
        refreshCost wanted b ≤ refreshCost wanted c) := by
  rw [preference, preference, Prod.Lex.toLex_le_toLex, ← refresh_le_iff]

theorem preference_lt_iff : preference wanted b < preference wanted c ↔
    sizeDistance wanted b < sizeDistance wanted c ∨
      (sizeDistance wanted b = sizeDistance wanted c ∧
        refreshCost wanted b < refreshCost wanted c) := by
  rw [← not_le, preference_le_iff]
  omega

/-! ### The score -/

theorem distance_eq_some {a b d : Int32} :
    distance a b = some d ↔ d.toInt = (a.toInt - b.toInt).natAbs := by
  rw [distance, Option.bind_eq_some_iff, Int.natCast_natAbs]
  constructor
  · rintro ⟨difference, sub, abs⟩
    rw [Checked.abs_eq_some.mp abs, Checked.sub_eq_some.mp sub]
  · intro value
    have range := Checked.fits_toInt d
    have fits : Checked.FitsInt32 (a.toInt - b.toInt) := by
      unfold Checked.FitsInt32 at range ⊢
      rw [value] at range
      have bound := abs_lt.mp range.2
      omega
    obtain ⟨difference, sub⟩ : ∃ difference, Checked.sub a b = some difference :=
      ⟨_, Checked.int32_fits fits⟩
    refine ⟨difference, sub, ?_⟩
    rw [Checked.abs_eq_some, Checked.sub_eq_some.mp sub, value]

theorem distance_returns {a b : Int32} (fits : (a.toInt - b.toInt).natAbs < 2 ^ 31) :
    ∃ d, distance a b = some d := by
  have range : Checked.FitsInt32 (a.toInt - b.toInt).natAbs := by
    unfold Checked.FitsInt32
    omega
  refine ⟨.ofInt (a.toInt - b.toInt).natAbs, distance_eq_some.mpr ?_⟩
  exact Int32.toInt_ofInt_of_le range.1 range.2

/-- The two distances, where nothing overflows. -/
theorem distances_exact {width height size refresh : Int32}
    (dw : distance c.width wanted.width = some width)
    (dh : distance c.height wanted.height = some height)
    (ds : Checked.add width height = some size)
    (dr : distance c.refresh wanted.refresh = some refresh) :
    size.toInt = sizeDistance wanted c ∧ refresh.toInt = refreshDistance wanted c := by
  rw [Checked.add_eq_some.mp ds, distance_eq_some.mp dw, distance_eq_some.mp dh,
    distance_eq_some.mp dr]
  exact ⟨rfl, rfl⟩

theorem exactScore_of_distances {size refresh : Int32}
    (hs : size.toInt = sizeDistance wanted c) (hr : refresh.toInt = refreshDistance wanted c) :
    size.toInt * 100000 + refresh.toInt * 2 +
      (if c.refresh > wanted.refresh then 1 else 0) = (exactScore wanted c : Int) := by
  rw [hs, hr, exactScore, refreshCost, exceeds]
  push_cast
  ring

theorem score_eq_some {value : Int} :
    score wanted c = some value ↔ FitsInt wanted c ∧ value = exactScore wanted c := by
  constructor
  · intro scored
    simp only [score, Option.bind_eq_bind, Option.bind_eq_some_iff, Option.pure_def,
      Option.some.injEq] at scored
    obtain ⟨width, dw, height, dh, size, ds, refresh, dr, eq⟩ := scored
    obtain ⟨hs, hr⟩ := distances_exact dw dh ds dr
    have sizeRange := (Checked.fits_toInt size).2
    have refreshRange := (Checked.fits_toInt refresh).2
    refine ⟨⟨?_, ?_⟩, eq ▸ exactScore_of_distances hs hr⟩
    · omega
    · omega
  · rintro ⟨⟨sizeFits, refreshFits⟩, rfl⟩
    have parts : sizeDistance wanted c = (c.width.toInt - wanted.width.toInt).natAbs +
        (c.height.toInt - wanted.height.toInt).natAbs := rfl
    obtain ⟨width, dw⟩ : ∃ d, distance c.width wanted.width = some d :=
      distance_returns (by omega)
    obtain ⟨height, dh⟩ : ∃ d, distance c.height wanted.height = some d :=
      distance_returns (by omega)
    obtain ⟨refresh, dr⟩ : ∃ d, distance c.refresh wanted.refresh = some d :=
      distance_returns refreshFits
    have sum : Checked.FitsInt32 (width.toInt + height.toInt) := by
      unfold Checked.FitsInt32
      rw [distance_eq_some.mp dw, distance_eq_some.mp dh]
      omega
    have ds : Checked.add width height = some (.ofInt (width.toInt + height.toInt)) :=
      Checked.int32_fits sum
    obtain ⟨hs, hr⟩ := distances_exact dw dh ds dr
    rw [← exactScore_of_distances hs hr]
    simp only [score, dw, dh, ds, dr, Option.bind_eq_bind, Option.bind_some, Option.pure_def]

/-- A `long long` holds every score, with room for a larger one. -/
theorem exactScore_lt (fits : FitsInt wanted c) : (exactScore wanted c : Int) < maxScore := by
  have bit := exceeds_le wanted c
  obtain ⟨size, refresh⟩ := fits
  rw [exactScore, refreshCost, maxScore]
  omega

/-! ### The loop -/

section Loop

variable {wide : Int → Int32}

/-- The scores of the modes in a list. -/
def scores (wide : Int → Int32) (wanted : Resolution) (values : List Bytes) : List (Option Nat) :=
  values.map fun value => (mode? wide value).map (exactScore wanted)

/-- Behind some modes, the loop keeps the first one with the least score. -/
def Keeps (wide : Int → Int32) (wanted : Resolution) (seen : List Bytes) (best : Option Nat)
    (bestScore : Int) : Prop :=
  (best = none ∧ bestScore = maxScore ∧ ∀ value ∈ seen, mode? wide value = none) ∨
    ∃ (i : Nat) (k : Nat), best = some i ∧ bestScore = k ∧
      (scores wide wanted seen)[i]? = some (some k) ∧ FirstLeast.IsFirst (scores wide wanted seen) i

/-- No `int` overflows on any mode of the list. -/
def AllFit (wide : Int → Int32) (wanted : Resolution) (values : List Bytes) : Prop :=
  ∀ value ∈ values, ∀ c ∈ mode? wide value, FitsInt wanted c

variable {seen rest values : List Bytes} {value : Bytes} {best : Option Nat} {bestScore : Int}

theorem allFit_cons : AllFit wide wanted (value :: rest) ↔
    (∀ c, mode? wide value = some c → FitsInt wanted c) ∧ AllFit wide wanted rest :=
  List.forall_mem_cons

theorem scores_snoc : scores wide wanted (seen ++ [value]) =
    scores wide wanted seen ++ [(mode? wide value).map (exactScore wanted)] := by
  simp [scores]

theorem scores_length : (scores wide wanted seen).length = seen.length := by simp [scores]

/-- Without a mode there is no score. -/
theorem scores_none (none : ∀ value ∈ seen, mode? wide value = none) (j l : Nat) :
    (scores wide wanted seen)[j]? ≠ some (some l) := by
  intro atJ
  rw [scores, List.getElem?_map, Option.map_eq_some_iff] at atJ
  obtain ⟨value, held, scored⟩ := atJ
  rw [none value (List.mem_of_getElem? held)] at scored
  cases scored

theorem Keeps.skip (keeps : Keeps wide wanted seen best bestScore)
    (absent : mode? wide value = none) :
    Keeps wide wanted (seen ++ [value]) best bestScore := by
  rcases keeps with ⟨noBest, top, none⟩ | ⟨i, k, isBest, low, atI, first⟩
  · refine .inl ⟨noBest, top, fun other mem => ?_⟩
    rcases List.mem_append.mp mem with old | new
    · exact none other old
    · rw [List.mem_singleton.mp new, absent]
  · refine .inr ⟨i, k, isBest, low, ?_⟩
    rw [scores_snoc, absent]
    exact ⟨FirstLeast.snoc_eq_some.mpr (.inl atI), first.snoc_none⟩

theorem Keeps.better (keeps : Keeps wide wanted seen best bestScore)
    (parsed : mode? wide value = some c) (less : (exactScore wanted c : Int) < bestScore) :
    Keeps wide wanted (seen ++ [value]) (some seen.length) (exactScore wanted c) := by
  have lower : ∀ j l : Nat, (scores wide wanted seen)[j]? = some (some l) →
      exactScore wanted c < l := by
    intro j l atJ
    rcases keeps with ⟨-, -, none⟩ | ⟨i, k, -, low, atI, k', atI', least⟩
    · exact absurd atJ (scores_none none j l)
    · have same : k' = k := by simpa [atI] using atI'.symm
      have le := (least j l atJ).1
      omega
  refine .inr ⟨seen.length, exactScore wanted c, rfl, rfl, ?_⟩
  rw [scores_snoc, parsed, Option.map_some, ← @scores_length wanted wide seen]
  exact ⟨FirstLeast.snoc_eq_some.mpr (.inr ⟨rfl, rfl⟩), FirstLeast.snoc_lt lower⟩

theorem Keeps.worse (keeps : Keeps wide wanted seen best bestScore)
    (parsed : mode? wide value = some c) (fits : FitsInt wanted c)
    (notLess : ¬ (exactScore wanted c : Int) < bestScore) :
    Keeps wide wanted (seen ++ [value]) best bestScore := by
  rcases keeps with ⟨-, top, -⟩ | ⟨i, k, isBest, low, atI, first⟩
  · exact absurd (top ▸ exactScore_lt fits) notLess
  · refine .inr ⟨i, k, isBest, low, ?_⟩
    have ge : k ≤ exactScore wanted c := by omega
    rw [scores_snoc, parsed, Option.map_some]
    exact ⟨FirstLeast.snoc_eq_some.mpr (.inl atI), first.snoc_ge atI ge⟩

theorem closestFrom_keeps (keeps : Keeps wide wanted seen best bestScore)
    (fit : AllFit wide wanted rest) :
    ∃ result score, closestFrom wide wanted seen.length best bestScore rest = some result ∧
      Keeps wide wanted (seen ++ rest) result score := by
  induction rest generalizing seen best bestScore with
  | nil => exact ⟨best, bestScore, rfl, by rwa [List.append_nil]⟩
  | cons value rest ih =>
      obtain ⟨fits, fit⟩ := allFit_cons.mp fit
      have next : (seen ++ [value]).length = seen.length + 1 := List.length_append
      rw [closestFrom, List.append_cons, ← next]
      cases parsed : mode? wide value with
      | none => exact ih (keeps.skip parsed) fit
      | some candidate =>
          have scored : score wanted candidate = some (exactScore wanted candidate : Int) :=
            score_eq_some.mpr ⟨fits candidate parsed, rfl⟩
          dsimp only
          rw [scored]
          dsimp only
          split
          · rename_i less
            exact ih (keeps.better parsed less) fit
          · rename_i notLess
            exact ih (keeps.worse parsed (fits candidate parsed) notLess) fit

theorem closestFrom_overflows (i : Nat) (far : ¬ AllFit wide wanted rest) :
    closestFrom wide wanted i best bestScore rest = none := by
  induction rest generalizing i best bestScore with
  | nil => exact absurd (fun value mem => absurd mem List.not_mem_nil) far
  | cons value rest ih =>
      rw [closestFrom]
      cases parsed : mode? wide value with
      | none =>
          refine ih (i + 1) fun fit => far (allFit_cons.mpr ⟨fun c eq => ?_, fit⟩)
          rw [parsed] at eq
          cases eq
      | some candidate =>
          dsimp only
          cases scored : score wanted candidate with
          | none => rfl
          | some value' =>
              have fits := (score_eq_some.mp scored).1
              have later : ¬ AllFit wide wanted rest := by
                refine fun fit => far (allFit_cons.mpr ⟨fun c eq => ?_, fit⟩)
                rw [parsed] at eq
                cases eq
                exact fits
              dsimp only
              split
              · exact ih _ later
              · exact ih _ later

end Loop

/-! ### The best mode -/

section Best

variable {wide : Int → Int32} {values : List Bytes}

/-- The modes of a list as they were asked for. -/
def preferences (wide : Int → Int32) (wanted : Resolution) (values : List Bytes) :
    List (Option (ℕ ×ₗ ℕ ×ₗ ℕ)) :=
  values.map fun value => (mode? wide value).map (preference wanted)

/-- The mode at a place. -/
def modeAt (wide : Int → Int32) (values : List Bytes) (i : Nat) : Option Resolution :=
  values[i]?.bind (mode? wide)

theorem keyAt_iff {K : Type} {f : Resolution → K} {i : Nat} {k : K} :
    (values.map fun value => (mode? wide value).map f)[i]? = some (some k) ↔
      ∃ c, modeAt wide values i = some c ∧ f c = k := by
  rw [List.getElem?_map, modeAt]
  cases values[i]? with
  | none => simp
  | some value => simp

/-- No mode of another size is so much closer in its refresh rate than the best one that its
score is lower, or is the same and found first. -/
def SizeDecides (wide : Int → Int32) (wanted : Resolution) (values : List Bytes) : Prop :=
  ∀ (i j : Nat) (b c : Resolution), FirstLeast.IsFirst (preferences wide wanted values) i →
    modeAt wide values i = some b → modeAt wide values j = some c →
    sizeDistance wanted b < sizeDistance wanted c →
    refreshCost wanted b <
        refreshCost wanted c + 100000 * (sizeDistance wanted c - sizeDistance wanted b) ∨
      (refreshCost wanted b =
        refreshCost wanted c + 100000 * (sizeDistance wanted c - sizeDistance wanted b) ∧ i < j)

/-- The refresh rates of a display are all within 50000 of each other. -/
theorem sizeDecides_of_near
    (near : ∀ value ∈ values, ∀ c ∈ mode? wide value, refreshDistance wanted c < 50000) :
    SizeDecides wide wanted values := by
  intro i j b c first atI atJ farther
  obtain ⟨value, held, parsed⟩ := Option.bind_eq_some_iff.mp atI
  have close := near value (List.mem_of_getElem? held) b parsed
  have bit := exceeds_le wanted b
  refine .inl ?_
  rw [refreshCost]
  omega

/-- The best mode has the first least score exactly when the size decides. -/
theorem isFirst_scores_iff {i : Nat}
    (first : FirstLeast.IsFirst (preferences wide wanted values) i) :
    FirstLeast.IsFirst (scores wide wanted values) i ↔ SizeDecides wide wanted values := by
  obtain ⟨p, atI, least⟩ := id first
  obtain ⟨b, modeI, rfl⟩ := keyAt_iff.mp atI
  constructor
  · rintro ⟨k, scoreI, lowest⟩ i' j b' c first' modeI' modeJ farther
    cases first'.unique first
    cases modeI.symm.trans modeI'
    obtain ⟨b', again, rfl⟩ := keyAt_iff.mp scoreI
    cases modeI.symm.trans again
    obtain ⟨le, lt⟩ := lowest j (exactScore wanted c) (keyAt_iff.mpr ⟨c, modeJ, rfl⟩)
    have apart : i ≠ j := by
      rintro rfl
      cases modeI.symm.trans modeJ
      exact lt_irrefl _ farther
    unfold exactScore at le lt
    omega
  · intro decides
    refine ⟨exactScore wanted b, keyAt_iff.mpr ⟨b, modeI, rfl⟩, fun j l scoreJ => ?_⟩
    obtain ⟨c, modeJ, rfl⟩ := keyAt_iff.mp scoreJ
    obtain ⟨le, lt⟩ := least j (preference wanted c) (keyAt_iff.mpr ⟨c, modeJ, rfl⟩)
    rw [preference_le_iff] at le
    rw [preference_lt_iff] at lt
    have far := decides i j b c first modeI modeJ
    unfold exactScore
    omega

/-- The code finds the mode that was asked for, and no `int` overflows on the way. -/
def FindsBest (wide : Int → Int32) (desktop : Option Resolution) (values : List Bytes)
    (requested : Bytes) (wanted : Resolution) : Prop :=
  ∃ result, closestResolution wide desktop values requested = some result ∧
    ((∃ value ∈ values, mode? wide value ≠ none) →
      ∃ i, result = some i ∧ FirstLeast.IsFirst (preferences wide wanted values) i)

end Best

/-- **The replacement is the best mode exactly when no difference overflows and the size
decides.** -/
theorem closest_resolution_iff {wide : Int → Int32} {requested : Bytes} {wanted : Resolution}
    (parses : parseResolution wide requested {} = (wanted, true)) (desktop : Option Resolution)
    (values : List Bytes) :
    FindsBest wide desktop values requested wanted ↔
      AllFit wide wanted values ∧ SizeDecides wide wanted values := by
  have run : closestResolution wide desktop values requested =
      closestFrom wide wanted 0 none maxScore values := by
    rw [closestResolution, parses]
    rfl
  rw [FindsBest, run]
  by_cases fit : AllFit wide wanted values
  swap
  · rw [closestFrom_overflows 0 fit]
    exact iff_of_false (fun ⟨result, absent, _⟩ => nomatch absent) fun both => fit both.1
  have start : Keeps wide wanted [] none maxScore :=
    .inl ⟨rfl, rfl, fun value mem => absurd mem List.not_mem_nil⟩
  obtain ⟨result, score, found, keeps⟩ := closestFrom_keeps start fit
  rw [List.length_nil] at found
  rw [List.nil_append] at keeps
  rw [found]
  rcases keeps with ⟨rfl, -, none⟩ | ⟨i, k, rfl, -, -, lowest⟩
  · refine iff_of_true ⟨Option.none, rfl, ?_⟩ ⟨fit, ?_⟩
    · rintro ⟨value, mem, parsed⟩
      exact absurd (none value mem) parsed
    · intro i j b c first atI
      obtain ⟨value, held, parsed⟩ := Option.bind_eq_some_iff.mp atI
      rw [none value (List.mem_of_getElem? held)] at parsed
      cases parsed
  · obtain ⟨k', scoreI, -⟩ := id lowest
    obtain ⟨b, modeI, -⟩ := keyAt_iff.mp scoreI
    obtain ⟨value, held, parsed⟩ := Option.bind_eq_some_iff.mp modeI
    constructor
    · rintro ⟨other, same, best⟩
      cases same
      obtain ⟨i', same, first⟩ := best ⟨value, List.mem_of_getElem? held, by simp [parsed]⟩
      cases same
      exact ⟨fit, (isFirst_scores_iff first).mp lowest⟩
    · rintro ⟨-, decides⟩
      obtain ⟨i', first⟩ := @FirstLeast.exists_isFirst _ _ (preferences wide wanted values)
        ⟨i, preference wanted b, keyAt_iff.mpr ⟨b, modeI, rfl⟩⟩
      cases ((isFirst_scores_iff first).mpr decides).unique lowest
      exact ⟨some i, rfl, fun _ => ⟨i, rfl, first⟩⟩

/-- A refresh rate that the display no longer has. -/
theorem closest_resolution_unsupported :
    FindsBest (fun _ => 0) none
      [ascii "800x600@60Hz", ascii "1920x1080@60Hz", ascii "1920x1080@75Hz"]
      (ascii "1920x1080@100Hz") ⟨1920, 1080, 100⟩ := by
  refine (closest_resolution_iff (by decide) none _).mpr ⟨?_, sizeDecides_of_near ?_⟩
  · unfold AllFit
    decide
  · decide

/-- The mode of the wanted size loses against one that is a pixel wider. -/
theorem closest_resolution_fails_refresh :
    ¬ ∀ (wide : Int → Int32) (desktop : Option Resolution) (values : List Bytes)
      (requested : Bytes) (wanted : Resolution),
      parseResolution wide requested {} = (wanted, true) →
        FindsBest wide desktop values requested wanted := by
  intro claimed
  have parses : parseResolution (fun _ => 0) (ascii "800x600@60Hz") {} =
      (⟨800, 600, 60⟩, true) := by decide
  obtain ⟨result, found, best⟩ := claimed (fun _ => 0) none
    [ascii "800x600@60000Hz", ascii "801x600@60Hz"] (ascii "800x600@60Hz") ⟨800, 600, 60⟩ parses
  have wider : closestResolution (fun _ => 0) none
      [ascii "800x600@60000Hz", ascii "801x600@60Hz"] (ascii "800x600@60Hz") = some (some 1) := by
    decide
  have exact' : mode? (fun _ => 0) (ascii "800x600@60000Hz") = some ⟨800, 600, 60000⟩ := by decide
  cases wider.symm.trans found
  obtain ⟨i, same, first⟩ := best ⟨_, List.mem_cons_self, by simp [exact']⟩
  cases same
  obtain ⟨p, atI, least⟩ := first
  have le := (least 0 (preference ⟨800, 600, 60⟩ ⟨800, 600, 60000⟩) (by
    rw [preferences, List.map_cons, exact']
    rfl)).1
  have near : mode? (fun _ => 0) (ascii "801x600@60Hz") = some ⟨801, 600, 60⟩ := by decide
  obtain ⟨c, modeI, rfl⟩ := keyAt_iff.mp atI
  cases modeI.symm.trans near
  rw [preference_le_iff] at le
  revert le
  decide

end GamespyEmulator.VideoFallback
