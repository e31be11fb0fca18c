import GamespyEmulator.Dlls.VideoFallback
import GamespyEmulator.Game.Basic

/-!
`client-video-fallback.cpp`: `VideoOptions::setDynamicOption`, which the renderer's own
function is called through.

The renderer asserts that a value is in the list of the option. `passes_known_iff` says
when the value it gets is.
-/

namespace GamespyEmulator.VideoFallback

open Wire

def numDynamicOptions : Int32 := 2

def resolutionOption : Int32 := 1

/-- What the renderer knows of an option: its values, none for a list that is not valid, and
the place of the one that is selected, if it is in the list. -/
structure OptionValues where
  values : List Bytes
  selected : Option (Fin values.length)

/-- `_strnicmp(a, b, size) == 0`. -/
def sameText (size : Nat) (a b : Bytes) : Bool :=
  ((cstr a).take size).map toLower == ((cstr b).take size).map toLower

/-- `is_known_value`, which compares as many characters as the requested value has. -/
def isKnownValue (values : List Bytes) (value : Bytes) : Bool :=
  values.any fun known => sameText value.length known value

section Replacement

variable (wide : Int → Int32) (desktop : Option Resolution)

/-- The replacement of a value that is not known, if there is one. There is no result at all
when an `int` overflows. -/
def replacement (option : Int32) (known : OptionValues) (value : Bytes) : Option (Option Bytes) :=
  if option = resolutionOption then
    (closestResolution wide desktop known.values value).map fun place => place.bind (known.values[·]?)
  else
    match known.selected with
    | some place => some (some known.values[place])
    | none => some known.values.head?

/-- `VideoOptions::setDynamicOption`: the value that the original function is called with.
`options` is what `getDynamicOptionValues` and `getDynamicOption` return. -/
def setDynamicOption (options : Int32 → OptionValues) (option : Int32) (value : Option Bytes) :
    Option (Option Bytes) :=
  match value with
  | none => some none
  | some value =>
      if option ≥ 0 ∧ option < numDynamicOptions ∧ (options option).values ≠ [] ∧
          ¬isKnownValue (options option).values value then
        (replacement wide desktop option (options option) value).map fun replaced =>
          some (replaced.getD value)
      else some (some value)

end Replacement

/-! ### Known values -/

theorem known_of_mem {values : List Bytes} {value : Bytes} (mem : value ∈ values) :
    isKnownValue values value := by
  rw [isKnownValue, List.any_eq_true]
  exact ⟨value, mem, beq_self_eq_true _⟩

/-- The resolution that is looked for. -/
def wantedResolution (wide : Int → Int32) (desktop : Option Resolution) (requested : Bytes) :
    Resolution :=
  let (wanted, parsed) := parseResolution wide requested {}
  if parsed then wanted else desktop.getD wanted

/-- A resolution is replaced if no `int` overflows and some value of the list is a mode. -/
def Replaceable (wide : Int → Int32) (desktop : Option Resolution) (values : List Bytes)
    (requested : Bytes) : Prop :=
  AllFit wide (wantedResolution wide desktop requested) values ∧
    ∃ value ∈ values, mode? wide value ≠ none

section Closest

variable {wide : Int → Int32} {desktop : Option Resolution} {values : List Bytes}
  {requested : Bytes}

/-- `closest_resolution` gives a value of the list exactly when it can be replaced. -/
theorem closest_mem_iff :
    (∃ i value, closestResolution wide desktop values requested = some (some i) ∧
        values[i]? = some value) ↔
      Replaceable wide desktop values requested := by
  have run : closestResolution wide desktop values requested =
      closestFrom wide (wantedResolution wide desktop requested) 0 none maxScore values := rfl
  rw [run, Replaceable]
  by_cases fit : AllFit wide (wantedResolution wide desktop requested) values
  swap
  · rw [closestFrom_overflows 0 fit]
    exact iff_of_false (fun ⟨i, value, absent, _⟩ => nomatch absent) fun both => fit both.1
  have start : Keeps wide (wantedResolution wide desktop requested) [] none maxScore :=
    .inl ⟨rfl, rfl, fun value mem => absurd mem List.not_mem_nil⟩
  obtain ⟨result, score, found, keeps⟩ := closestFrom_keeps start fit
  rw [List.length_nil] at found
  rw [List.nil_append] at keeps
  rw [found]
  rcases keeps with ⟨rfl, -, none⟩ | ⟨i, k, rfl, -, scored, -⟩
  · refine iff_of_false (fun ⟨i, value, absent, _⟩ => nomatch absent) ?_
    rintro ⟨-, value, mem, parsed⟩
    exact parsed (none value mem)
  · rw [scores, List.getElem?_map, Option.map_eq_some_iff] at scored
    obtain ⟨value, held, parsed⟩ := scored
    refine iff_of_true ⟨i, value, rfl, held⟩ ⟨fit, value, List.mem_of_getElem? held, ?_⟩
    rintro absent
    rw [absent] at parsed
    cases parsed

/-- Without a mode in the list, there is no replacement. -/
theorem closest_other {result : Option Nat}
    (found : closestResolution wide desktop values requested = some result)
    (other : ¬Replaceable wide desktop values requested) :
    result.bind (values[·]?) = none := by
  cases result with
  | none => rfl
  | some i =>
      cases held : values[i]? with
      | none => exact held
      | some value => exact absurd (closest_mem_iff.mp ⟨i, value, found, held⟩) other

end Closest

/-! ### What the renderer gets -/

/-- The renderer's function gets a value that is in its list. -/
def PassesKnown (wide : Int → Int32) (desktop : Option Resolution)
    (options : Int32 → OptionValues) (option : Int32) (value : Bytes) : Prop :=
  ∃ passed, setDynamicOption wide desktop options option (some value) = some (some passed) ∧
    isKnownValue (options option).values passed

/-- **When the renderer gets a known value.** For an option with a valid list of values, the
renderer's function gets one that is in the list exactly if the requested one is, or it is
not the resolution, or the resolution can be replaced. -/
theorem passes_known_iff (wide : Int → Int32) (desktop : Option Resolution)
    (options : Int32 → OptionValues) {option : Int32}
    (dynamic : option ≥ 0 ∧ option < numDynamicOptions) (valid : (options option).values ≠ [])
    (value : Bytes) :
    PassesKnown wide desktop options option value ↔
      isKnownValue (options option).values value ∨ option ≠ resolutionOption ∨
        Replaceable wide desktop (options option).values value := by
  unfold PassesKnown setDynamicOption
  dsimp only
  by_cases known : isKnownValue (options option).values value
  · rw [if_neg fun all => all.2.2.2 known]
    exact iff_of_true ⟨value, rfl, known⟩ (.inl known)
  rw [if_pos ⟨dynamic.1, dynamic.2, valid, known⟩, replacement]
  by_cases resolution : option = resolutionOption
  · rw [if_pos resolution]
    constructor
    · rintro ⟨passed, replaced, listed⟩
      right; right
      by_contra other
      simp only [Option.map_map, Option.map_eq_some_iff, Function.comp_apply, Option.some_inj]
        at replaced
      obtain ⟨place, found, same⟩ := replaced
      rw [closest_other found other, Option.getD_none] at same
      exact known (same ▸ listed)
    · rintro (listed | unlike | replaceable)
      · exact absurd listed known
      · exact absurd resolution unlike
      · obtain ⟨i, passed, found, held⟩ := closest_mem_iff.mpr replaceable
        refine ⟨passed, ?_, known_of_mem (List.mem_of_getElem? held)⟩
        rw [found]
        simp [held]
  · rw [if_neg resolution]
    refine iff_of_true ?_ (.inr (.inl resolution))
    cases selected : (options option).selected with
    | some place => exact ⟨_, rfl, known_of_mem (List.getElem_mem _)⟩
    | none =>
        obtain ⟨first, rest, list⟩ := List.exists_cons_of_ne_nil valid
        refine ⟨first, ?_, known_of_mem ?_⟩
        · dsimp only
          rw [list]
          rfl
        · rw [list]
          exact List.mem_cons_self

/-- A display that has two resolutions. -/
def twoModes (_ : Int32) : OptionValues :=
  ⟨[ascii "800x600@60Hz", ascii "1024x768@60Hz"], none⟩

/-- A refresh rate that the display does not have. -/
theorem passes_known_iff_refresh :
    PassesKnown (fun _ => 0) none twoModes resolutionOption (ascii "1024x768@100Hz") := by
  refine (passes_known_iff (fun _ => 0) none twoModes (by decide) (by decide) _).mpr
    (.inr (.inr ⟨?_, ascii "800x600@60Hz", List.mem_cons_self, by decide⟩))
  unfold AllFit
  decide

end GamespyEmulator.VideoFallback
