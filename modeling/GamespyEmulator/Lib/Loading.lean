import GamespyEmulator.Lib.OrdMap
import GamespyEmulator.Lib.Fallible

/-!
A map loaded from a list of sources: each one is read, and what it yields is emplaced. A
source that cannot be read ends the loop.
-/

namespace Loading

open Fallible OrdMap

variable {S K V E : Type} [Ord K] [Std.TransOrd K]

/-- The loop, from the map it starts with. -/
def load (read : S → Except E (K × V)) (sources : List S) (m : OrdMap K V) :
    Except E (OrdMap K V) :=
  sources.foldlM (fun m source => do
    let e ← read source
    pure (m.insertIfNew e.1 e.2)) m

/-- The first source of a name. -/
def first? {S K : Type} [DecidableEq K] (name? : S → Option K) (sources : List S) (k : K) :
    Option S :=
  sources.find? fun source => name? source = some k

theorem first?_cons {S K : Type} [DecidableEq K] {name? : S → Option K} {sources : List S}
    (source : S) (k : K) :
    first? name? (source :: sources) k =
      if name? source = some k then some source else first? name? sources k := by
  unfold first?
  by_cases same : name? source = some k <;> simp [same]

theorem mem_of_first? {S K : Type} [DecidableEq K] {name? : S → Option K} {sources : List S}
    {source : S} {k : K} (first : first? name? sources k = some source) :
    source ∈ sources ∧ name? source = some k := by
  have same := List.find?_some first
  exact ⟨List.mem_of_find?_eq_some first, of_decide_eq_true same⟩

theorem first?_isSome_iff {S K : Type} [DecidableEq K] {name? : S → Option K} {sources : List S}
    {k : K} : (∃ source, first? name? sources k = some source) ↔
      ∃ source ∈ sources, name? source = some k := by
  rw [← Option.isSome_iff_exists, first?, List.find?_isSome]
  simp

variable {read : S → Except E (K × V)} {sources : List S} {m m' : OrdMap K V}

@[simp] theorem load_nil : load read [] m = .ok m := rfl

theorem load_cons (source : S) :
    load read (source :: sources) m =
      read source >>= fun e => load read sources (m.insertIfNew e.1 e.2) := by
  cases got : read source with
  | error e => simp [load, got, bind, Except.bind]
  | ok e => simp [load, got, bind, Except.bind, pure, Except.pure]

theorem load_append (later : List S) :
    load read (sources ++ later) m = load read sources m >>= load read later := by
  unfold load
  rw [List.foldlM_append]

section Named

variable [Std.LawfulEqOrd K] [DecidableEq K] {name? : S → Option K}

/-- The loop succeeds when every source can be read. The map it builds has what was there
before and, of each new name, what the first source of that name yields. -/
theorem load_eq_ok_iff (named : ∀ {source : S} {e : K × V}, read source = .ok e →
      name? source = some e.1) :
    load read sources m = .ok m' ↔
      (∀ source ∈ sources, Returns (read source)) ∧
        ∀ (k : K) (v : V), m'[k]? = some v ↔ m[k]? = some v ∨
          k ∉ m ∧ ∃ source, first? name? sources k = some source ∧ read source = .ok (k, v) := by
  induction sources generalizing m with
  | nil =>
      constructor
      · intro done
        cases done
        simp [first?]
      · rintro ⟨-, entries⟩
        have same : m = m' := ext_some fun k v => by simp [entries k v, first?]
        rw [same, load_nil]
  | cons source rest ih =>
      rw [load_cons]
      cases got : read source with
      | error e =>
          constructor
          · intro done
            cases done
          · rintro ⟨readable, -⟩
            exact absurd (readable source List.mem_cons_self) (by simp [got])
      | ok e =>
          have start : (Except.ok e >>= fun e => load read rest (m.insertIfNew e.1 e.2)) =
            load read rest (m.insertIfNew e.1 e.2) := rfl
          rw [start, ih]
          apply and_congr
          · simp [got]
          · -- one step of the loop decides the entry of the source's own name only
            apply forall_congr'
            intro k
            apply forall_congr'
            intro v
            apply iff_congr Iff.rfl
            rw [first?_cons, named got, insertIfNew_getElem?, Std.ExtTreeMap.mem_insertIfNew,
              Std.LawfulEqOrd.compare_eq_iff_eq]
            by_cases here : e.1 = k
            · subst here
              by_cases held : e.1 ∈ m
              · simp [held]
              · have mine : read source = .ok (e.1, v) ↔ e.2 = v := by
                  rw [got, Except.ok.injEq, Prod.ext_iff]
                  simp
                simp [held, mine]
            · simp [here]

end Named

end Loading
