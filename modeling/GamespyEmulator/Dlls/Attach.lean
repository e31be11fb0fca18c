import GamespyEmulator.Dlls.Renderer
import GamespyEmulator.Lib.Run

/-!
`client-video-fallback.cpp`: the vtable slots of a renderer are replaced while the game
loads its libraries, and written back when the DLL is detached.

`detach_restores` compares a run with one without the DLL. Outside the patched slots the
memory is the same, and behind the detach each patched slot has the pointer that the first
one had: one that leads to the same function as its own, and its own one exactly if all
slots had one pointer.
-/

namespace GamespyEmulator.VideoFallback

open Memory

/-! ### The DLL in its process -/

/-- What the DLL finds in the process: its own `setDynamicOption`, the libraries that export
`initDll`, and the places where `VirtualProtect` lets it write. -/
structure Process where
  patched : UInt32
  exports : Nat → Bool
  writable : Nat → Bool

/-- The memory of the process, and the globals of the DLL. -/
structure Fallback where
  memory : Bytewise
  renderer : Option Nat
  setDynamicOptionSlots : List Nat
  getDynamicOptionValues : UInt32
  setDynamicOption : UInt32
  getDynamicOption : UInt32

def Fallback.start (memory : Bytewise) : Fallback := ⟨memory, none, [], 0, 0, 0⟩

namespace Fallback

variable (process : Process)

/-- `write_vtable_slot`, and the list of the slots it wrote. -/
def patchSlot (st : Fallback) (slot : Nat) : Fallback :=
  if process.writable slot then
    { st with
      memory := store st.memory slot process.patched
      setDynamicOptionSlots := st.setDynamicOptionSlots ++ [slot] }
  else st

/-- `vtable[i]`, where slot 7 of the vtable is `front`. -/
def entry (front i : Nat) : Nat := front + pointerSize * i - pointerSize * setDynamicOptionSlot

/-- `attach_renderer`. -/
def attachRenderer (st : Fallback) (module : Nat) : Fallback :=
  if st.renderer.isSome ∨ module = 0 ∨ ¬process.exports module then st
  else
    let found := findSetDynamicOptionSlots st.memory module
    if ¬found.isRenderer then st
    else
      match found.slots with
      | [] => { st with renderer := some module }
      | front :: _ =>
          let st := { st with
            getDynamicOptionValues := word st.memory (entry front getDynamicOptionValuesSlot)
            setDynamicOption := word st.memory (entry front setDynamicOptionSlot)
            getDynamicOption := word st.memory (entry front getDynamicOptionSlot) }
          { found.slots.foldl (patchSlot process) st with renderer := some module }

/-- `write_vtable_slot` of the original function. -/
def restoreSlot (st : Fallback) (slot : Nat) : Fallback :=
  if process.writable slot then { st with memory := store st.memory slot st.setDynamicOption } else st

/-- What `DLL_PROCESS_DETACH` does to the slots. `moduleOf` is `GetModuleHandleExA`. -/
def detach (moduleOf : Nat → Option Nat) (st : Fallback) : Fallback :=
  match st.setDynamicOptionSlots with
  | [] => st
  | front :: _ =>
      if (moduleOf front).isSome ∧ moduleOf front = st.renderer then
        st.setDynamicOptionSlots.foldl (restoreSlot process) st
      else st

end Fallback

/-- What happens in the process: a library is there for the DLL to look at, or something
else writes a byte. -/
inductive LoaderEvent where
  | load (module : Nat)
  | write (a : Nat) (value : UInt8)

namespace Fallback

variable (process : Process)

def step (st : Fallback) : LoaderEvent → Fallback × List Empty
  | .load module => (st.attachRenderer process module, [])
  | .write a value => ({ st with memory := Function.update st.memory a value }, [])

/-- A place outside the words at the patched slots. -/
def Outside (slots : List Nat) (b : Nat) : Prop := ∀ slot ∈ slots, b < slot ∨ slot + 4 ≤ b

/-- The sections of a library do not overlap, and nothing else writes to the patched slots. -/
def Regular (st : Fallback) : LoaderEvent → Prop
  | .load module => (Image.ofModule st.memory module).data.Pairwise Range.Apart
  | .write a _ => Outside st.setDynamicOptionSlots a

end Fallback

/-- The memory without the DLL. -/
def plainMemory (memory : Bytewise) (events : List LoaderEvent) : Bytewise :=
  events.foldl (fun m event =>
    match event with
    | .load _ => m
    | .write a value => Function.update m a value) memory

theorem plainMemory_snoc (memory : Bytewise) (events : List LoaderEvent) (event : LoaderEvent) :
    plainMemory memory (events ++ [event]) = plainMemory (plainMemory memory events) [event] :=
  List.foldl_append

/-! ### The words of an image -/

/-- The pointers of one range lie in it, and do not overlap. -/
theorem range_words (range : Range) :
    Separate ((List.range ((range.stop - range.begin) / pointerSize)).map
        (range.begin + pointerSize * ·)) ∧
      ∀ a ∈ (List.range ((range.stop - range.begin) / pointerSize)).map
        (range.begin + pointerSize * ·), range.begin ≤ a ∧ a + 4 ≤ range.stop := by
  constructor
  · rw [Separate, List.pairwise_map]
    refine List.pairwise_lt_range.imp fun less => .inl ?_
    unfold pointerSize
    omega
  · intro a mem
    obtain ⟨i, inside, rfl⟩ := List.mem_map.mp mem
    have bound := List.mem_range.mp inside
    unfold pointerSize at bound ⊢
    omega

/-- The pointers of an image do not overlap if its sections do not. -/
theorem words_separate {image : Image} (apart : image.data.Pairwise Range.Apart) :
    Separate image.words := by
  unfold Image.words
  generalize image.data = ranges at apart ⊢
  induction ranges with
  | nil => exact List.Pairwise.nil
  | cons range rest ih =>
      obtain ⟨first, others⟩ := List.pairwise_cons.mp apart
      rw [List.flatMap_cons, Separate, List.pairwise_append]
      refine ⟨(range_words range).1, ih others, fun a inside b later => ?_⟩
      obtain ⟨other, held, mem⟩ := List.mem_flatMap.mp later
      have here := (range_words range).2 a inside
      have there := (range_words other).2 b mem
      rcases first other held with below | above
      · left
        omega
      · right
        omega

theorem slots_sublist (m : Bytewise) (module : Nat) :
    (findSetDynamicOptionSlots m module).slots.Sublist (Image.ofModule m module).words := by
  cases found : (findSetDynamicOptionSlots m module).slots with
  | nil => exact List.nil_sublist _
  | cons front rest =>
      have mem : front ∈ (findSetDynamicOptionSlots m module).slots := by simp [found]
      obtain ⟨site, pushed⟩ := slots_pushed mem
      rw [← found, slots_eq pushed]
      exact Greatest.scan_sublist _ _ _

/-- All slots that are found lead to one function. -/
theorem slots_lead {m : Bytewise} {module slot other : Nat}
    (mem : slot ∈ (findSetDynamicOptionSlots m module).slots)
    (mem' : other ∈ (findSetDynamicOptionSlots m module).slots) :
    (Image.ofModule m module).resolve m 4 (pointer m slot) =
      (Image.ofModule m module).resolve m 4 (pointer m other) := by
  obtain ⟨site, pushed⟩ := slots_pushed mem
  obtain ⟨inside, target, candidate, closest⟩ := (mem_slots_iff pushed slot).mp mem
  obtain ⟨inside', target', candidate', closest'⟩ := (mem_slots_iff pushed other).mp mem'
  rw [← candidate.leads, ← candidate'.leads]
  exact le_antisymm (closest' slot inside target candidate) (closest other inside' target' candidate')

namespace Fallback

variable {process : Process} {st : Fallback}

/-! ### What attaching does -/

theorem patchSlots_eq (slots : List Nat) (st : Fallback) :
    slots.foldl (patchSlot process) st =
      { st with
        memory := storeAll st.memory (slots.filter process.writable) process.patched
        setDynamicOptionSlots := st.setDynamicOptionSlots ++ slots.filter process.writable } := by
  induction slots generalizing st with
  | nil => simp [storeAll]
  | cons slot rest ih =>
      rw [List.foldl_cons, ih, patchSlot]
      cases writable : process.writable slot with
      | false => simp [writable]
      | true => simp [writable, storeAll]

theorem restoreSlots_eq (slots : List Nat) (st : Fallback) :
    slots.foldl (restoreSlot process) st =
      { st with memory := storeAll st.memory (slots.filter process.writable) st.setDynamicOption } := by
  induction slots generalizing st with
  | nil => rfl
  | cons slot rest ih =>
      rw [List.foldl_cons, ih, restoreSlot]
      cases writable : process.writable slot with
      | false => simp [writable]
      | true => simp [writable, storeAll]

/-- The slots of a library are patched. -/
structure Patches (process : Process) (st : Fallback) (module : Nat) (st' : Fallback) : Prop where
  fresh : st.renderer = none
  renderer : st'.renderer = some module
  memory : st'.memory = storeAll st.memory
    ((findSetDynamicOptionSlots st.memory module).slots.filter process.writable) process.patched
  slots : st'.setDynamicOptionSlots = st.setDynamicOptionSlots ++
    (findSetDynamicOptionSlots st.memory module).slots.filter process.writable
  original : ∃ front ∈ (findSetDynamicOptionSlots st.memory module).slots,
    st'.setDynamicOption = word st.memory front

/-- A library is not looked at, has no slots, or has its slots patched. -/
theorem attachRenderer_cases (process : Process) (st : Fallback) (module : Nat) :
    st.attachRenderer process module = st ∨
      st.attachRenderer process module = { st with renderer := some module } ∨
      Patches process st module (st.attachRenderer process module) := by
  unfold attachRenderer
  split
  · exact .inl rfl
  · rename_i looked
    dsimp only
    split
    · exact .inl rfl
    · split
      · exact .inr (.inl rfl)
      · rename_i front rest found
        refine .inr (.inr ?_)
        have fresh : st.renderer = none := by
          simp only [not_or, Bool.not_eq_true, Option.isSome_eq_false_iff,
            Option.isNone_iff_eq_none] at looked
          exact looked.1
        have here : entry front setDynamicOptionSlot = front := Nat.add_sub_cancel ..
        refine ⟨fresh, rfl, ?_, ?_, front, by simp [found], ?_⟩
        · rw [patchSlots_eq]
        · rw [patchSlots_eq]
        · rw [patchSlots_eq, here]

/-! ### What a run keeps -/

/-- The library that was patched: its slots are among those that were found, they had then
what they have without the DLL, and the original pointer is that of one of them. -/
structure AttachedTo (process : Process) (m : Bytewise) (module : Nat) (plain : Bytewise)
    (st : Fallback) : Prop where
  found : ∀ slot ∈ st.setDynamicOptionSlots, slot ∈ (findSetDynamicOptionSlots m module).slots
  held : ∀ slot ∈ st.setDynamicOptionSlots, word plain slot = word m slot
  original : ∃ front ∈ (findSetDynamicOptionSlots m module).slots, st.setDynamicOption = word m front

/-- The memory differs from the one without the DLL in the patched slots, which have the
pointer to its function. -/
structure Sound (process : Process) (plain : Bytewise) (st : Fallback) : Prop where
  separate : Separate st.setDynamicOptionSlots
  writable : ∀ slot ∈ st.setDynamicOptionSlots, process.writable slot
  unset : st.renderer = none → st.setDynamicOptionSlots = []
  hooked : ∀ slot ∈ st.setDynamicOptionSlots, word st.memory slot = process.patched
  elsewhere : ∀ b, Outside st.setDynamicOptionSlots b → st.memory b = plain b

variable {plain : Bytewise} {module : Nat}

theorem start_sound (process : Process) (memory : Bytewise) :
    Sound process memory (start memory) where
  separate := List.Pairwise.nil
  writable _ mem := absurd mem List.not_mem_nil
  unset _ := rfl
  hooked _ mem := absurd mem List.not_mem_nil
  elsewhere _ _ := rfl

/-- While nothing is patched, the memory is the one without the DLL. -/
theorem Sound.untouched (sound : Sound process plain st) (none : st.setDynamicOptionSlots = []) :
    st.memory = plain := by
  funext b
  apply sound.elsewhere
  rw [none]
  exact fun slot mem => absurd mem List.not_mem_nil

theorem Patches.sound {st' : Fallback} (patches : Patches process st module st')
    (sound : Sound process plain st)
    (apart : (Image.ofModule st.memory module).data.Pairwise Range.Apart) :
    Sound process plain st' ∧ AttachedTo process st.memory module plain st' := by
  have empty := sound.unset patches.fresh
  have same := sound.untouched empty
  have slots : st'.setDynamicOptionSlots =
      (findSetDynamicOptionSlots st.memory module).slots.filter process.writable := by
    rw [patches.slots, empty, List.nil_append]
  have separate : Separate st'.setDynamicOptionSlots := by
    rw [slots]
    exact (words_separate apart).sublist (List.filter_sublist.trans (slots_sublist _ _))
  refine ⟨⟨separate, fun slot mem => ?_, fun unset => ?_, fun slot mem => ?_, fun b outside => ?_⟩,
    fun slot mem => ?_, fun slot mem => ?_, patches.original⟩
  · rw [slots] at mem
    exact List.of_mem_filter mem
  · rw [patches.renderer] at unset
    cases unset
  · rw [patches.memory, ← slots]
    exact word_storeAll separate mem
  · rw [patches.memory, ← slots, storeAll_apart outside, same]
  · rw [slots] at mem
    exact List.mem_of_mem_filter mem
  · rw [same]

/-- The library is not looked at again. -/
theorem Sound.mark (sound : Sound process plain st) (module : Nat) :
    Sound process plain { st with renderer := some module } where
  separate := sound.separate
  writable := sound.writable
  unset := nofun
  hooked := sound.hooked
  elsewhere := sound.elsewhere

/-- A word outside of a byte that is written. -/
theorem word_update {m : Bytewise} {a slot : Nat} (outside : a < slot ∨ slot + 4 ≤ a)
    (value : UInt8) : word (Function.update m a value) slot = word m slot := by
  have other {i : Nat} (inside : i < 4) : Function.update m a value (slot + i) = m (slot + i) :=
    Function.update_of_ne (by omega) _ _
  have first := @other 0 (by omega)
  rw [Nat.add_zero] at first
  rw [word, word, other (by omega), other (by omega), other (by omega), first]

theorem Sound.write (sound : Sound process plain st) {a : Nat}
    (outside : Outside st.setDynamicOptionSlots a) (value : UInt8) :
    Sound process (Function.update plain a value)
      { st with memory := Function.update st.memory a value } where
  separate := sound.separate
  writable := sound.writable
  unset := sound.unset
  hooked slot mem := (word_update (outside slot mem) value).trans (sound.hooked slot mem)
  elsewhere b out := by
    dsimp only
    by_cases same : b = a
    · subst same
      rw [Function.update_self, Function.update_self]
    · rw [Function.update_of_ne same, Function.update_of_ne same]
      exact sound.elsewhere b out

theorem AttachedTo.write {m : Bytewise} (attached : AttachedTo process m module plain st) {a : Nat}
    (outside : Outside st.setDynamicOptionSlots a) (value : UInt8) :
    AttachedTo process m module (Function.update plain a value)
      { st with memory := Function.update st.memory a value } where
  found := attached.found
  held slot mem := (word_update (outside slot mem) value).trans (attached.held slot mem)
  original := attached.original

/-! ### Runs -/

section Runs

variable (process : Process) (memory : Bytewise)

/-- The DLL behind a run. -/
def behind (events : List LoaderEvent) : Fallback :=
  Run.final (step process) (start memory) events

/-- The library that is patched was loaded in the run. -/
def PatchedIn (past : List LoaderEvent) (plain : Bytewise) (st : Fallback) : Prop :=
  st.setDynamicOptionSlots ≠ [] → ∃ before module after, past = before ++ .load module :: after ∧
    AttachedTo process (behind process memory before).memory module plain st

theorem run_sound (events : List LoaderEvent)
    (regular : Run.StepsMeet (step process) Regular (start memory) events) :
    Sound process (plainMemory memory events) (behind process memory events) ∧
      PatchedIn process memory events (plainMemory memory events) (behind process memory events) := by
  have rule := @Run.history_invariant _ _ _ (step process) Regular
    (fun past st => Sound process (plainMemory memory past) st ∧
      PatchedIn process memory past (plainMemory memory past) st) (start memory)
  refine rule ⟨start_sound process memory, fun some => absurd rfl some⟩ ?_ events regular
  rintro past event ⟨sound, patchedIn⟩ met
  change Sound process (plainMemory memory past) (behind process memory past) at sound
  change PatchedIn process memory past _ (behind process memory past) at patchedIn
  change Regular (behind process memory past) event at met
  change Sound process _ (step process (behind process memory past) event).1 ∧
    PatchedIn process memory _ _ (step process (behind process memory past) event).1
  have longer {m : Bytewise} {module : Nat} {st : Fallback} {plain' : Bytewise}
      {before after : List LoaderEvent} (split : past = before ++ .load module :: after)
      (same : (behind process memory before).memory = m)
      (attached : AttachedTo process m module plain' st) :
      ∃ before module after, past ++ [event] = before ++ .load module :: after ∧
        AttachedTo process (behind process memory before).memory module plain' st := by
    subst same
    exact ⟨before, module, after ++ [event], by simp [split], attached⟩
  rw [plainMemory_snoc]
  cases event with
  | load module =>
      change Sound process (plainMemory memory past)
          ((behind process memory past).attachRenderer process module) ∧
        PatchedIn process memory _ (plainMemory memory past)
          ((behind process memory past).attachRenderer process module)
      rcases attachRenderer_cases process (behind process memory past) module with
        same | none | patches
      · rw [same]
        refine ⟨sound, fun some => ?_⟩
        obtain ⟨before, other, after, split, attached⟩ := patchedIn some
        exact longer split rfl attached
      · rw [none]
        refine ⟨sound.mark module, fun some => ?_⟩
        obtain ⟨before, other, after, split, attached⟩ := patchedIn some
        exact longer split rfl ⟨attached.found, attached.held, attached.original⟩
      · obtain ⟨sound', attached⟩ := patches.sound sound met
        exact ⟨sound', fun _ => ⟨past, module, [], rfl, attached⟩⟩
  | write a value =>
      refine ⟨sound.write met value, fun some => ?_⟩
      obtain ⟨before, other, after, split, attached⟩ := patchedIn some
      exact longer split rfl (attached.write met value)

/-- The library with the patched slots is still loaded. -/
def StillLoaded (moduleOf : Nat → Option Nat) (st : Fallback) : Prop :=
  ∀ front ∈ st.setDynamicOptionSlots.head?, moduleOf front = st.renderer

theorem Sound.detach (sound : Sound process plain st) {moduleOf : Nat → Option Nat}
    (loaded : StillLoaded moduleOf st) :
    (st.detach process moduleOf).memory =
      storeAll st.memory st.setDynamicOptionSlots st.setDynamicOption := by
  unfold Fallback.detach
  cases slots : st.setDynamicOptionSlots with
  | nil => rfl
  | cons front rest =>
      have same : moduleOf front = st.renderer := loaded front (by rw [slots]; rfl)
      have known : st.renderer.isSome := by
        rw [Option.isSome_iff_ne_none]
        intro none
        rw [sound.unset none] at slots
        cases slots
      have all : (front :: rest).filter process.writable = front :: rest :=
        List.filter_eq_self.mpr (slots ▸ sound.writable)
      dsimp only
      rw [if_pos ⟨same ▸ known, same⟩, restoreSlots_eq, all]

/-- Where the slots are written back, the memory is the one without the DLL with one word
stored at all of them. -/
theorem Sound.restored (sound : Sound process plain st) (v : UInt32) :
    storeAll st.memory st.setDynamicOptionSlots v = storeAll plain st.setDynamicOptionSlots v := by
  funext b
  by_cases outside : Outside st.setDynamicOptionSlots b
  · rw [storeAll_apart outside, storeAll_apart outside]
    exact sound.elsewhere b outside
  · simp only [Outside, not_forall, not_or, not_lt, not_le] at outside
    obtain ⟨slot, mem, low, high⟩ := outside
    exact storeAll_inside sound.separate mem low high

/-- **Detaching restores the vtables.** Behind any run and a detach, with the renderer still
loaded, every byte outside the patched slots is as it is without the DLL, and each slot has
the pointer of one of them, which leads to the function that the slot's own one led to when
it was patched. The memory is entirely as without the DLL exactly if each slot has that
pointer there. -/
theorem detach_restores (events : List LoaderEvent)
    (regular : Run.StepsMeet (step process) Regular (start memory) events)
    {moduleOf : Nat → Option Nat} (loaded : StillLoaded moduleOf (behind process memory events)) :
    let st := behind process memory events
    let detached := (st.detach process moduleOf).memory
    let plain := plainMemory memory events
    (∀ b, Outside st.setDynamicOptionSlots b → detached b = plain b) ∧
      (∀ slot ∈ st.setDynamicOptionSlots, word detached slot = st.setDynamicOption ∧
        ∃ before module after, events = before ++ .load module :: after ∧
          (Image.ofModule (behind process memory before).memory module).resolve
              (behind process memory before).memory 4 (pointer plain slot) =
            (Image.ofModule (behind process memory before).memory module).resolve
              (behind process memory before).memory 4 st.setDynamicOption.toNat) ∧
      (detached = plain ↔
        ∀ slot ∈ st.setDynamicOptionSlots, word plain slot = st.setDynamicOption) := by
  obtain ⟨sound, patchedIn⟩ := run_sound process memory events regular
  dsimp only
  generalize plainMemory memory events = plain at sound patchedIn ⊢
  generalize behind process memory events = st at sound patchedIn loaded ⊢
  rw [sound.detach process loaded, sound.restored]
  refine ⟨fun b outside => storeAll_apart outside, fun slot mem => ?_, fun same slot mem => ?_,
    storeAll_eq_self⟩
  · refine ⟨word_storeAll sound.separate mem, ?_⟩
    obtain ⟨before, module, after, split, attached⟩ := patchedIn (List.ne_nil_of_mem mem)
    obtain ⟨front, found, original⟩ := attached.original
    refine ⟨before, module, after, split, ?_⟩
    have lead := slots_lead (attached.found slot mem) found
    rw [original]
    rw [pointer, attached.held slot mem]
    exact lead
  · rw [← same]
    exact word_storeAll sound.separate mem

end Runs

end Fallback

namespace RendererSample

/-- A library at `0x1000` with a code section and a data section. -/
def parts : List (Nat × Wire.Bytes) := [
  (0x103C, wordBytes 0x40), (0x1046, [2, 0]), (0x1054, [0, 0]),
  (0x1060, wordBytes 0x40 ++ wordBytes 0x1000), (0x107C, wordBytes 0x20),
  (0x1088, wordBytes 0x60 ++ wordBytes 0x2000), (0x10A4, wordBytes 0x40),
  -- A getter, and the place that pushes the message.
  (0x2008, [0xC2, 4, 0]), (0x2030, push 0x3000),
  (0x3000, unknownDynamicOptionMessage),
  (0x3020, (List.range 15).flatMap fun i => wordBytes (if i = 7 then 0x2020 else 0x2000))]

def memory : Bytewise := fun a =>
  match parts.find? fun (start, bytes) => start ≤ a && a < start + bytes.length with
  | some (start, bytes) => bytes.getD (a - start) 0
  | none => 0

def process : Process := ⟨0x7000, fun _ => true, fun _ => true⟩

/-- The library is loaded, and something else is written. -/
def events : List LoaderEvent := [.load 0x1000, .write 0x5000 1]

theorem detach_restores_written :
    word ((Fallback.behind process memory events).detach process fun _ => some 0x1000).memory 0x303C =
      0x2020 := by
  have apart : (Image.ofModule memory 0x1000).data.Pairwise Range.Apart := by decide +kernel
  have slots : ((Fallback.start memory).attachRenderer process 0x1000).setDynamicOptionSlots =
      [0x303C] := by
    decide +kernel
  have outside : Fallback.Outside
      ((Fallback.start memory).attachRenderer process 0x1000).setDynamicOptionSlots 0x5000 := by
    rw [slots]
    intro slot mem
    rw [List.mem_singleton.mp mem]
    decide
  have loaded : Fallback.StillLoaded (fun _ => some 0x1000)
      (Fallback.behind process memory events) := by
    have renderer : (Fallback.behind process memory events).renderer = some 0x1000 := by
      decide +kernel
    exact fun front _ => renderer.symm
  have mem : 0x303C ∈ (Fallback.behind process memory events).setDynamicOptionSlots :=
    slots.symm ▸ List.mem_singleton.mpr rfl
  have original : (Fallback.behind process memory events).setDynamicOption = 0x2020 := by
    decide +kernel
  rw [← original]
  exact ((Fallback.detach_restores process memory events ⟨apart, outside, trivial⟩ loaded).2.1
    0x303C mem).1

end RendererSample

end GamespyEmulator.VideoFallback
