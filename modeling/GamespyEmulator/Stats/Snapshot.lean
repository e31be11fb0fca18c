import GamespyEmulator.Player.TextPacket
import GamespyEmulator.Stats.Client
import GamespyEmulator.Stats.Link

/-!
Snapshots over the stats link: the `\updgame\` messages of the games, and what
`StatsClient::Process` hands to `HandeSnapshot` for one of them.
-/

namespace GamespyEmulator

open Wire Utils Framing

/-! ### Messages -/

/-- A number as `%d` prints it. -/
structure Numeric where
  negative : Bool
  digits : Bytes
  nonempty : digits ≠ []
  areDigits : ∀ c ∈ digits, Numeral.isDigit c

namespace Numeric

def text (number : Numeric) : Bytes :=
  if number.negative then 45 :: number.digits else number.digits

def value (number : Numeric) : Int :=
  if number.negative then -(Numeral.value number.digits : Int) else Numeral.value number.digits

theorem mem_text {number : Numeric} {c : UInt8} (mem : c ∈ number.text) :
    c = 45 ∨ Numeral.isDigit c := by
  unfold text at mem
  split at mem
  · rcases List.mem_cons.mp mem with sign | digit
    · exact .inl sign
    · exact .inr (number.areDigits c digit)
  · exact .inr (number.areDigits c mem)

/-- A number is neither a key nor does it end a value. -/
theorem text_free {number : Numeric} {c : UInt8} (foreign : ¬ (c = 45 ∨ Numeral.isDigit c)) :
    c ∉ number.text := fun mem => foreign (mem_text mem)

theorem text_plain (number : Numeric) : Plain number.text := text_free (by decide)

theorem text_nulFree (number : Numeric) : NulFree number.text := text_free (by decide)

/-- A word with a letter in it is no number. -/
theorem text_ne {number : Numeric} {word : Bytes} {c : UInt8} (mem : c ∈ word)
    (foreign : ¬ (c = 45 ∨ Numeral.isDigit c)) : word ≠ number.text := by
  rintro rfl
  exact foreign (mem_text mem)

theorem fromChars_text (number : Numeric) (limit : Nat) (positive : 1 ≤ limit) :
    Numeral.fromChars limit number.text = .ok 1 [] ↔ number.value = 1 := by
  rw [Numeral.fromChars_whole, text, value]
  cases number.negative with
  | true =>
      have sign : ¬ ∀ c ∈ 45 :: number.digits, Numeral.isDigit c = true := by
        intro all
        exact absurd (all 45 List.mem_cons_self) (by decide)
      simp only [if_true]
      constructor
      · intro read
        exact absurd read.2.1 sign
      · omega
  | false =>
      simp only [Bool.false_eq_true, if_false]
      constructor
      · intro read
        omega
      · intro one
        exact ⟨number.nonempty, number.areDigits, by omega, positive⟩

end Numeric

/-- An `\updgame\` message: `\sesskey\`, perhaps `\connid\`, `\done\`, `\gamedata\` and perhaps
`\dl\1`. -/
structure UpdGame where
  sesskey : Numeric
  connid : Option Numeric
  done : Numeric
  gamedata : Bytes
  unescaped : ∀ c ∈ gamedata, c ≠ 0 ∧ c ≠ escaped
  dl : Bool

namespace UpdGame

variable (game : UpdGame)

/-- The game data as it is sent. -/
def data : Bytes := game.gamedata.map fun c => if c = Utils.backslash then escaped else c

def session : List Bytes :=
  [ascii "updgame", [], ascii "sesskey", game.sesskey.text] ++
    match game.connid with
    | none => []
    | some connid => [ascii "connid", connid.text]

/-- What comes behind the game data, and the terminator. -/
def tail : List Bytes :=
  (if game.dl then [ascii "dl", ascii "1"] else []) ++ [ascii "final"]

def parts : List Bytes :=
  game.session ++ ascii "done" :: game.done.text :: ascii "gamedata" :: game.data :: game.tail

/-- The message as the games print it. -/
def message : Bytes :=
  ascii "\\updgame\\\\sesskey\\" ++ game.sesskey.text ++
    (match game.connid with
      | none => []
      | some connid => ascii "\\connid\\" ++ connid.text) ++
    ascii "\\done\\" ++ game.done.text ++ ascii "\\gamedata\\" ++ game.data ++
    if game.dl then ascii "\\dl\\1" else []

/-- The message and the terminator behind it, as `Process` gets them. -/
theorem message_packetEnd : game.message ++ packetEnd = textPacket game.parts := by
  have updgame : ascii "\\updgame\\\\sesskey\\" =
      Utils.backslash :: (ascii "updgame" ++ Utils.backslash :: Utils.backslash ::
        (ascii "sesskey" ++ [Utils.backslash])) := by decide
  have connid : ascii "\\connid\\" = Utils.backslash :: (ascii "connid" ++ [Utils.backslash]) := by
    decide
  have done : ascii "\\done\\" = Utils.backslash :: (ascii "done" ++ [Utils.backslash]) := by decide
  have gamedata : ascii "\\gamedata\\" =
      Utils.backslash :: (ascii "gamedata" ++ [Utils.backslash]) := by decide
  have dl : ascii "\\dl\\1" = Utils.backslash :: (ascii "dl" ++ Utils.backslash :: ascii "1") := by
    decide
  have final : packetEnd = Utils.backslash :: (ascii "final" ++ [Utils.backslash]) := by decide
  rw [message, parts, session, tail, updgame, connid, done, gamedata, dl, final]
  cases game.connid <;> cases game.dl <;> simp [textPacket]

theorem data_plain : Plain game.data := by
  intro mem
  obtain ⟨c, -, shown⟩ := List.mem_map.mp mem
  split at shown
  · exact absurd shown (by decide)
  · contradiction

theorem data_nulFree : NulFree game.data := by
  intro mem
  obtain ⟨c, mem, shown⟩ := List.mem_map.mp mem
  split at shown
  · exact absurd shown (by decide)
  · exact (game.unescaped c mem).1 shown

/-- Replacing what stands for a backslash gives the game data back. -/
theorem data_unescaped :
    (game.data.map fun c => if c = escaped then Utils.backslash else c) = game.gamedata := by
  rw [data, List.map_map]
  refine (List.map_congr_left fun c mem => ?_).trans (List.map_id _)
  rw [Function.comp_apply]
  by_cases slash : c = Utils.backslash
  · rw [if_pos slash, if_pos rfl, slash, id]
  · rw [if_neg slash, if_neg (game.unescaped c mem).2, id]

theorem session_plain : ∀ part ∈ game.session, Plain part := by
  intro part mem
  rw [session] at mem
  cases connid : game.connid with
  | none =>
      simp only [connid, List.append_nil, List.mem_cons, List.not_mem_nil, or_false] at mem
      rcases mem with rfl | rfl | rfl | rfl
      · decide
      · decide
      · decide
      · exact game.sesskey.text_plain
  | some id =>
      simp only [connid, List.cons_append, List.nil_append, List.mem_cons, List.not_mem_nil,
        or_false] at mem
      rcases mem with rfl | rfl | rfl | rfl | rfl | rfl
      · decide
      · decide
      · decide
      · exact game.sesskey.text_plain
      · decide
      · exact id.text_plain

/-- The keys that are looked up stand at no earlier place. -/
theorem session_absent {key : Bytes} {c : UInt8} (mem : c ∈ key)
    (foreign : ¬ (c = 45 ∨ Numeral.isDigit c))
    (other : key ∉ [ascii "updgame", [], ascii "sesskey", ascii "connid"]) :
    key ∉ game.session := by
  intro found
  have sesskey := @Numeric.text_ne game.sesskey key c mem foreign
  rw [session] at found
  cases connid : game.connid with
  | none =>
      simp only [connid, List.append_nil, List.mem_cons, List.not_mem_nil, or_false] at found
      simp_all
  | some id =>
      have connid' := @Numeric.text_ne id key c mem foreign
      simp only [connid, List.cons_append, List.nil_append, List.mem_cons, List.not_mem_nil,
        or_false] at found
      simp_all

/-- The value of `\done\`. -/
theorem done_read : valueForKey (game.message ++ packetEnd) (ascii "\\done\\") =
    some game.done.text := by
  have key : ascii "\\done\\" = lookupKey (ascii "done") := by decide
  rw [message_packetEnd, parts, key]
  apply valueForKey_textPacket
  · decide
  · exact game.session_plain
  · exact @session_absent game (ascii "done") 100 (by decide) (by decide) (by decide)
  · exact game.done.text_plain
  · exact game.done.text_nulFree

/-- The value of `\gamedata\`. -/
theorem gamedata_read : valueForKey (game.message ++ packetEnd) (ascii "\\gamedata\\") =
    some game.data := by
  have key : ascii "\\gamedata\\" = lookupKey (ascii "gamedata") := by decide
  have order : game.parts = (game.session ++ [ascii "done", game.done.text]) ++
      ascii "gamedata" :: game.data :: game.tail := by simp [parts]
  rw [message_packetEnd, order, key]
  apply valueForKey_textPacket
  · decide
  · intro part mem
    simp only [List.mem_append, List.mem_cons, List.not_mem_nil, or_false] at mem
    rcases mem with front | rfl | rfl
    · exact game.session_plain part front
    · decide
    · exact game.done.text_plain
  · intro mem
    simp only [List.mem_append, List.mem_cons, List.not_mem_nil, or_false] at mem
    rcases mem with front | same | same
    · exact @session_absent game (ascii "gamedata") 103 (by decide) (by decide) (by decide) front
    · exact absurd same (by decide)
    · exact @Numeric.text_ne game.done (ascii "gamedata") 103 (by decide) (by decide) same
  · exact game.data_plain
  · exact game.data_nulFree

/-- `\done\` reads as one exactly when it is one. -/
theorem done_one : numberForKey (game.message ++ packetEnd) (ascii "\\done\\") = some 1 ↔
    game.done.value = 1 := by
  rw [numberForKey, done_read, Option.bind_some, ← game.done.fromChars_text 4294967295 (by decide)]
  constructor
  · intro one
    split at one
    · rename_i n read
      have inRange := (Numeral.fromChars_whole.mp read).2.2.2
      have n_one : n = 1 := by
        have same := congrArg UInt32.toNat (Option.some.inj one)
        rw [UInt32.toNat_ofNat'] at same
        have small : n % 2 ^ 32 = n := Nat.mod_eq_of_lt (by omega)
        rw [small] at same
        exact same
      rw [← n_one]
      exact read
    · cases one
  · intro read
    rw [read]
    rfl

end UpdGame

/-- **What `Process` takes from a message.** -/
theorem snapshotArguments_message (game : UpdGame) :
    snapshotArguments (game.message ++ packetEnd) =
      some (game.gamedata, decide (game.done.value = 1)) := by
  rw [snapshotArguments, game.gamedata_read, Option.map_some, game.data_unescaped]
  congr 2
  exact decide_eq_decide.mpr game.done_one

/-- A message goes to `HandeSnapshot`, which gets what the game meant. -/
theorem process_message (snapshotEndpoint : Option Endpoint) (key : Int32) (game : UpdGame) :
    StatsClient.process snapshotEndpoint key (game.message ++ packetEnd) =
      StatsClient.handeSnapshot snapshotEndpoint game.gamedata (decide (game.done.value = 1)) := by
  have front : ascii "\\updgame\\" <+: game.message ++ packetEnd := by
    have updgame : ascii "\\updgame\\\\sesskey\\" =
        ascii "\\updgame\\" ++ ascii "\\sesskey\\" := by decide
    rw [UpdGame.message, updgame]
    simp only [List.append_assoc]
    exact List.prefix_append _ _
  have begins : (ascii "\\updgame\\").isPrefixOf (game.message ++ packetEnd) = true :=
    List.isPrefixOf_iff_prefix.mpr front
  have other {word : Bytes} := @not_isPrefixOf (game.message ++ packetEnd) (ascii "\\updgame\\") word
    begins
  rw [StatsClient.process, if_neg (other (by decide)), if_neg (other (by decide)),
    if_neg (other (by decide)), if_neg (other (by decide)), if_pos begins, snapshotArguments_message]

/-- **The link and what is read from it.** The reader yields the messages in order, however
the stream is split, and a snapshot among them reaches `HandeSnapshot` as the game meant it. -/
theorem stats_link (messages : List LinkMessage) (chunks : List Bytes)
    (stream : chunks.flatten = messages.flatMap fun message => encodePacket message.bytes)
    (snapshotEndpoint : Option Endpoint) (key : Int32) (game : UpdGame) :
    packetReader chunks = (messages.map fun message => message.bytes ++ packetEnd, .eof) ∧
      snapshotArguments (game.message ++ packetEnd) =
        some (game.gamedata, decide (game.done.value = 1)) ∧
      StatsClient.process snapshotEndpoint key (game.message ++ packetEnd) =
        StatsClient.handeSnapshot snapshotEndpoint game.gamedata (decide (game.done.value = 1)) :=
  ⟨packetReader_encodePacket messages chunks stream, snapshotArguments_message game,
    process_message snapshotEndpoint key game⟩

namespace SnapshotSample

/-- A message of two bytes. -/
def message : LinkMessage where
  bytes := [1, 65]
  isMessage := by
    unfold IsMessage
    decide +kernel
  fits := by decide

/-- The last snapshot of a round, with a backslash in its data. -/
def game : UpdGame where
  sesskey := ⟨false, [55], by decide, by decide +kernel⟩
  connid := none
  done := ⟨false, [49], by decide, by decide +kernel⟩
  gamedata := ascii "a\\1"
  unescaped := by decide +kernel
  dl := true

/-- The stream comes in two chunks, the second of which begins inside the terminator. -/
theorem link_split :
    packetReader [[70, 32, 92], ascii "final\\"] = ([[1, 65] ++ packetEnd], .eof) ∧
      snapshotArguments (game.message ++ packetEnd) =
        some (game.gamedata, decide (game.done.value = 1)) ∧
      StatsClient.process none 0 (game.message ++ packetEnd) =
        StatsClient.handeSnapshot none game.gamedata (decide (game.done.value = 1)) :=
  stats_link [message] [[70, 32, 92], ascii "final\\"] (by decide) none 0 game

end SnapshotSample

end GamespyEmulator
