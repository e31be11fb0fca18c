import GamespyEmulator.Master.LostReplies
import GamespyEmulator.Player.Password

/-!
The challenge and its honest answer, for every game, endpoint and challenge prefix. The
fields of a challenge have fixed widths, so its proof needs no padding; the cipher's box
stays a permutation; and a datagram that carries the proof is accepted.
-/

namespace GamespyEmulator

open Wire

/-! ### The challenge -/

section Challenge

variable (game : Game) (client : Endpoint) (picks : Vector (Fin challengeTable.length) 7)

/-- Seven random characters, then two, eight and four for the hexadecimal fields. -/
theorem challengeText_length : (challengeText game client picks).length = 21 := by
  have backend : (Numeral.hexUpper game.data.backend.toNat).length ≤ 2 := by
    refine Numeral.hexUpper_length (by decide) ?_
    cases game.data.backend <;> decide
  have address := @Numeral.hexUpper_length client.address.toNat 8 (by decide)
    client.address.toNat_lt
  have port := @Numeral.hexUpper_length client.port.toNat 4 (by decide) client.port.toNat_lt
  simp [challengeText, Utils.randomString, Numeral.padLeft_length backend,
    Numeral.padLeft_length address, Numeral.padLeft_length port]

theorem challengeText_nulFree : NulFree (challengeText game client picks) := by
  have prefixFree : NulFree (Utils.randomString challengeTable picks.toList) := by
    intro mem
    obtain ⟨i, -, zero⟩ := List.mem_map.mp mem
    have outside : (0 : UInt8) ∉ challengeTable := by decide
    exact outside (zero ▸ List.get_mem challengeTable i)
  have field (width n : Nat) : NulFree (Numeral.padLeft width (Numeral.hexUpper n)) :=
    Numeral.padLeft_nulFree (Numeral.hexUpper_nulFree n) width
  rw [challengeText]
  simp only [nulFree_append]
  exact ⟨⟨⟨prefixFree, field _ _⟩, field _ _⟩, field _ _⟩

end Challenge

/-! ### The cipher -/

namespace Utils

/-- 64 bits wrap at a multiple of the box size, so a negative sum is reduced as it is. -/
theorem index_val (x : Int) : ((index x).val : Int) = x % 256 := by
  simp only [index]
  omega

/-- A permutation of 0..255. -/
def SBox.Permutes (sbox : SBox) : Prop := sbox.Perm SBox.initial

theorem SBox.permutes_iff {sbox : SBox} :
    sbox.Permutes ↔ sbox.toList.Perm ((List.range 256).map UInt8.ofNat) := by
  have listed : SBox.initial.toList = (List.range 256).map UInt8.ofNat := by decide +kernel
  rw [Permutes, Vector.perm_iff_toList_perm, listed]

theorem SBox.Permutes.swap {sbox : SBox} (permutes : sbox.Permutes) (i j : Fin 256) :
    SBox.Permutes (sbox.swap i j i.isLt j.isLt) :=
  (Vector.swap_perm i.isLt j.isLt).trans permutes

/-- The box after the first rounds of the key schedule. -/
def scheduled (key : Bytes) (rounds : Nat) : SBox :=
  (((List.finRange 256).take rounds).foldl (scheduleRound key) (SBox.initial, index 0)).1

theorem scheduled_all (key : Bytes) : scheduled key 256 = keySchedule key := by
  have start : index 0 = 0 := rfl
  rw [scheduled, List.take_of_length_le (by simp), start, keySchedule]

theorem scheduled_permutes (key : Bytes) (rounds : Nat) : (scheduled key rounds).Permutes := by
  have kept : ∀ (turns : List (Fin 256)) (st : SBox × Fin 256), st.1.Permutes →
      (turns.foldl (scheduleRound key) st).1.Permutes := by
    intro turns
    induction turns with
    | nil => exact fun st permutes => permutes
    | cons i turns ih => exact fun st permutes => ih _ (permutes.swap i _)
  exact kept _ _ (Vector.Perm.refl _)

/-- The generator behind a text. -/
def Generator.after (gen : Generator) (text : Bytes) : Generator :=
  text.foldl (fun gen c => (gen.cipherChar c).1) gen

theorem Generator.cipherChar_permutes {gen : Generator} (permutes : gen.sbox.Permutes) (c : UInt8) :
    (gen.cipherChar c).1.sbox.Permutes := by
  rw [cipherChar]
  exact permutes.swap _ _

theorem Generator.after_permutes {gen : Generator} (permutes : gen.sbox.Permutes) (text : Bytes) :
    (gen.after text).sbox.Permutes := by
  induction text generalizing gen with
  | nil => exact permutes
  | cons c text ih => exact ih (cipherChar_permutes permutes c)

theorem Generator.cipher_length (gen : Generator) (text : Bytes) :
    (gen.cipher text).length = text.length := by
  induction text generalizing gen with
  | nil => rfl
  | cons c text ih => simp [cipher, ih]

/-! ### The proof -/

/-- Three bytes are four characters. -/
theorem sextets_length {data : Bytes} (whole : data.length % 3 = 0) :
    (sextets data).length = data.length / 3 * 4 := by
  induction data using sextets.induct with
  | case1 => rfl
  | case2 a => cases whole
  | case3 a b => cases whole
  | case4 a b c rest ih =>
      simp only [List.length_cons] at whole ⊢
      rw [sextets, List.length_cons, List.length_cons, List.length_cons, List.length_cons,
        ih (by omega)]
      omega

theorem base64Char_mem {sextet : UInt8} (small : sextet.toNat < 64) :
    base64Char sextet ∈ base64Table := by
  have size : base64Table.length = 64 := rfl
  rw [base64Char, List.getD_eq_getElem _ _ (size ▸ small)]
  exact List.getElem_mem _

/-- Without padding every character is one of the table's. -/
theorem base64Encode_mem {data : Bytes} (whole : data.length % 3 = 0) :
    ∀ c ∈ base64Encode data, c ∈ base64Table := by
  intro c mem
  rw [base64Encode, whole] at mem
  obtain ⟨sextet, inside, rfl⟩ := List.mem_map.mp (by simpa using mem)
  exact base64Char_mem (sextets_small data sextet inside)

theorem base64Encode_length {data : Bytes} (whole : data.length % 3 = 0) :
    (base64Encode data).length = data.length / 3 * 4 := by
  rw [base64Encode, whole, List.length_append, List.length_map, sextets_length whole]
  rfl

theorem nulFree_of_base64 {text : Bytes} (base64 : ∀ c ∈ text, c ∈ base64Table) : NulFree text := by
  intro mem
  have outside : (0 : UInt8) ∉ base64Table := by decide
  exact outside (base64 0 mem)

end Utils

/-! ### The answer -/

/-- The datagram is a challenge packet that carries a text and a terminating NUL. -/
def Datagram.Carries (d : Datagram) (text : Bytes) : Prop :=
  ∃ k₀ k₁ k₂ k₃ : UInt8, d.bytes = 1 :: k₀ :: k₁ :: k₂ :: k₃ :: terminated text

theorem Datagram.Carries.answer? {d : Datagram} {text : Bytes} (carries : d.Carries text)
    (free : NulFree text) : d.answer? = some text := by
  obtain ⟨k₀, k₁, k₂, k₃, bytes⟩ := carries
  have parsed : QRPacket.parse (Span.whole d.bytes) =
      .ok ⟨.challenge, [k₀, k₁, k₂, k₃], (Span.whole d.bytes).subspan 5⟩ := by
    simp [QRPacket.parse, bytes, PacketType.ofByte, terminated]
  have read : cstr (terminated text) = text := by
    rw [terminated, cstr, List.takeWhile_append_of_pos]
    · simp
    · intro c mem
      have nonzero : c ≠ 0 := fun zero => free (zero ▸ mem)
      simpa using nonzero
  have size : ((Span.whole d.bytes).subspan 5).size ≠ 0 := by
    simp [Span.subspan, Span.whole, bytes, terminated]
  unfold Datagram.answer?
  rw [parsed]
  dsimp only
  rw [if_neg size, Span.bytes_subspan, Span.bytes_whole, bytes]
  exact congrArg some read

/-- What holds of a game's challenges and of their honest answers. -/
structure HonestAnswer (sqlite : Sqlite) (game : Game) (client : Endpoint)
    (picks : Vector (Fin challengeTable.length) 7) : Prop where
  challenge : (challengeText game client picks).length = 21 ∧
    NulFree (challengeText game client picks)
  /-- The sums that index the box are reduced as integers, also below zero. -/
  indices : ∀ x : Int, (Utils.index x).val < 256 ∧ ((Utils.index x).val : Int) = x % 256
  schedule : ∀ rounds, (Utils.scheduled game.data.secretKey rounds).Permutes
  cipher : ∀ front, front <+: challengeText game client picks →
    (Utils.Generator.after ⟨Utils.keySchedule game.data.secretKey, 0, 0⟩ front).sbox.Permutes
  proof : (Utils.encode game.data.secretKey (challengeText game client picks)).length = 28 ∧
    ∀ c ∈ Utils.encode game.data.secretKey (challengeText game client picks),
      c ∈ Utils.base64Table
  /-- The heartbeat that the challenge answers leaves its proof in the pending entry. -/
  stored : ∀ (m : Machine) (d : Datagram) (heartbeat : QRHeartbeatPacket) (gamename : Bytes)
    (sent : Bool), Machine.Hears m d heartbeat gamename game → d.client = client →
    d.picks = picks → client ∉ m.server.validated →
    m.server.awaitingValidation[client]? = none →
    (m.step sqlite (.datagram d sent)).2 =
        [.challenge client heartbeat.instanceKey (challengeText game client picks)] ∧
      ∃ entry, (m.step sqlite (.datagram d sent)).1.server.awaitingValidation[client]? =
          some entry ∧
        entry.proof = Utils.encode game.data.secretKey (challengeText game client picks)
  /-- While it is pending, the proof is accepted, whatever the receive buffer held before. -/
  accepted : ∀ (m : Machine) (d : Datagram) (entry : ServerEntry) (sent : Bool),
    m.receiving = true → d.client = client → m.server.awaitingValidation[client]? = some entry →
    entry.proof = Utils.encode game.data.secretKey (challengeText game client picks) →
    d.Carries (Utils.encode game.data.secretKey (challengeText game client picks)) →
    (m.step sqlite (.datagram d sent)).2 = [.registered client entry.instanceKey] ∧
      client ∈ (m.step sqlite (.datagram d sent)).1.server.validated

/-- **An honest answer is always accepted**, for every secret key, endpoint, backend option
and challenge prefix. -/
theorem honest_answer (sqlite : Sqlite) (game : Game) (client : Endpoint)
    (picks : Vector (Fin challengeTable.length) 7) : HonestAnswer sqlite game client picks := by
  have length := challengeText_length game client picks
  have enciphered : (Utils.Generator.cipher ⟨Utils.keySchedule game.data.secretKey, 0, 0⟩
      (challengeText game client picks)).length = 21 := by
    rw [Utils.Generator.cipher_length, length]
  have whole : (Utils.Generator.cipher ⟨Utils.keySchedule game.data.secretKey, 0, 0⟩
      (challengeText game client picks)).length % 3 = 0 := by rw [enciphered]
  have base64 := Utils.base64Encode_mem whole
  have size := Utils.base64Encode_length whole
  rw [enciphered] at size
  constructor
  · exact ⟨length, challengeText_nulFree game client picks⟩
  · exact fun x => ⟨(Utils.index x).isLt, Utils.index_val x⟩
  · exact Utils.scheduled_permutes game.data.secretKey
  · intro front _
    refine Utils.Generator.after_permutes ?_ front
    rw [← Utils.scheduled_all]
    exact Utils.scheduled_permutes game.data.secretKey 256
  · exact ⟨size, base64⟩
  · rintro m d heartbeat gamename sent hears rfl rfl invalid unheld
    obtain ⟨sends, held⟩ := Machine.step_first hears invalid unheld
    exact ⟨sends, _, held, rfl⟩
  · rintro m d entry sent live rfl held proof carries
    have answers : d.answer? = some entry.proof := by
      rw [proof]
      exact carries.answer? (Utils.nulFree_of_base64 base64)
    exact Machine.step_answer live held answers

end GamespyEmulator
