import GamespyEmulator.Browser.ServerBytes

/-!
List entries as the browser reads them: it skips the address part by the flags and
then reads one value per field of the response header. A string field is a literal
behind `0xFF` or an index into the popular list the header carried.

The entry stores the distance of a popular value from the end of the list.
`entry_decodes_iff` shows that the browser gets the server's values exactly when, for
every popular value sent, the list holds the same value at that distance from its
front.
-/

namespace GamespyEmulator

open Wire Fallible

/-! ### The browser's side -/

/-- A value as the browser sees it. -/
inductive FieldValue where
  | text (s : Bytes)
  | number (n : Nat)
deriving DecidableEq, Repr

/-- One field, and the bytes behind it. -/
def readValue (popular : List Bytes) : Send → Bytes → Option (FieldValue × Bytes)
  | .asString, b :: rest =>
      if b = literalMarker then (splitNul rest).map fun (s, rest) => (.text s, rest)
      else popular[b.toNat]?.map fun s => (.text s, rest)
  | .asByte, b :: rest => some (.number b.toNat, rest)
  | .asShort, hi :: lo :: rest => some (.number (readBe16 hi lo).toNat, rest)
  | _, _ => none

/-- The fields in header order. -/
def readValues (popular : List Bytes) : List Send → Bytes → Option (List FieldValue × Bytes)
  | [], bytes => some ([], bytes)
  | send :: sends, bytes => do
      let (value, bytes) ← readValue popular send bytes
      let (values, bytes) ← readValues popular sends bytes
      return (value :: values, bytes)

/-- The length of the address part that `flags` announces. -/
def headLength (flags : UInt8) : Nat :=
  4 + (if flags &&& ServerOptions.nonStandardPort ≠ 0 then 2 else 0) +
    (if flags &&& ServerOptions.privateIp ≠ 0 then 4 else 0) +
    (if flags &&& ServerOptions.nonStandardPrivatePort ≠ 0 then 2 else 0) +
    (if flags &&& ServerOptions.icmpIp ≠ 0 then 4 else 0)

/-- The values of an entry without rules; `none` unless it is used up exactly. -/
def readEntry (popular : List Bytes) (sends : List Send) (entry : Bytes) :
    Option (List FieldValue) :=
  match entry with
  | [] => none
  | flags :: rest =>
      match readValues popular sends (rest.drop (headLength flags)) with
      | some (values, []) => some values
      | _ => none

/-- What a value means on the wire: its text, or its number, zero when it is empty. -/
def meaning : Send → Bytes → FieldValue
  | .asString, value => .text value
  | .asByte, value => .number (Numeral.value value)
  | .asShort, value => .number (Numeral.value value)

/-! ### One field -/

/-- A popular value stands at its distance from the end of the list. -/
def Indexed (popular : List Bytes) (send : Send) (value : Bytes) : Prop :=
  send = .asString → value ∈ popular →
    popular[popular.length - popular.idxOf value]? = some value

section Field

variable {game : Game} {send : Send} {value bytes : Bytes}

theorem prepareNumber {limit : Nat} {trailing : EncodeError} {zero : Bytes} (write : Nat → Bytes)
    (same : write 0 = zero)
    (built : (if value.isEmpty then .ok zero else (numberValue limit trailing value).map write) =
      .ok bytes) :
    bytes = write (Numeral.value value) ∧ Numeral.value value ≤ limit := by
  split at built
  · rename_i empty
    rw [List.isEmpty_iff.mp empty, ← Except.ok.inj built, ← same]
    exact ⟨rfl, Nat.zero_le _⟩
  · obtain ⟨n, read, eq⟩ := map_eq_ok.mp built
    obtain ⟨-, -, rfl, small⟩ := Numeral.fromChars_whole.mp (numberValue_ok.mp read)
    exact ⟨eq.symm, small⟩

theorem prepareValue_byte (built : prepareValue game true .asByte value = .ok bytes) :
    bytes = [UInt8.ofNat (Numeral.value value)] ∧ Numeral.value value ≤ 255 :=
  prepareNumber (fun n => [UInt8.ofNat n]) rfl built

theorem prepareValue_short (built : prepareValue game true .asShort value = .ok bytes) :
    bytes = be16 (UInt16.ofNat (Numeral.value value)) ∧ Numeral.value value ≤ 65535 :=
  prepareNumber (fun n => be16 (UInt16.ofNat n)) rfl built

theorem prepareValue_string (built : prepareValue game true .asString value = .ok bytes) :
    (value ∈ game.popularValues ∧
      bytes = [UInt8.ofNat (game.popularValues.length - game.popularValues.idxOf value)]) ∨
    (value ∉ game.popularValues ∧ bytes = literalMarker :: terminated value) := by
  simp only [prepareValue, true_and] at built
  split at built
  · rename_i popular
    exact .inl ⟨popular, (Except.ok.inj built).symm⟩
  · rename_i rare
    exact .inr ⟨rare, (Except.ok.inj built).symm⟩

/-- The distance from the end fits the index byte. -/
theorem distance_toNat (game : Game) (value : Bytes) :
    (UInt8.ofNat (game.popularValues.length - game.popularValues.idxOf value)).toNat =
      game.popularValues.length - game.popularValues.idxOf value := by
  have := game.popularValues_le
  unfold maxPopularValues at this
  exact UInt8.toNat_ofNat_of_lt (by simp only [UInt8.size]; omega)

theorem readValue_byte (popular : List Bytes)
    (built : prepareValue game true .asByte value = .ok bytes) (rest : Bytes) :
    readValue popular .asByte (bytes ++ rest) = some (meaning .asByte value, rest) := by
  obtain ⟨rfl, small⟩ := prepareValue_byte built
  have : (UInt8.ofNat (Numeral.value value)).toNat = Numeral.value value :=
    UInt8.toNat_ofNat_of_lt (by simp only [UInt8.size]; omega)
  simp only [List.cons_append, List.nil_append, readValue, this, meaning]

theorem readValue_short (popular : List Bytes)
    (built : prepareValue game true .asShort value = .ok bytes) (rest : Bytes) :
    readValue popular .asShort (bytes ++ rest) = some (meaning .asShort value, rest) := by
  obtain ⟨rfl, small⟩ := prepareValue_short built
  have : (UInt16.ofNat (Numeral.value value)).toNat = Numeral.value value :=
    UInt16.toNat_ofNat_of_lt (by simp only [UInt16.size]; omega)
  simp only [be16, List.cons_append, List.nil_append, readValue, readBe16_be16, this, meaning]

/-- A field written for an indexed value reads back, whatever follows it. -/
theorem readValue_prepareValue (free : NulFree value)
    (built : prepareValue game true send value = .ok bytes)
    (indexed : Indexed game.popularValues send value) (rest : Bytes) :
    readValue game.popularValues send (bytes ++ rest) = some (meaning send value, rest) := by
  cases send with
  | asString =>
      rcases prepareValue_string built with ⟨popular, rfl⟩ | ⟨-, rfl⟩
      · have here := indexed rfl popular
        have inside := (List.getElem?_eq_some_iff.mp here).1
        have index := distance_toNat game value
        have notMarker : UInt8.ofNat (game.popularValues.length -
            game.popularValues.idxOf value) ≠ literalMarker := by
          intro marker
          have := game.popularValues_le
          unfold maxPopularValues at this
          rw [marker] at index
          simp only [literalMarker] at index
          have : (255 : UInt8).toNat = 255 := rfl
          omega
        simp [readValue, notMarker, index, here, meaning]
      · simp [readValue, free, meaning]
  | asByte => exact readValue_byte game.popularValues built rest
  | asShort => exact readValue_short game.popularValues built rest

theorem readValue_suffix {popular : List Bytes} {wire rest : Bytes} {v : FieldValue}
    (read : readValue popular send wire = some (v, rest)) : rest <:+ wire := by
  unfold readValue at read
  split at read
  · rename_i b tail
    split at read
    · obtain ⟨⟨s, tail'⟩, found, eq⟩ := Option.map_eq_some_iff.mp read
      cases eq
      rw [(splitNul_eq_some found).1]
      exact ((List.suffix_append _ _).trans (List.suffix_cons _ _) :)
    · obtain ⟨s, -, eq⟩ := Option.map_eq_some_iff.mp read
      cases eq
      exact List.suffix_cons _ _
  · cases read
    exact List.suffix_cons _ _
  · cases read
    exact List.suffix_append [_, _] _
  · cases read

/-- A field that reads as its own value takes at least the bytes written for it. -/
theorem readValue_length (built : prepareValue game true send value = .ok bytes)
    {wire rest : Bytes}
    (read : readValue game.popularValues send wire = some (meaning send value, rest)) :
    bytes.length + rest.length ≤ wire.length := by
  cases send with
  | asString =>
      cases wire with
      | nil => simp [readValue] at read
      | cons b tail =>
          simp only [readValue, meaning] at read
          split at read
          · -- Read as a literal: as long as the literal, longer than an index.
            obtain ⟨⟨s, tail'⟩, found, eq⟩ := Option.map_eq_some_iff.mp read
            cases eq
            rw [(splitNul_eq_some found).1]
            rcases prepareValue_string built with ⟨-, rfl⟩ | ⟨-, rfl⟩
            · simp only [List.length_cons, List.length_append, List.length_nil]
              omega
            · simp only [List.length_cons, List.length_append]
              omega
          · -- Read as an index: the value is popular, so an index was written.
            obtain ⟨s, found, eq⟩ := Option.map_eq_some_iff.mp read
            cases eq
            rcases prepareValue_string built with ⟨-, rfl⟩ | ⟨rare, -⟩
            · simp only [List.length_cons, List.length_nil]
              omega
            · exact absurd (List.mem_of_getElem? found) rare
  | asByte =>
      obtain ⟨rfl, -⟩ := prepareValue_byte built
      cases wire with
      | nil => simp [readValue] at read
      | cons b tail =>
          obtain ⟨-, rfl⟩ : _ ∧ tail = rest := by simpa [readValue, meaning] using read
          simp only [List.length_cons, List.length_nil]
          omega
  | asShort =>
      obtain ⟨rfl, -⟩ := prepareValue_short built
      rcases wire with _ | ⟨hi, _ | ⟨lo, tail⟩⟩
      · simp [readValue] at read
      · simp [readValue] at read
      · obtain ⟨-, rfl⟩ : _ ∧ tail = rest := by simpa [readValue, meaning] using read
        simp only [be16, List.length_cons, List.length_nil]
        omega

/-- A field that reads back over its own bytes was written for an indexed value. -/
theorem indexed_of_readValue (built : prepareValue game true send value = .ok bytes)
    {rest : Bytes}
    (read : readValue game.popularValues send (bytes ++ rest) = some (meaning send value, rest)) :
    Indexed game.popularValues send value := by
  rintro rfl popular
  rcases prepareValue_string built with ⟨-, rfl⟩ | ⟨rare, -⟩
  · simp only [List.cons_append, List.nil_append, readValue, meaning] at read
    split at read
    · obtain ⟨⟨s, tail⟩, found, eq⟩ := Option.map_eq_some_iff.mp read
      cases eq
      exact absurd (splitNul_length_lt found) (lt_irrefl _)
    · obtain ⟨s, found, eq⟩ := Option.map_eq_some_iff.mp read
      cases eq
      rwa [distance_toNat] at found
  · exact absurd popular rare

end Field

/-! ### All fields -/

section Fields

variable {game : Game} {server : ServerData}

/-- The values of the fields of a list. -/
def meanings (game : Game) (server : ServerData) (fieldList : List Bytes) : List FieldValue :=
  fieldList.map fun key => meaning (game.getParamSendType key) (server.value key)

theorem prepareValues_cons {usePopularList : Bool} {key : Bytes} {rest : List Bytes}
    {bytes : Bytes} (built : prepareValues game usePopularList server (key :: rest) = .ok bytes) :
    ∃ front back, prepareValue game usePopularList (game.getParamSendType key)
        (server.value key) = .ok front ∧ prepareValues game usePopularList server rest = .ok back ∧
      bytes = front ++ back := by
  rw [prepareValues] at built
  obtain ⟨front, first, built⟩ := bind_eq_ok.mp built
  obtain ⟨back, others, eq⟩ := bind_eq_ok.mp built
  exact ⟨front, back, first, others, (Except.ok.inj eq).symm⟩

theorem readValues_cons {popular : List Bytes} {send : Send} {sends : List Send} {wire rest : Bytes}
    {value : FieldValue} {values : List FieldValue} :
    readValues popular (send :: sends) wire = some (value :: values, rest) ↔
      ∃ tail, readValue popular send wire = some (value, tail) ∧
        readValues popular sends tail = some (values, rest) := by
  simp only [readValues, bind, Option.bind_eq_some_iff, pure, Option.some.injEq, Prod.mk.injEq,
    List.cons.injEq, Prod.exists]
  constructor
  · rintro ⟨v, tail, first, vs, rest', others, ⟨rfl, rfl⟩, rfl⟩
    exact ⟨tail, first, others⟩
  · rintro ⟨tail, first, others⟩
    exact ⟨value, tail, first, values, rest, others, ⟨rfl, rfl⟩, rfl⟩

theorem readValues_length {fieldList : List Bytes} {bytes wire rest : Bytes}
    (built : prepareValues game true server fieldList = .ok bytes)
    (read : readValues game.popularValues (fieldList.map game.getParamSendType) wire =
      some (meanings game server fieldList, rest)) : bytes.length + rest.length ≤ wire.length := by
  induction fieldList generalizing bytes wire with
  | nil =>
      cases built
      cases read
      simp
  | cons key others ih =>
      obtain ⟨front, back, first, builtRest, rfl⟩ := prepareValues_cons built
      obtain ⟨tail, readFirst, readRest⟩ := readValues_cons.mp read
      have := ih builtRest readRest
      have := readValue_length first readFirst
      rw [List.length_append]
      omega

/-- **The fields read back exactly when every value is indexed.** -/
theorem readValues_iff (free : ∀ key, NulFree (server.value key)) {fieldList : List Bytes}
    {bytes : Bytes} (built : prepareValues game true server fieldList = .ok bytes) :
    readValues game.popularValues (fieldList.map game.getParamSendType) bytes =
        some (meanings game server fieldList, []) ↔
      ∀ key ∈ fieldList,
        Indexed game.popularValues (game.getParamSendType key) (server.value key) := by
  induction fieldList generalizing bytes with
  | nil =>
      cases built
      simp [readValues, meanings]
  | cons key others ih =>
      obtain ⟨front, back, first, builtRest, rfl⟩ := prepareValues_cons built
      rw [List.forall_mem_cons, ← ih builtRest, List.map_cons, meanings, List.map_cons,
        readValues_cons]
      constructor
      · rintro ⟨tail, readFirst, readRest⟩
        -- Nothing is left over, so the first field took exactly its own bytes.
        have long := readValues_length builtRest readRest
        have short := readValue_length first readFirst
        rw [List.length_append] at short
        have same : tail = back := by
          refine (List.suffix_of_suffix_length_le (readValue_suffix readFirst)
            (List.suffix_append front back) (by omega)).eq_of_length (by simp at long; omega)
        subst same
        exact ⟨indexed_of_readValue first readFirst, readRest⟩
      · rintro ⟨indexed, readRest⟩
        exact ⟨back, readValue_prepareValue (free key) first indexed back, readRest⟩

end Fields

/-! ### Entries -/

theorem optionalPort_absent (flag : UInt8) (port : UInt16) : optionalPort flag false port = {} :=
  rfl

/-- The flags of a stored server announce the port and no other address part. -/
theorem headLength_saved (server : ServerData) (present : Bool) (port : UInt16) :
    headLength (ServerOptions.unsolicitedUdp |||
        (optionalPort ServerOptions.nonStandardPort present port).flag ||| 0 ||| 0 |||
        natnegFlag server ||| 0 ||| keysFlag server ||| 0) =
      4 + (optionalPort ServerOptions.nonStandardPort present port).bytes.length := by
  unfold natnegFlag keysFlag optionalPort
  split <;> split <;> split <;> simp only [be16, List.length_cons, List.length_nil] <;> decide

/-- The entry of a stored server: flags, an address part as long as they say, and the
values. -/
theorem prepareServer_saved {game : Game} {server : SavedServer} {fieldList : List Bytes}
    {entry : Bytes} (built : prepareServer game server.toServerData fieldList true = .ok entry) :
    ∃ flags head values, prepareValues game true server.toServerData fieldList = .ok values ∧
      head.length = headLength flags ∧ entry = flags :: (head ++ values) := by
  obtain ⟨address, read, built⟩ := bind_eq_ok.mp built
  obtain ⟨privateIp, none, built⟩ := bind_eq_ok.mp built
  obtain rfl : {} = privateIp := Except.ok.inj none
  obtain ⟨icmpIp, none, built⟩ := bind_eq_ok.mp built
  obtain rfl : {} = icmpIp := Except.ok.inj none
  obtain ⟨values, builtValues, entryEq⟩ := bind_eq_ok.mp built
  have four : address.length = 4 := by
    unfold addressBytes at read
    split at read
    · cases read
    · cases read
      rfl
  have shape := (Except.ok.inj entryEq).symm
  simp only [rulesPart, SavedServer.toServerData, List.isEmpty_nil, if_true, List.append_nil,
    bne_self_eq_false, optionalPort_absent, List.nil_append] at shape
  refine ⟨_, address ++ (optionalPort ServerOptions.nonStandardPort
    (server.publicPort != game.data.queryPort) server.publicPort).bytes, values, builtValues, ?_,
    shape.trans (by rw [List.append_assoc])⟩
  rw [headLength_saved, List.length_append, four]

/-- **The browser reads the server's values exactly when every popular value stands
at its distance from the end.** -/
theorem entry_decodes_iff {game : Game} {server : SavedServer} {fieldList : List Bytes}
    {entry : Bytes} (built : prepareServer game server.toServerData fieldList true = .ok entry) :
    readEntry game.popularValues (fieldList.map game.getParamSendType) entry =
        some (meanings game server.toServerData fieldList) ↔
      ∀ key ∈ fieldList,
        Indexed game.popularValues (game.getParamSendType key) (server.toServerData.value key) := by
  obtain ⟨flags, head, values, builtValues, length, rfl⟩ := prepareServer_saved built
  have free : ∀ key, NulFree (server.toServerData.value key) := by
    intro key
    unfold ServerData.value
    cases held : server.toServerData.data[key]? with
    | none => exact nulFree_nil
    | some value => exact server.data_free key value held
  rw [← readValues_iff free builtValues, readEntry, ← length, List.drop_left]
  cases readValues game.popularValues (fieldList.map game.getParamSendType) values with
  | none => simp
  | some out =>
      obtain ⟨values, rest⟩ := out
      cases rest <;> simp

namespace PopularSample

def data : GameData where
  name := ascii "gmtest"
  secretKey := ascii "HA6zkS"
  keys := []

/-- The game with a popular list of two countries, as `SetPopularValues` leaves it. -/
def game : Game :=
  { Game.empty data with
    popularValues := [ascii "US", ascii "DE"]
    popularValues_le := by decide }

theorem game_set : (Game.empty data).setPopularValues [ascii "US", ascii "DE"] = .ok game := rfl

def server (country : Bytes) (free : NulFree country) : SavedServer where
  publicIp := ascii "192.168.0.7"
  publicPort := 6500
  data := OrdMap.emplaceAll [(ascii "country", country)] ∅
  data_free := by
    intro key value held
    rcases OrdMap.emplaceAll_getElem?_source held with mem | absent
    · cases List.mem_singleton.mp mem
      exact free
    · simp at absent

/-- Address, flags, and one index. -/
def entry (index : UInt8) : Bytes := [65, 192, 168, 0, 7, index]

/-- The second of two popular values is at distance one from the end, and second. -/
theorem entry_decodes_second :
    readEntry game.popularValues ([ascii "country"].map game.getParamSendType) (entry 1) =
        some (meanings game (server (ascii "DE") (by decide)).toServerData [ascii "country"]) ↔
      ∀ key ∈ [ascii "country"], Indexed game.popularValues (game.getParamSendType key)
        ((server (ascii "DE") (by decide)).toServerData.value key) :=
  @entry_decodes_iff game (server (ascii "DE") (by decide)) [ascii "country"] (entry 1)
    rfl

/-- The first of two popular values is sent as index two, which selects nothing. -/
theorem entry_decodes_fails_first :
    ¬ ∀ (data : GameData) (popularValues : List Bytes) (game : Game),
      (Game.empty data).setPopularValues popularValues = .ok game →
      (∀ value ∈ popularValues, NulFree value) →
      ∀ (server : SavedServer) (fieldList : List Bytes) (entry : Bytes),
        prepareServer game server.toServerData fieldList true = .ok entry →
        readEntry popularValues (fieldList.map game.getParamSendType) entry =
          some (meanings game server.toServerData fieldList) := by
  intro decodes
  have read := decodes data _ game game_set (by decide) (server (ascii "US") (by decide))
    [ascii "country"] (entry 2) rfl
  revert read
  decide

end PopularSample

end GamespyEmulator
