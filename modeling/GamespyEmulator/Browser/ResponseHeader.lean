import GamespyEmulator.Browser.RequestSoundness
import GamespyEmulator.Game.Basic

/-!
The response header of `GetResponseHeaderBytes` and the browser that decodes it. Both lists
in it follow a count of one byte. `SetPopularValues` keeps the popular values within that;
the field list is bounded by the length of its text only, which leaves room for one list too
many: 256 names, all of them empty.
-/

namespace GamespyEmulator

open Wire Fallible

/-! ### The fields of a parsed request -/

theorem mem_intercalate {sep field : Bytes} {fields : List Bytes} {c : UInt8}
    (mem : field ∈ fields) (char : c ∈ field) : c ∈ sep.intercalate fields := by
  induction fields with
  | nil => cases mem
  | cons first rest ih =>
      cases rest with
      | nil =>
          cases List.mem_singleton.mp mem
          simpa [List.intercalate] using char
      | cons second rest =>
          have joined : sep.intercalate (first :: second :: rest) =
              first ++ (sep ++ sep.intercalate (second :: rest)) := by
            simp [List.intercalate]
          rw [joined, List.mem_append, List.mem_append]
          rcases List.mem_cons.mp mem with rfl | later
          · exact .inl char
          · exact .inr (.inr (ih later))

theorem extractFieldList_free {pos rest : Bytes} {fields : List Bytes}
    (extracted : extractFieldList pos = .ok (fields, rest)) : ∀ field ∈ fields, NulFree field := by
  unfold extractFieldList at extracted
  obtain ⟨⟨fieldStr, rest'⟩, string, extracted⟩ := bind_eq_ok.mp extracted
  have free := (extractString_eq_ok string).2
  dsimp only at extracted
  split at extracted
  · cases extracted
  · rename_i first names
    split at extracted
    · cases extracted
    · cases extracted
      intro field mem zero
      split at mem
      · cases mem
      · have inside := @mem_intercalate [backslash] _ _ _ mem zero
        rw [List.intercalate_splitOn] at inside
        exact free (List.mem_cons_of_mem first inside)

theorem parse_fields {packet : Bytes} {r : ServerListRequest}
    (parsed : ServerListRequest.parse packet = .ok r) : ∀ field ∈ r.fieldList, NulFree field := by
  unfold ServerListRequest.parse at parsed
  split at parsed
  · cases parsed
  · split at parsed
    · split at parsed
      · cases parsed
      · split at parsed
        · cases parsed
        · unfold ServerListRequest.extract at parsed
          obtain ⟨⟨gameversion, pos⟩, -, parsed⟩ := bind_eq_ok.mp parsed
          obtain ⟨⟨fromGame, pos⟩, -, parsed⟩ := bind_eq_ok.mp parsed
          obtain ⟨⟨toGame, pos⟩, -, parsed⟩ := bind_eq_ok.mp parsed
          obtain ⟨⟨challenge, pos⟩, -, parsed⟩ := bind_eq_ok.mp parsed
          obtain ⟨⟨serverFilter, pos⟩, -, parsed⟩ := bind_eq_ok.mp parsed
          obtain ⟨⟨fieldList, pos⟩, fields, parsed⟩ := bind_eq_ok.mp parsed
          obtain ⟨⟨options, pos⟩, -, parsed⟩ := bind_eq_ok.mp parsed
          obtain ⟨⟨alternateIP, pos⟩, -, parsed⟩ := bind_eq_ok.mp parsed
          obtain ⟨⟨limit, pos⟩, -, parsed⟩ := bind_eq_ok.mp parsed
          cases parsed
          exact extractFieldList_free fields
    · cases parsed

/-! ### The header -/

/-- `std::to_underlying` of a send type. -/
def Send.toByte : Send → UInt8
  | .asString => 0
  | .asByte => 1
  | .asShort => 2

def Send.ofByte : UInt8 → Option Send
  | 0 => some .asString
  | 1 => some .asByte
  | 2 => some .asShort
  | _ => none

@[simp] theorem Send.ofByte_toByte (send : Send) : ofByte send.toByte = some send := by
  cases send <;> rfl

/-- The text for a game without a query port; the literal keeps its terminator. -/
def noMultiplayer : Bytes := terminated (terminated (ascii "Game does not support multiplayer!"))

def encodeField (game : Game) (field : Bytes) : Bytes :=
  (game.getParamSendType field).toByte :: terminated field

/-- `ServerListRequest::GetResponseHeaderBytes`. -/
def ServerListRequest.getResponseHeaderBytes (r : ServerListRequest) (forGame : Game)
    (socketIP : UInt32) : Bytes :=
  let queryPort := forGame.data.queryPort
  let response := toBytes socketIP ++ (be16 queryPort ++
    if queryPort = 0xFFFF then noMultiplayer else [])
  if r.options.shares Options.noServerList ∨ queryPort = 0xFFFF then response
  else
    response ++
      (UInt8.ofNat r.fieldList.length :: (r.fieldList.flatMap (encodeField forGame) ++
        (UInt8.ofNat forGame.popularValues.length :: strings forGame.popularValues)))

/-! ### The browser's side -/

section Counted

variable {A : Type} (read : Bytes → Option (A × Bytes))

/-- So many items, one behind the other. -/
def readCounted : Nat → Bytes → Option (List A × Bytes)
  | 0, bytes => some ([], bytes)
  | n + 1, bytes =>
      (read bytes).bind fun (item, bytes) =>
        (readCounted n bytes).map fun (items, bytes) => (item :: items, bytes)

variable {read}

/-- Items that read back one by one read back together. -/
theorem readCounted_flatMap {B : Type} {write : B → Bytes} {item : B → A} {items : List B}
    (reads : ∀ b ∈ items, ∀ rest, read (write b ++ rest) = some (item b, rest)) (rest : Bytes) :
    readCounted read items.length (items.flatMap write ++ rest) = some (items.map item, rest) := by
  induction items with
  | nil => rfl
  | cons b items ih =>
      obtain ⟨first, others⟩ := List.forall_mem_cons.mp reads
      rw [List.length_cons, readCounted, List.flatMap_cons, List.append_assoc, first,
        Option.bind_some]
      dsimp only
      rw [ih others]
      rfl

theorem readCounted_length {n : Nat} {bytes rest : Bytes} {items : List A}
    (found : readCounted read n bytes = some (items, rest)) : items.length = n := by
  induction n generalizing bytes items with
  | zero =>
      cases found
      rfl
  | succ n ih =>
      obtain ⟨⟨item, bytes'⟩, -, found⟩ := Option.bind_eq_some_iff.mp found
      obtain ⟨⟨items', rest'⟩, later, made⟩ := Option.map_eq_some_iff.mp found
      cases made
      rw [List.length_cons, ih later]

end Counted

/-- A response header as a browser sees it. -/
structure ResponseHeader where
  address : UInt32
  port : UInt16
  fields : List (Send × Bytes)
  popularValues : List Bytes
deriving DecidableEq, Repr

def readField : Bytes → Option ((Send × Bytes) × Bytes)
  | [] => none
  | type :: bytes =>
      (Send.ofByte type).bind fun send =>
        (splitNul bytes).map fun (name, rest) => ((send, name), rest)

/-- A count, and so many items. -/
def readList {A : Type} (read : Bytes → Option (A × Bytes)) : Bytes → Option (List A × Bytes)
  | [] => none
  | count :: bytes => readCounted read count.toNat bytes

/-- The whole header; `none` unless it is used up exactly. -/
def ResponseHeader.decode : Bytes → Option ResponseHeader
  | a₀ :: a₁ :: a₂ :: a₃ :: hi :: lo :: bytes =>
      (readList readField bytes).bind fun (fields, bytes) =>
        (readList splitNul bytes).bind fun (popularValues, rest) =>
          if rest.isEmpty then
            some ⟨readBe32 a₀ a₁ a₂ a₃, readBe16 hi lo, fields, popularValues⟩
          else none
  | _ => none

/-! ### Round trip -/

theorem readField_encodeField {game : Game} {field : Bytes} (free : NulFree field) (rest : Bytes) :
    readField (encodeField game field ++ rest) =
      some ((game.getParamSendType field, field), rest) := by
  rw [encodeField, List.cons_append, readField, Send.ofByte_toByte, Option.bind_some,
    splitNul_terminated free]
  rfl

/-- A list reads back when its length fits its count. -/
theorem readList_encode {A B : Type} {read : Bytes → Option (A × Bytes)} {write : B → Bytes}
    {item : B → A} {items : List B} (short : items.length ≤ 255)
    (reads : ∀ b ∈ items, ∀ rest, read (write b ++ rest) = some (item b, rest)) (rest : Bytes) :
    readList read (UInt8.ofNat items.length :: (items.flatMap write ++ rest)) =
      some (items.map item, rest) := by
  have count : (UInt8.ofNat items.length).toNat = items.length :=
    UInt8.toNat_ofNat_of_lt (by simp only [UInt8.size]; omega)
  rw [readList, count, readCounted_flatMap reads]

/-- A list that was read is no longer than a count says. -/
theorem readList_length {A : Type} {read : Bytes → Option (A × Bytes)} {bytes rest : Bytes}
    {items : List A} (found : readList read bytes = some (items, rest)) : items.length ≤ 255 := by
  unfold readList at found
  split at found
  · cases found
  · rename_i count bytes
    rw [readCounted_length found]
    exact Nat.le_of_lt_succ count.toNat_lt

/-- What a browser should see for a request. -/
def ServerListRequest.header (r : ServerListRequest) (game : Game) (socketIP : UInt32) :
    ResponseHeader where
  address := socketIP
  port := game.data.queryPort
  fields := r.fieldList.map fun field => (game.getParamSendType field, field)
  popularValues := game.popularValues

section RoundTrip

variable {r : ServerListRequest} {game : Game} {socketIP : UInt32}

/-- The header behind the endpoint. -/
theorem getResponseHeaderBytes_lists (lists : ¬ r.options.shares Options.noServerList)
    (port : game.data.queryPort ≠ 0xFFFF) :
    r.getResponseHeaderBytes game socketIP = toBytes socketIP ++ (be16 game.data.queryPort ++
      (UInt8.ofNat r.fieldList.length :: (r.fieldList.flatMap (encodeField game) ++
        (UInt8.ofNat game.popularValues.length :: strings game.popularValues)))) := by
  have both : ¬ (r.options.shares Options.noServerList = true ∨ game.data.queryPort = 0xFFFF) :=
    not_or.mpr ⟨lists, port⟩
  rw [ServerListRequest.getResponseHeaderBytes, if_neg both, if_neg port, List.append_nil,
    List.append_assoc]

theorem decode_header (lists : ¬ r.options.shares Options.noServerList)
    (port : game.data.queryPort ≠ 0xFFFF) (fields : ∀ field ∈ r.fieldList, NulFree field)
    (popular : ∀ value ∈ game.popularValues, NulFree value) (short : r.fieldList.length ≤ 255) :
    ResponseHeader.decode (r.getResponseHeaderBytes game socketIP) =
      some (r.header game socketIP) := by
  have fieldList := @readList_encode _ _ readField (encodeField game) _ r.fieldList short
    (fun field mem rest => readField_encodeField (fields field mem) rest)
    (UInt8.ofNat game.popularValues.length :: (strings game.popularValues ++ []))
  have values := @readList_encode _ _ splitNul terminated id game.popularValues
    game.popularValues_le (fun value mem rest => splitNul_terminated (popular value mem) rest) []
  rw [List.append_nil] at fieldList
  rw [List.append_nil, List.map_id] at values
  rw [getResponseHeaderBytes_lists lists port]
  simp only [toBytes, be32, be16, List.cons_append, List.nil_append, ResponseHeader.decode,
    readBe32_be32, readBe16_be16]
  rw [fieldList, Option.bind_some]
  dsimp only
  rw [strings, values]
  rfl

end RoundTrip

/-- No decoded header has more fields than a count says. -/
theorem decode_fields_le {bytes : Bytes} {header : ResponseHeader}
    (decoded : ResponseHeader.decode bytes = some header) : header.fields.length ≤ 255 := by
  unfold ResponseHeader.decode at decoded
  split at decoded
  · obtain ⟨⟨fields, bytes⟩, fieldList, decoded⟩ := Option.bind_eq_some_iff.mp decoded
    obtain ⟨⟨values, rest⟩, -, decoded⟩ := Option.bind_eq_some_iff.mp decoded
    dsimp only at decoded
    split at decoded
    · cases decoded
      exact readList_length fieldList
    · cases decoded
  · cases decoded

/-- **A header decodes to what was asked for exactly when the field list fits its count.** -/
theorem header_decodes_iff {packet : Bytes} {r : ServerListRequest} {game game' : Game}
    {values : List Bytes} (parsed : ServerListRequest.parse packet = .ok r)
    (lists : ¬ r.options.shares Options.noServerList)
    (accepted : game.setPopularValues values = .ok game') (popular : ∀ value ∈ values, NulFree value)
    (port : game'.data.queryPort ≠ 0xFFFF) (socketIP : UInt32) :
    ResponseHeader.decode (r.getResponseHeaderBytes game' socketIP) =
        some ⟨socketIP, game'.data.queryPort,
          r.fieldList.map fun field => (game'.getParamSendType field, field), values⟩ ↔
      r.fieldList.length ≤ 255 := by
  have held : game'.popularValues = values := by
    unfold Game.setPopularValues at accepted
    split at accepted
    · cases accepted
      rfl
    · cases accepted
  constructor
  · intro decoded
    have short := decode_fields_le decoded
    rwa [List.length_map] at short
  · intro short
    subst held
    exact decode_header lists port (parse_fields parsed) popular short

namespace HeaderSample

/-- One key for every way to send a value. -/
def data : GameData where
  name := ascii "battlefield2"
  secretKey := ascii "hW6m9a"
  keys := [{ name := ascii "hostname" }, { name := ascii "numplayers", send := .asByte },
    { name := ascii "hostport", send := .asShort }]

/-- The game with its keys, as `Connect` leaves it. -/
def game : Game where
  data := data
  params := OrdMap.emplaceAll (data.keys.map fun key => (key.name, key)) ∅
  popularValues := []
  table := ⟨data.keys.map GameKey.column, ∅⟩
  subscribers := []
  popularValues_le := Nat.zero_le _
  params_columns := by
    intro name mem
    rcases OrdMap.mem_emplaceAll.mp mem with absent | listed
    · simp at absent
    · simpa [GameKey.column] using listed

/-- A request for the fields with these names. -/
def packet (names : List Bytes) : Bytes :=
  [1, 3, 0, 0, 0, 0] ++ terminated (ascii "gamespy2") ++ terminated (ascii "battlefield2") ++
    ascii "AAAAAAAA" ++ terminated [] ++ terminated (names.flatMap fun name => backslash :: name) ++
    [0, 0, 0, 0]

def request (names : List Bytes) : ServerListRequest where
  protocolVersion := 1
  encodingVersion := 3
  fromGameVersion := 0
  fromGame := ascii "gamespy2"
  toGame := ascii "battlefield2"
  challenge := Vector.replicate 8 65
  serverFilter := []
  fieldList := names
  options := 0
  alternateSourceIP := none
  limitResultCount := none

def names : List Bytes := [ascii "hostname", ascii "numplayers", ascii "hostport"]

def values : List Bytes := [ascii "gpm_cq", ascii "US"]

/-- Three fields, each sent in another way, and two popular values. -/
theorem header_decodes_three :
    ResponseHeader.decode ((request names).getResponseHeaderBytes
        { game with popularValues := values, popularValues_le := by decide } 0x7F000001) =
      some ⟨0x7F000001, 6500,
        [(.asString, ascii "hostname"), (.asByte, ascii "numplayers"), (.asShort, ascii "hostport")],
        [ascii "gpm_cq", ascii "US"]⟩ :=
  (@header_decodes_iff (packet names) (request names) game
    { game with popularValues := values, popularValues_le := by decide } values
    (by decide +kernel) (by decide) rfl (by decide) (by decide) 0x7F000001).mpr (by decide)

/-- The count of 256 fields is zero, and their names are taken for popular values. -/
theorem header_decodes_fails_256 :
    ServerListRequest.parse (packet (.replicate 256 [])) = .ok (request (.replicate 256 [])) ∧
      ResponseHeader.decode ((request (.replicate 256 [])).getResponseHeaderBytes (.empty data) 0) =
        none := by
  decide +kernel

end HeaderSample

end GamespyEmulator
