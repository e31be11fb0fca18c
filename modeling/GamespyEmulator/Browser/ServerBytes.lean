import GamespyEmulator.Game.Basic
import GamespyEmulator.Lib.Fallible

/-!
Server entries: `PrepareServer` of `sb_request.cpp`, the push messages the browser
client builds around it, and the list loop of `HandleServerListRequest`.
-/

namespace GamespyEmulator

open Wire Fallible

namespace ServerOptions

def unsolicitedUdp : UInt8 := 1
def privateIp : UInt8 := 2
def connectNegotiate : UInt8 := 4
def icmpIp : UInt8 := 8
def nonStandardPort : UInt8 := 16
def nonStandardPrivatePort : UInt8 := 32
def hasKeys : UInt8 := 64
def hasFullRules : UInt8 := 128

end ServerOptions

/-! ### The parts of an entry -/

/-- `make_address_v4(text).to_bytes()`. -/
def addressBytes (text : Bytes) : Except EncodeError Bytes :=
  match makeAddressV4 text with
  | none => .error .invalidAddress
  | some address => .ok (toBytes address)

/-- An optional part of an entry: the flag that announces it and its bytes. -/
structure EntryPart where
  flag : UInt8 := 0
  bytes : Bytes := []

/-- An address that is left out when its text is empty. -/
def optionalAddress (flag : UInt8) (text : Bytes) : Except EncodeError EntryPart :=
  if text.isEmpty then .ok {} else (addressBytes text).map fun bytes => ⟨flag, bytes⟩

def optionalPort (flag : UInt8) (present : Bool) (port : UInt16) : EntryPart :=
  if present then ⟨flag, be16 port⟩ else {}

def natnegFlag (server : ServerData) : UInt8 :=
  if server.data[ascii "natneg"]? = some (ascii "1") then ServerOptions.connectNegotiate else 0

def keysFlag (server : ServerData) : UInt8 :=
  if server.data.isEmpty then 0 else ServerOptions.hasKeys

def rulesPart (server : ServerData) : EntryPart :=
  if server.rules.isEmpty then {} else ⟨ServerOptions.hasFullRules, terminated server.rules⟩

/-- A number read with `from_chars`, which must end where the value ends. -/
def numberValue (limit : Nat) (trailing : EncodeError) (value : Bytes) : Except EncodeError Nat :=
  match Numeral.fromChars limit value with
  | .invalidArgument => .error .invalidArgument
  | .resultOutOfRange => .error .resultOutOfRange
  | .ok number rest => if rest.isEmpty then .ok number else .error trailing

/-- The marker of a literal string. -/
def literalMarker : UInt8 := 0xFF

/-- One key's value. A popular string is sent as its distance from the end of the
popular list. -/
def prepareValue (game : Game) (usePopularList : Bool) (sendAs : Send) (value : Bytes) :
    Except EncodeError Bytes :=
  match sendAs with
  | .asString =>
      if usePopularList ∧ value ∈ game.popularValues then
        .ok [UInt8.ofNat (game.popularValues.length - game.popularValues.idxOf value)]
      else .ok (literalMarker :: terminated value)
  | .asByte =>
      if value.isEmpty then .ok [0]
      else (numberValue 255 .invalidByteValue value).map fun n => [UInt8.ofNat n]
  | .asShort =>
      if value.isEmpty then .ok [0, 0]
      else (numberValue 65535 .invalidShortValue value).map fun n => be16 (UInt16.ofNat n)

/-- The values of the requested keys, in the order of the field list. -/
def prepareValues (game : Game) (usePopularList : Bool) (server : ServerData) :
    List Bytes → Except EncodeError Bytes
  | [] => .ok []
  | key :: rest => do
      let value ← prepareValue game usePopularList (game.getParamSendType key) (server.value key)
      let values ← prepareValues game usePopularList server rest
      return value ++ values

/-! ### Entries -/

/-- `PrepareServer` around the loop over the field list. -/
def prepareAround (game : Game) (server : ServerData) (keyValues : Except EncodeError Bytes) :
    Except EncodeError Bytes := do
  let publicIp ← addressBytes server.publicIp
  let port := optionalPort ServerOptions.nonStandardPort
    (server.publicPort != game.data.queryPort) server.publicPort
  let privateIp ← optionalAddress ServerOptions.privateIp server.privateIp
  let privatePort := optionalPort ServerOptions.nonStandardPrivatePort
    (server.privatePort != 0) server.privatePort
  let icmpIp ← optionalAddress ServerOptions.icmpIp server.icmpIp
  let values ← keyValues
  let rules := rulesPart server
  return (ServerOptions.unsolicitedUdp ||| port.flag ||| privateIp.flag ||| privatePort.flag |||
      natnegFlag server ||| icmpIp.flag ||| keysFlag server ||| rules.flag) ::
    (publicIp ++ (port.bytes ++ (privateIp.bytes ++ (privatePort.bytes ++ (icmpIp.bytes ++
      (values ++ rules.bytes))))))

/-- `PrepareServer`, both instances of `GetServerBytes`. -/
def prepareServer (game : Game) (server : ServerData) (fieldList : List Bytes)
    (usePopularList : Bool) : Except EncodeError Bytes :=
  prepareAround game server (prepareValues game usePopularList server fieldList)

/-- The message around a pushed entry: type, length, entry. -/
def pushBytes (entry : Bytes) : Bytes := 0x02 :: (be16 (UInt16.ofNat entry.length) ++ entry)

/-- The message an `OnServerAdded` slot queues. -/
def pushMessage (game : Game) (server : ServerData) (keyList : List Bytes) :
    Except EncodeError Bytes :=
  (prepareServer game server keyList false).map pushBytes

/-- The message an `OnServerRemoved` slot queues. -/
def deleteMessage (ip : Bytes) (port : UInt16) : Except EncodeError Bytes :=
  (addressBytes ip).map fun address => [0x04, 0, 6] ++ (address ++ be16 port)

/-- What `HandleServerListRequest` sends behind a server list. -/
def endMarker : Bytes := [0x00, 0xFF, 0xFF, 0xFF, 0xFF]

/-- The list loop of `HandleServerListRequest` over the servers `GetServers` gave:
the messages sent, and the exception that ended the handler, if one did. -/
def sendServerList (game : Game) (fieldList : List Bytes) :
    List SavedServer → List Bytes × Option EncodeError
  | [] => ([endMarker], none)
  | server :: rest =>
      match prepareServer game server.toServerData fieldList true with
      | .error e => ([], some e)
      | .ok entry =>
          let (sent, exception) := sendServerList game fieldList rest
          (entry :: sent, exception)

/-! ### When an entry can be built -/

/-- Empty or a decimal numeral up to `limit`. -/
def IsNumber (limit : Nat) (value : Bytes) : Prop :=
  (∀ c ∈ value, Numeral.isDigit c) ∧ Numeral.value value ≤ limit

/-- A value the key's wire type can carry. -/
def Carries : Send → Bytes → Prop
  | .asString, _ => True
  | .asByte, value => IsNumber 255 value
  | .asShort, value => IsNumber 65535 value

/-- The addresses are IPv4 addresses, and every requested value fits its key's wire
type. -/
structure Encodable (game : Game) (server : ServerData) (fieldList : List Bytes) : Prop where
  publicIp : (makeAddressV4 server.publicIp).isSome
  privateIp : server.privateIp = [] ∨ (makeAddressV4 server.privateIp).isSome
  icmpIp : server.icmpIp = [] ∨ (makeAddressV4 server.icmpIp).isSome
  values : ∀ key ∈ fieldList, Carries (game.getParamSendType key) (server.value key)

theorem addressBytes_returns {text : Bytes} :
    Returns (addressBytes text) ↔ (makeAddressV4 text).isSome := by
  unfold addressBytes
  split <;> simp [*]

theorem optionalAddress_returns {flag : UInt8} {text : Bytes} :
    Returns (optionalAddress flag text) ↔ text = [] ∨ (makeAddressV4 text).isSome := by
  unfold optionalAddress
  by_cases empty : text = []
  · simp [empty]
  · rw [if_neg (by simpa using empty), returns_map, addressBytes_returns]
    simp [empty]

theorem numberValue_ok {limit n : Nat} {trailing : EncodeError} {value : Bytes} :
    numberValue limit trailing value = .ok n ↔ Numeral.fromChars limit value = .ok n [] := by
  unfold numberValue
  cases Numeral.fromChars limit value with
  | invalidArgument => simp
  | resultOutOfRange => simp
  | ok number rest => cases rest <;> simp

theorem numberValue_returns {limit : Nat} {trailing : EncodeError} {value : Bytes}
    (nonempty : value ≠ []) : Returns (numberValue limit trailing value) ↔ IsNumber limit value := by
  simp only [Returns, numberValue_ok, Numeral.fromChars_whole, IsNumber]
  constructor
  · rintro ⟨n, -, digits, rfl, small⟩
    exact ⟨digits, small⟩
  · rintro ⟨digits, small⟩
    exact ⟨_, nonempty, digits, rfl, small⟩

theorem isNumber_nil (limit : Nat) : IsNumber limit [] := ⟨by simp, Nat.zero_le _⟩

theorem prepareValue_returns {game : Game} {usePopularList : Bool} {sendAs : Send}
    {value : Bytes} :
    Returns (prepareValue game usePopularList sendAs value) ↔ Carries sendAs value := by
  cases sendAs with
  | asString =>
      simp only [prepareValue, Carries, iff_true]
      split
      · exact returns_ok _
      · exact returns_ok _
  | asByte =>
      by_cases none : value = []
      · simp [prepareValue, Carries, none, isNumber_nil]
      · simp only [prepareValue, Carries, List.isEmpty_iff, none, if_false, returns_map]
        exact numberValue_returns none
  | asShort =>
      by_cases none : value = []
      · simp [prepareValue, Carries, none, isNumber_nil]
      · simp only [prepareValue, Carries, List.isEmpty_iff, none, if_false, returns_map]
        exact numberValue_returns none

theorem prepareValues_returns {game : Game} {usePopularList : Bool} {server : ServerData}
    {fieldList : List Bytes} :
    Returns (prepareValues game usePopularList server fieldList) ↔
      ∀ key ∈ fieldList, Carries (game.getParamSendType key) (server.value key) := by
  induction fieldList with
  | nil => simp [prepareValues]
  | cons key rest ih =>
      rw [List.forall_mem_cons, prepareValues, returns_bind, prepareValue_returns]
      intro value _
      rw [returns_bind fun _ _ => iff_true_intro (returns_pure _), ih, and_true]

/-- **An entry can be built exactly when the server is encodable**, with or without
the popular list. -/
theorem prepareServer_returns {game : Game} {server : ServerData} {fieldList : List Bytes}
    {usePopularList : Bool} :
    Returns (prepareServer game server fieldList usePopularList) ↔
      Encodable game server fieldList := by
  have parts : Returns (prepareServer game server fieldList usePopularList) ↔
      (makeAddressV4 server.publicIp).isSome ∧
        (server.privateIp = [] ∨ (makeAddressV4 server.privateIp).isSome) ∧
        (server.icmpIp = [] ∨ (makeAddressV4 server.icmpIp).isSome) ∧
        ∀ key ∈ fieldList, Carries (game.getParamSendType key) (server.value key) := by
    unfold prepareServer prepareAround
    rw [returns_bind, addressBytes_returns]
    intro publicIp _
    rw [returns_bind, optionalAddress_returns]
    intro privateIp _
    rw [returns_bind, optionalAddress_returns]
    intro icmp _
    rw [returns_bind fun _ _ => iff_true_intro (returns_pure _), prepareValues_returns, and_true]
  rw [parts]
  constructor
  · rintro ⟨publicIp, privateIp, icmpIp, values⟩
    exact ⟨publicIp, privateIp, icmpIp, values⟩
  · rintro ⟨publicIp, privateIp, icmpIp, values⟩
    exact ⟨publicIp, privateIp, icmpIp, values⟩

/-- An address that cannot be read ends `PrepareServer` in front of the values. -/
theorem prepareAround_error {game : Game} {server : ServerData} {e : EncodeError}
    (failed : prepareAround game server (.ok []) = .error e) (keyValues : Except EncodeError Bytes) :
    prepareAround game server keyValues = .error e := by
  unfold prepareAround at failed ⊢
  cases publicIp : addressBytes server.publicIp with
  | error _ => rwa [publicIp] at failed
  | ok _ =>
      cases privateIp : optionalAddress ServerOptions.privateIp server.privateIp with
      | error _ => rwa [publicIp, privateIp] at failed
      | ok _ =>
          cases icmpIp : optionalAddress ServerOptions.icmpIp server.icmpIp with
          | error _ => rwa [publicIp, privateIp, icmpIp] at failed
          | ok _ =>
              rw [publicIp, privateIp, icmpIp] at failed
              cases failed

/-- The list loop reaches its end marker exactly when every server is encodable. -/
theorem sendServerList_completes {game : Game} {fieldList : List Bytes}
    {servers : List SavedServer} :
    (sendServerList game fieldList servers).2 = none ↔
      ∀ server ∈ servers, Encodable game server.toServerData fieldList := by
  induction servers with
  | nil => simp [sendServerList]
  | cons server rest ih =>
      rw [List.forall_mem_cons, ← ih, ← @prepareServer_returns _ _ _ true, sendServerList]
      cases prepareServer game server.toServerData fieldList true with
      | error e => simp
      | ok entry => simp

end GamespyEmulator
