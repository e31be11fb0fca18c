import GamespyEmulator.Lib.Wire

/-!
The server-list request of `sb_request.cpp`: nine extractors, each taking the
position the one before it left, and the parser that chains them.
-/

namespace GamespyEmulator

open Wire

/-- `ServerListRequest::ParseError`. -/
inductive RequestError where
  | unknownProtocolVersion
  | unknownEncodingVersion
  | invalidKey
  | tooManyKeys
  | invalidAlternateIp
  | insufficientLength
deriving DecidableEq, Repr

/-- `ServerListRequest::Options`, a bit mask. -/
abbrev Options := UInt32

namespace Options

def sendFieldsForAll : Options := (1 : UInt32) <<< 0
def noServerList : Options := (1 : UInt32) <<< 1
def pushUpdates : Options := (1 : UInt32) <<< 2
def alternateSourceIp : Options := (1 : UInt32) <<< 3
def sendGroups : Options := (1 : UInt32) <<< 5
def noListCache : Options := (1 : UInt32) <<< 6
def limitResultCount : Options := (1 : UInt32) <<< 7

def min : Options := sendFieldsForAll
def max : Options := limitResultCount

/-- `operator&` on options: some flag is in both. -/
def shares (options flag : Options) : Bool := 0 < options &&& flag

end Options

structure ServerListRequest where
  protocolVersion : UInt8
  encodingVersion : UInt8
  fromGameVersion : UInt32
  fromGame : Bytes
  toGame : Bytes
  challenge : Vector UInt8 8
  serverFilter : Bytes
  fieldList : List Bytes
  options : Options
  alternateSourceIP : Option UInt32
  limitResultCount : Option UInt32
deriving DecidableEq, Repr

def listProtocolVersion : UInt8 := 1
def listEncodingVersion : UInt8 := 3
def fieldsTotalLength : Nat := 256
def filterTotalLength : Nat := 256

/-- The separator and the first byte of a field list. -/
def backslash : UInt8 := 92

/-! ### Extractors -/

/-- What an extractor returns: a value and the position behind it. -/
abbrev Extracted (α : Type) := Except RequestError (α × Bytes)

/-- `ExtractString`; without `maxLength` (`npos`) any length is taken. -/
def extractString (pos : Bytes) (maxLength : Option Nat := none) : Extracted Bytes :=
  match splitNul pos with
  | none => .error .insufficientLength
  | some (str, rest) =>
      if maxLength.any (· < str.length) then .error .tooManyKeys else .ok (str, rest)

/-- `ExtractSpan<N>`. -/
def extractSpan (n : Nat) (pos : Bytes) : Extracted (Vector UInt8 n) :=
  if h : pos.length < n then .error .insufficientLength
  else .ok (⟨(pos.take n).toArray, by simpa using h⟩, pos.drop n)

def extractUInt32 : Bytes → Extracted UInt32
  | b₀ :: b₁ :: b₂ :: b₃ :: rest => .ok (readBe32 b₀ b₁ b₂ b₃, rest)
  | _ => .error .insufficientLength

/-- `ExtractOptions`: zero, or a value between the least and the greatest flag. -/
def extractOptions (pos : Bytes) : Extracted Options :=
  (extractUInt32 pos).bind fun (value, rest) =>
    if value = 0 then .ok (0, rest)
    else if Options.min ≤ value ∧ value ≤ Options.max then .ok (value, rest)
    else .error .invalidKey

/-- `ExtractFieldList`: the leading backslash goes, the others separate the names.
Splitting an empty remainder yields no name. -/
def extractFieldList (pos : Bytes) : Extracted (List Bytes) :=
  (extractString pos fieldsTotalLength).bind fun (fieldStr, rest) =>
    match fieldStr with
    | [] => .error .invalidKey
    | first :: names =>
        if first ≠ backslash then .error .invalidKey
        else .ok (if names.isEmpty then [] else names.splitOn backslash, rest)

/-- An integer that is present when `flag` is set: `ExtractAlternateIP` and
`ExtractLimit`. -/
def extractIf (flag : Options) (pos : Bytes) (options : Options) : Extracted (Option UInt32) :=
  if options.shares flag then (extractUInt32 pos).map fun (value, rest) => (some value, rest)
  else .ok (none, pos)

def extractAlternateIP : Bytes → Options → Extracted (Option UInt32) :=
  extractIf Options.alternateSourceIp

def extractLimit : Bytes → Options → Extracted (Option UInt32) :=
  extractIf Options.limitResultCount

/-! ### The parser -/

/-- `client_challenge_length`. -/
abbrev clientChallengeLength : Nat := 8

/-- `MIN_SIZE`: versions, game version, two names, challenge, filter, field list and
options, each as short as it can be. -/
def minSize : Nat := 1 + 1 + 4 + 2 + 2 + clientChallengeLength + 1 + 3 + 4

/-- The extractors after the version bytes, in order. -/
def ServerListRequest.extract (protocol encoding : UInt8) (pos : Bytes) :
    Except RequestError ServerListRequest := do
  let (gameversion, pos) ← extractUInt32 pos
  let (fromGame, pos) ← extractString pos
  let (toGame, pos) ← extractString pos
  let (challenge, pos) ← extractSpan clientChallengeLength pos
  let (serverFilter, pos) ← extractString pos filterTotalLength
  let (fieldList, pos) ← extractFieldList pos
  let (options, pos) ← extractOptions pos
  let (alternateIP, pos) ← extractAlternateIP pos options
  let (limit, _) ← extractLimit pos options
  return {
    protocolVersion := protocol
    encodingVersion := encoding
    fromGameVersion := gameversion
    fromGame := fromGame
    toGame := toGame
    challenge := challenge
    serverFilter := serverFilter
    fieldList := fieldList
    options := options
    alternateSourceIP := alternateIP
    limitResultCount := limit }

/-- `ServerListRequest::Parse`. -/
def ServerListRequest.parse (packet : Bytes) : Except RequestError ServerListRequest :=
  if packet.length < minSize then .error .insufficientLength
  else match packet with
    | protocol :: encoding :: pos =>
        if protocol ≠ listProtocolVersion then .error .unknownProtocolVersion
        else if encoding ≠ listEncodingVersion then .error .unknownEncodingVersion
        else ServerListRequest.extract protocol encoding pos
    | _ => .error .insufficientLength

end GamespyEmulator
