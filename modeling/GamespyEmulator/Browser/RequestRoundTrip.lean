import GamespyEmulator.Browser.Request

/-!
Server-list requests read back. A `WireRequest` is a request a client can write:
names and fields that survive NUL termination and the field separator, lengths
within the limits, and the two trailing integers present exactly when their flags
are set. Its encoding reads back unless the options combine the result limit, the
greatest flag, with any other flag: the parser takes the options for a number
between the least and the greatest flag.
-/

namespace GamespyEmulator

open Wire

/-- The flags `ServerListRequest::Options` declares. -/
def Options.declared : List Options :=
  [sendFieldsForAll, noServerList, pushUpdates, alternateSourceIp, sendGroups, noListCache,
    limitResultCount]

/-- The unions of declared flags. -/
def Options.unions : List Options :=
  declared.sublists.map fun flags => flags.foldr (· ||| ·) 0

/-- The field list as it is sent: a backslash before each name. -/
def encodeFieldList (fields : List Bytes) : Bytes := fields.flatMap fun f => backslash :: f

/-- A request as a client writes it: big-endian integers, NUL-terminated strings,
the fields in declaration order. -/
def ServerListRequest.encode (r : ServerListRequest) : Bytes :=
  [r.protocolVersion, r.encodingVersion] ++ (be32 r.fromGameVersion ++
    (terminated r.fromGame ++ (terminated r.toGame ++ (r.challenge.toList ++
      (terminated r.serverFilter ++ (terminated (encodeFieldList r.fieldList) ++
        (be32 r.options ++ (r.alternateSourceIP.toList.flatMap be32 ++
          (r.limitResultCount.toList.flatMap be32 ++ [])))))))))

structure WireRequest extends ServerListRequest where
  protocol : protocolVersion = 1
  encoding : encodingVersion = 3
  fromGame_ok : fromGame ≠ [] ∧ NulFree fromGame
  toGame_ok : toGame ≠ [] ∧ NulFree toGame
  filter_ok : NulFree serverFilter ∧ serverFilter.length ≤ 256
  fieldList_ne : fieldList ≠ []
  fields_ok : ∀ f ∈ fieldList, f ≠ [] ∧ NulFree f ∧ backslash ∉ f
  fields_short : (encodeFieldList fieldList).length ≤ 256
  options_union : options ∈ Options.unions
  alternate_iff : alternateSourceIP.isSome = options.shares Options.alternateSourceIp
  limit_iff : limitResultCount.isSome = options.shares Options.limitResultCount

/-! ### Extractors -/

theorem extractUInt32_be32 (n : UInt32) (rest : Bytes) :
    extractUInt32 (be32 n ++ rest) = .ok (n, rest) := by
  simp [be32, extractUInt32]

theorem extractString_terminated {s : Bytes} {maxLength : Option Nat} (free : NulFree s)
    (short : ∀ m ∈ maxLength, s.length ≤ m) (rest : Bytes) :
    extractString (terminated s ++ rest) maxLength = .ok (s, rest) := by
  have fits : ¬ maxLength.any (· < s.length) = true := by
    cases maxLength with
    | none => simp
    | some m => simpa using short m rfl
  rw [extractString, splitNul_terminated free]
  exact if_neg fits

theorem extractSpan_toList {n : Nat} (v : Vector UInt8 n) (rest : Bytes) :
    extractSpan n (v.toList ++ rest) = .ok (v, rest) := by
  have len : v.toList.length = n := by simp
  unfold extractSpan
  rw [dif_neg (by simp)]
  simp only [Except.ok.injEq, Prod.mk.injEq]
  constructor
  · apply Vector.toList_inj.mp
    simp [Vector.toList]
  · rw [List.drop_append_of_le_length (by simp), List.drop_of_length_le (by simp), List.nil_append]

theorem encodeFieldList_eq {fields : List Bytes} (nonempty : fields ≠ []) :
    encodeFieldList fields = backslash :: [backslash].intercalate fields := by
  induction fields with
  | nil => exact absurd rfl nonempty
  | cons f rest ih =>
      cases rest with
      | nil => simp [encodeFieldList, List.intercalate]
      | cons g rest =>
          have ih := ih (by simp)
          rw [encodeFieldList, List.flatMap_cons, ← encodeFieldList, ih]
          simp [List.intercalate]

theorem encodeFieldList_free {fields : List Bytes} (ok : ∀ f ∈ fields, NulFree f) :
    NulFree (encodeFieldList fields) := by
  intro mem
  obtain ⟨f, hf, found⟩ := List.mem_flatMap.mp mem
  exact (List.mem_cons.mp found).elim (by decide) (ok f hf)

theorem extractFieldList_encode {fields : List Bytes} (nonempty : fields ≠ [])
    (ok : ∀ f ∈ fields, f ≠ [] ∧ NulFree f ∧ backslash ∉ f)
    (short : (encodeFieldList fields).length ≤ 256) (rest : Bytes) :
    extractFieldList (terminated (encodeFieldList fields) ++ rest) = .ok (fields, rest) := by
  have split : ([backslash].intercalate fields).splitOn backslash = fields :=
    List.splitOn_intercalate backslash (fun f hf => (ok f hf).2.2) nonempty
  have names : [backslash].intercalate fields ≠ [] := by
    obtain ⟨f, others, rfl⟩ := List.exists_cons_of_ne_nil nonempty
    have filled := (ok f List.mem_cons_self).1
    intro none
    cases others with
    | nil => exact filled (by simpa [List.intercalate] using none)
    | cons g others => simp [List.intercalate] at none
  unfold extractFieldList
  rw [extractString_terminated (encodeFieldList_free fun f hf => (ok f hf).2.1)
    (by simpa [fieldsTotalLength] using short), encodeFieldList_eq nonempty]
  simp [Except.bind, names, split]

theorem extractOptions_be32 (options : Options) (rest : Bytes) :
    extractOptions (be32 options ++ rest) =
      if options ≤ Options.max then .ok (options, rest) else .error .invalidKey := by
  unfold extractOptions
  rw [extractUInt32_be32]
  simp only [Except.bind]
  by_cases zero : options = 0
  · subst zero
    rfl
  · have least : Options.min ≤ options := by
      rw [UInt32.le_iff_toNat_le]
      exact Nat.pos_of_ne_zero fun h => zero (UInt32.toNat_inj.mp h)
    simp [zero, least]

theorem extractIf_encode {flag options : Options} {value : Option UInt32}
    (present : value.isSome = options.shares flag) (rest : Bytes) :
    extractIf flag (value.toList.flatMap be32 ++ rest) options = .ok (value, rest) := by
  unfold extractIf
  rw [← present]
  cases value with
  | none => simp
  | some n => simp [extractUInt32_be32, Except.map]

/-! ### Requests -/

/-- The result limit is not combined with another flag. -/
def Options.LimitAlone (options : Options) : Prop :=
  options.shares limitResultCount → options = limitResultCount

instance (options : Options) : Decidable options.LimitAlone := by
  unfold Options.LimitAlone; infer_instance

/-- Among the unions, the range check refuses those that add to the greatest flag. -/
theorem Options.le_max_iff {options : Options} (union : options ∈ unions) :
    options ≤ max ↔ options.LimitAlone := by
  have all : unions.all fun o => decide (o ≤ max ↔ o.LimitAlone) := rfl
  exact of_decide_eq_true (List.all_eq_true.mp all options union)

namespace WireRequest

theorem encode_length (w : WireRequest) : minSize ≤ w.encode.length := by
  have fromGame := List.length_pos_iff.mpr w.fromGame_ok.1
  have toGame := List.length_pos_iff.mpr w.toGame_ok.1
  obtain ⟨f, others, fields⟩ := List.exists_cons_of_ne_nil w.fieldList_ne
  have name := List.length_pos_iff.mpr (w.fields_ok f (by simp [fields])).1
  simp only [ServerListRequest.encode, be32, terminated, encodeFieldList, fields,
    List.flatMap_cons, List.length_append, List.length_cons, List.length_nil,
    Vector.length_toList, minSize, clientChallengeLength]
  omega

/-- The extractors read every part back; only the options can be refused. -/
theorem extract_encode (w : WireRequest) :
    ServerListRequest.parse w.encode =
      if w.options ≤ Options.max then .ok w.toServerListRequest else .error .invalidKey := by
  have long : ¬ w.encode.length < minSize := Nat.not_lt.mpr w.encode_length
  have protocol : w.protocolVersion = listProtocolVersion := w.protocol
  have encoding : w.encodingVersion = listEncodingVersion := w.encoding
  unfold ServerListRequest.parse
  rw [if_neg long]
  simp only [ServerListRequest.encode, List.cons_append, List.nil_append, protocol, encoding, ne_eq, not_true_eq_false,
    if_false, ServerListRequest.extract, bind, Except.bind, pure, Except.pure]
  rw [extractUInt32_be32]
  dsimp only
  rw [extractString_terminated w.fromGame_ok.2 (by simp)]
  dsimp only
  rw [extractString_terminated w.toGame_ok.2 (by simp)]
  dsimp only
  rw [extractSpan_toList]
  dsimp only
  rw [extractString_terminated w.filter_ok.1 (by simpa [filterTotalLength] using w.filter_ok.2)]
  dsimp only
  rw [extractFieldList_encode w.fieldList_ne w.fields_ok w.fields_short]
  dsimp only
  rw [extractOptions_be32]
  by_cases accepted : w.options ≤ Options.max
  · rw [if_pos accepted, if_pos accepted]
    dsimp only
    rw [extractAlternateIP, extractIf_encode w.alternate_iff]
    dsimp only
    rw [extractLimit, extractIf_encode w.limit_iff, ← protocol, ← encoding]
  · rw [if_neg accepted, if_neg accepted]

/-- **A request reads back exactly when it does not combine the result limit with
another option.** -/
theorem parse_encode_iff (w : WireRequest) :
    ServerListRequest.parse w.encode = .ok w.toServerListRequest ↔ w.options.LimitAlone := by
  rw [w.extract_encode, ← Options.le_max_iff w.options_union]
  simp

/-- A pushed list of at most ten servers. -/
def pushLimited : WireRequest where
  protocolVersion := 1
  encodingVersion := 3
  fromGameVersion := 0
  fromGame := ascii "battlefield2"
  toGame := ascii "battlefield2"
  challenge := Vector.replicate 8 65
  serverFilter := []
  fieldList := [ascii "hostname", ascii "numplayers"]
  options := Options.pushUpdates ||| Options.limitResultCount
  alternateSourceIP := none
  limitResultCount := some 10
  protocol := rfl
  encoding := rfl
  fromGame_ok := by decide
  toGame_ok := by decide
  filter_ok := by decide
  fieldList_ne := by decide
  fields_ok := by decide
  fields_short := by decide
  options_union := by decide
  alternate_iff := by decide
  limit_iff := by decide

/-- Asking for pushed updates and for a limit at once is refused as an invalid key. -/
theorem parse_encode_fails_pushLimited :
    ¬ ∀ w : WireRequest, ServerListRequest.parse w.encode = .ok w.toServerListRequest := by
  intro reads
  have refused := pushLimited.extract_encode
  rw [reads pushLimited, if_neg (by decide)] at refused
  cases refused

end WireRequest

end GamespyEmulator
