import GamespyEmulator.Lib.Numeral

/-!
IPv4 addresses and endpoints as the servers use them: `address_v4::to_string`,
`make_address_v4` (POSIX `inet_pton` on the C string it is given) and
`udp::endpoint` as a map key. The text of an address reads back as that address,
so two endpoints never share a text.
-/

namespace GamespyEmulator

open Wire

/-- The ASCII dot between the octets. -/
def dot : UInt8 := 46

/-- `address_v4::to_bytes`. -/
def toBytes (address : UInt32) : Bytes := be32 address

/-- `address_v4::to_string`: dotted decimal. -/
def addressText (address : UInt32) : Bytes :=
  [dot].intercalate ((toBytes address).map fun octet => Numeral.decimal octet.toNat)

/-- One octet of a dotted address: digits without a superfluous leading zero, at
most 255. -/
def parseOctet (s : Bytes) : Option UInt8 :=
  match Numeral.fromChars 255 s with
  | .ok value [] => if s.head? = some 48 ∧ 1 < s.length then none else some (UInt8.ofNat value)
  | _ => none

/-- `make_address_v4`: `none` where it throws. The text is passed on as a C
string, so it ends at its first NUL. -/
def makeAddressV4 (text : Bytes) : Option UInt32 :=
  match ((cstr text).splitOn dot).mapM parseOctet with
  | some [a, b, c, d] => some (readBe32 a b c d)
  | _ => none

private theorem parseOctet_decimal (octet : UInt8) :
    parseOctet (Numeral.decimal octet.toNat) = some octet := by
  have read := @Numeral.fromChars_decimal octet.toNat 255 (by have := octet.toNat_lt; omega)
  have plain : ¬ ((Numeral.decimal octet.toNat).head? = some 48 ∧
      1 < (Numeral.decimal octet.toNat).length) := by
    rintro ⟨zero, long⟩
    rw [Numeral.decimal_head zero] at long
    exact absurd long (by decide)
  simp only [parseOctet, read, plain, if_false, UInt8.ofNat_toNat]

private theorem decimal_free {b : UInt8} (h : Numeral.isDigit b = false) (n : Nat) :
    b ∉ Numeral.decimal n := by
  intro mem
  simp [Numeral.decimal_all_digits n b mem] at h

theorem addressText_nulFree (address : UInt32) : NulFree (addressText address) := by
  have free := decimal_free (b := 0) rfl
  unfold NulFree at *
  simp [addressText, toBytes, be32, List.intercalate, free, dot]

/-- The text of an address reads back as the address. -/
@[simp] theorem makeAddressV4_addressText (address : UInt32) :
    makeAddressV4 (addressText address) = some address := by
  have split : (addressText address).splitOn dot =
      (toBytes address).map fun octet => Numeral.decimal octet.toNat := by
    apply List.splitOn_intercalate
    · intro part mem
      obtain ⟨octet, -, rfl⟩ := List.mem_map.mp mem
      exact decimal_free rfl octet.toNat
    · simp [toBytes, be32]
  have octets : ((toBytes address).map fun octet => Numeral.decimal octet.toNat).mapM parseOctet =
      some (toBytes address) := by
    simp only [toBytes, be32, List.map_cons, List.map_nil, List.mapM_cons, List.mapM_nil,
      parseOctet_decimal]
    rfl
  simp only [makeAddressV4, cstr_eq_self (addressText_nulFree address), split, octets]
  simp only [toBytes, be32, readBe32_be32]

theorem addressText_injective : Function.Injective addressText := by
  intro a b same
  simpa using congrArg makeAddressV4 same

/-! ### Endpoints and row keys

Both are ordered lexicographically, as `std::map` and the primary key need. -/

attribute [local instance] lexOrd

/-- `udp::endpoint` over IPv4. -/
structure Endpoint where
  address : UInt32
  port : UInt16
deriving DecidableEq, Repr

/-- The primary key of a server table: `(__public_ip, __public_port)`. -/
structure RowKey where
  publicIp : Bytes
  publicPort : UInt16
deriving DecidableEq, Repr

instance : Ord Endpoint := ⟨compareOn fun e => (e.address, e.port)⟩

instance : Std.TransOrd Endpoint :=
  inferInstanceAs (Std.TransCmp (compareOn fun e : Endpoint => (e.address, e.port)))

instance : Std.LawfulEqOrd Endpoint where
  eq_of_compare {a b} h := by
    have := Std.LawfulEqOrd.eq_of_compare (α := UInt32 × UInt16) h
    cases a; cases b; simp_all

instance : Ord RowKey := ⟨compareOn fun k => (k.publicIp, k.publicPort)⟩

instance : Std.TransOrd RowKey :=
  inferInstanceAs (Std.TransCmp (compareOn fun k : RowKey => (k.publicIp, k.publicPort)))

instance : Std.LawfulEqOrd RowKey where
  eq_of_compare {a b} h := by
    have := Std.LawfulEqOrd.eq_of_compare (α := Bytes × UInt16) h
    cases a; cases b; simp_all

/-- The key under which an endpoint is listed. -/
def Endpoint.rowKey (e : Endpoint) : RowKey := ⟨addressText e.address, e.port⟩

theorem Endpoint.rowKey_injective : Function.Injective Endpoint.rowKey := by
  intro a b same
  simp only [rowKey, RowKey.mk.injEq] at same
  have address := addressText_injective same.1
  cases a
  cases b
  simp_all

@[simp] theorem Endpoint.rowKey_inj {a b : Endpoint} : a.rowKey = b.rowKey ↔ a = b :=
  rowKey_injective.eq_iff

end GamespyEmulator
