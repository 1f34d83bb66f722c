import Libusual.Tls.X509

/-!
# Serial numbers

`tls_parse_bigint` renders the certificate's serial number in decimal. It first reads the integer
as a `long` with `ASN1_INTEGER_get`; when that is non-negative it prints it with `%lu`, and when it
is negative it converts the integer to a `BIGNUM` and prints that with `BN_bn2dec`.

`ASN1_INTEGER_get` here is the one of OpenSSL 1.1 and later (3.0 included), on a target whose
`long` has 64 bits: `asn1_get_uint64` reads at most eight bytes of magnitude, `asn1_get_int64`
keeps the value when it fits an `int64_t`, and anything it cannot read, or that lies outside
`long`, gives -1 (`ASN1_INTEGER_get_eq`). So the native path is taken exactly for the non-negative
values of a `long`, every other value goes through the `BIGNUM`, and both print the decimal
rendering of the value (`tls_parse_bigint_decimal`). The ledger side is `tls_parse_bigint_parsed`:
the BIGNUM and the string `BN_bn2dec` returns are given back.
-/

set_option autoImplicit false

namespace Libusual.TlsCert

/-! ## The model -/

/-- `INT64_MAX`. -/
def INT64_MAX : Nat := 2 ^ 63 - 1

/-- `ABS_INT64_MIN`, the magnitude of `INT64_MIN`. -/
def ABS_INT64_MIN : Nat := 2 ^ 63

/-- `INT64_MIN`. -/
def INT64_MIN : Int := -2 ^ 63

/-- `LONG_MIN` of a 64-bit `long`. -/
def LONG_MIN : Int := -2 ^ 63

/-- `LONG_MAX` of a 64-bit `long`. -/
def LONG_MAX : Int := 2 ^ 63 - 1

/-- `asn1_get_uint64`: more than `sizeof (uint64_t)` bytes fail; otherwise `r <<= 8; r |= b[i]`
over the bytes in a `uint64_t`. -/
def asn1_get_uint64 (b : List UInt8) : Option (BitVec 64) :=
  if b.length > 8 then none
  else some (b.foldl (fun (r : BitVec 64) byte => r <<< 8 ||| BitVec.ofNat 64 byte.toNat) 0)

/-- `asn1_get_int64`: the magnitude as an `int64_t`, negated for a negative integer; a magnitude
above `INT64_MAX` fails, except `ABS_INT64_MIN` for a negative integer, which is `INT64_MIN`. -/
def asn1_get_int64 (b : List UInt8) (neg : Bool) : Option Int :=
  match asn1_get_uint64 b with
  | none => none
  | some r =>
    if neg then
      if r.toNat ≤ INT64_MAX then some (-(r.toNat : Int))
      else if r.toNat = ABS_INT64_MIN then some INT64_MIN
      else none
    else if r.toNat ≤ INT64_MAX then some r.toNat
    else none

/-- `ASN1_INTEGER_get`: -1 when `ASN1_INTEGER_get_int64` fails or its value lies outside `long`,
and that value otherwise. -/
def ASN1_INTEGER_get (a : Asn1Integer) : Int :=
  match asn1_get_int64 a.data a.negative with
  | none => -1
  | some r => if r > LONG_MAX ∨ r < LONG_MIN then -1 else r

/-- A `BIGNUM`: its handle and its value. -/
structure Bignum where
  id : Nat
  value : Int

/-- `ASN1_INTEGER_to_BN(ai, NULL)`: a fresh `BIGNUM` holding the integer's value. -/
def ASN1_INTEGER_to_BN (a : Asn1Integer) : HeapM (Option Bignum) := do
  return (← acquire .bignum).map fun id => ⟨id, a.value⟩

/-- The decimal rendering of an integer: the digits of its absolute value, after a `-` when it is
negative. -/
def decimal (v : Int) : List Char :=
  if v < 0 then '-' :: Nat.toDigits 10 v.natAbs else Nat.toDigits 10 v.natAbs

/-- `BN_bn2dec`: a fresh string holding the decimal rendering of the value. -/
def BN_bn2dec (big : Bignum) : HeapM (Option Blk) := malloc (decimal big.value ++ ['\x00'])

/-- `OPENSSL_free`. -/
def OPENSSL_free (p : Option Blk) : HeapM Unit := free (p.map Blk.res)

/-- `BN_free`; nothing for `NULL`. -/
def BN_free (big : Option Bignum) : HeapM Unit := free (big.map fun big => ⟨.bignum, big.id⟩)

/-- `snprintf(buf, sizeof buf, "%lu", small)`: the digits of the `long` `small` read as an
unsigned long, and the terminator; the twenty digits of the largest one fit the 64 bytes. -/
def snprintf_lu (small : Int) : List Char := Nat.toDigits 10 (small % 2 ^ 64).toNat ++ ['\x00']

/-- The branch of `tls_parse_bigint` for a negative `small`: the serial through a `BIGNUM`, or
`NULL` when an allocation fails. -/
def bignumSerial (asn1int : Asn1Integer) : HeapM (Option Blk) := do
  let big ← ASN1_INTEGER_to_BN asn1int
  let dst ← match big with
    | none => pure none
    | some big => do
      let tmp ← BN_bn2dec big
      let dst ← match tmp with
        | some tmp => strdup tmp.data
        | none => pure none
      OPENSSL_free tmp
      pure dst
  BN_free big
  pure dst

/-- `tls_parse_bigint`: the return code and `*dst_p`. -/
def tls_parse_bigint (asn1int : Asn1Integer) : HeapM (Int × Option Blk) := do
  let small := ASN1_INTEGER_get asn1int
  let dst ← if small < 0 then bignumSerial asn1int else strdup (snprintf_lu small)
  match dst with
  | some dst => return (0, some dst)
  | none =>
    tls_set_error "cannot parse serial"
    return (-1, none)

/-! ## `ASN1_INTEGER_get` -/

/-- One iteration of `asn1_get_uint64`'s loop appends a byte to the value, modulo `2^64`. -/
theorem shift_or_byte (acc : Nat) (byte : UInt8) :
    BitVec.ofNat 64 acc <<< 8 ||| BitVec.ofNat 64 byte.toNat =
      BitVec.ofNat 64 (256 * acc + byte.toNat) := by
  apply BitVec.eq_of_toNat_eq
  have small : byte.toNat < 2 ^ 8 := UInt8.toNat_lt_size byte
  have low : acc % 2 ^ 64 * 2 ^ 8 % 2 ^ 64 = 2 ^ 8 * (acc % 2 ^ 56) := by omega
  simp only [BitVec.toNat_or, BitVec.toNat_shiftLeft, BitVec.toNat_ofNat, Nat.shiftLeft_eq,
    Nat.mod_eq_of_lt (show byte.toNat < 2 ^ 64 by omega), low, ← Nat.mul_add_lt_is_or small]
  omega

theorem foldl_shift_or (data : List UInt8) (acc : Nat) :
    data.foldl (fun (r : BitVec 64) byte => r <<< 8 ||| BitVec.ofNat 64 byte.toNat)
        (BitVec.ofNat 64 acc) =
      BitVec.ofNat 64 (data.foldl (fun acc byte => 256 * acc + byte.toNat) acc) := by
  induction data generalizing acc with
  | nil => rfl
  | cons byte rest ih => simp only [List.foldl_cons, shift_or_byte, ih]

theorem bytesValue_lt (data : List UInt8) : bytesValue data < 2 ^ (8 * data.length) := by
  suffices bound : ∀ acc, data.foldl (fun acc byte => 256 * acc + byte.toNat) acc <
      (acc + 1) * 2 ^ (8 * data.length) by simpa [bytesValue] using bound 0
  induction data with
  | nil => intro acc; simp
  | cons byte rest ih =>
    intro acc
    have small := UInt8.toNat_lt_size byte
    calc (byte :: rest).foldl (fun acc byte => 256 * acc + byte.toNat) acc
        < (256 * acc + byte.toNat + 1) * 2 ^ (8 * rest.length) := ih _
      _ ≤ (acc + 1) * 2 ^ 8 * 2 ^ (8 * rest.length) :=
          Nat.mul_le_mul_right _ (by simp only [UInt8.size] at small; omega)
      _ = (acc + 1) * 2 ^ (8 * (byte :: rest).length) := by
          rw [Nat.mul_assoc, ← Nat.pow_add, List.length_cons,
            show 8 * (rest.length + 1) = 8 + 8 * rest.length by omega]

/-- `asn1_get_uint64` reads the magnitude of at most eight bytes exactly. -/
theorem asn1_get_uint64_toNat (b : List UInt8) :
    (asn1_get_uint64 b).map BitVec.toNat = if b.length ≤ 8 then some (bytesValue b) else none := by
  unfold asn1_get_uint64
  split_ifs with long short
  · omega
  · rfl
  · have fits : bytesValue b < 2 ^ 64 :=
      lt_of_lt_of_le (bytesValue_lt b) (Nat.pow_le_pow_right (by decide) (by omega))
    rw [show (0 : BitVec 64) = BitVec.ofNat 64 0 from rfl, foldl_shift_or]
    simp only [Option.map_some', BitVec.toNat_ofNat]
    exact congrArg some (Nat.mod_eq_of_lt fits)
  · omega

/-- **The contract of OpenSSL 1.1 and later.** `ASN1_INTEGER_get` is the integer's value when it
has at most eight bytes of magnitude and lies within `long`, and -1 otherwise. -/
theorem ASN1_INTEGER_get_eq (a : Asn1Integer) :
    ASN1_INTEGER_get a =
      if a.data.length ≤ 8 ∧ LONG_MIN ≤ a.value ∧ a.value ≤ LONG_MAX then a.value else -1 := by
  have read := asn1_get_uint64_toNat a.data
  unfold ASN1_INTEGER_get asn1_get_int64
  rcases get : asn1_get_uint64 a.data with _ | r <;> rw [get] at read <;>
    split_ifs at read with short <;> try cases read
  · -- more than eight bytes
    simp [short]
  · -- the magnitude `r` read, then negated or not and checked against `long`
    dsimp only
    rw [show r.toNat = bytesValue a.data from Option.some.inj read]
    unfold Asn1Integer.value INT64_MAX ABS_INT64_MIN INT64_MIN LONG_MIN LONG_MAX
    cases a.negative <;> simp only [short, true_and, if_true, if_false, Bool.false_eq_true] <;>
      split_ifs <;> dsimp only <;> (try split_ifs) <;> omega

/-! ## What the code prints -/

theorem decimal_nul (v : Int) : '\x00' ∉ decimal v := by
  intro mem
  have digit : '\x00' ∈ Nat.toDigits 10 v.natAbs := by
    unfold decimal at mem
    split at mem
    · simpa using mem
    · exact mem
  obtain ⟨d, small, nul⟩ := mem_toDigits digit
  revert nul
  revert d
  decide

/-- `%lu` of a non-negative `long` is its decimal rendering. -/
theorem snprintf_lu_eq (v : Int) (nonneg : 0 ≤ v) (fits : v ≤ LONG_MAX) :
    snprintf_lu v = decimal v ++ ['\x00'] := by
  have small : v % 2 ^ 64 = v := Int.emod_eq_of_lt nonneg (by unfold LONG_MAX at fits; omega)
  simp only [snprintf_lu, small, decimal, not_lt.mpr nonneg, if_false]
  congr
  omega

/-- With no allocation failing, the code prints the `BIGNUM` when `ASN1_INTEGER_get` is negative
and the `long` otherwise. -/
theorem tls_parse_bigint_run (a : Asn1Integer) (h : Heap) (noFail : ∀ n, h.fails n = false) :
    ((tls_parse_bigint a).run h).1 =
      if ASN1_INTEGER_get a < 0 then (0, some ⟨h.next + 2, decimal a.value ++ ['\x00']⟩)
      else (0, some ⟨h.next, snprintf_lu (ASN1_INTEGER_get a)⟩) := by
  have digits (n : Nat) : '\x00' ∉ Nat.toDigits 10 n := by
    simpa [decimal] using decimal_nul n
  split_ifs with neg
  · simp only [tls_parse_bigint, neg, ↓reduceIte, bignumSerial, ASN1_INTEGER_to_BN, BN_bn2dec,
      OPENSSL_free, BN_free, strdup, StateT.run_bind, StateT.run_map, acquire_run, malloc_run, noFail,
      Bool.false_eq_true, Id.bind_eq, Id.map_eq, Option.map_some', free_some_run, release_run,
      cstring_append_nul (decimal_nul a.value), Blk.res, StateT.run_pure, Id.pure_eq]
  · simp only [tls_parse_bigint, neg, ↓reduceIte, strdup, snprintf_lu, cstring_append_nul (digits _),
      StateT.run_bind, malloc_run, noFail, Bool.false_eq_true, Id.bind_eq, StateT.run_pure, Id.pure_eq]

/-- **Both paths print the decimal rendering.** With no allocation failing, `tls_parse_bigint`
succeeds on every ASN.1 integer, of any length and sign, and returns the decimal rendering of its
value: through `%lu` when `ASN1_INTEGER_get` reads a non-negative `long`, and through the `BIGNUM`
for every other value. -/
theorem tls_parse_bigint_decimal (a : Asn1Integer) (h : Heap) (noFail : ∀ n, h.fails n = false) :
    ((tls_parse_bigint a).run h).1.1 = 0 ∧
      ((tls_parse_bigint a).run h).1.2.map Blk.data = some (decimal a.value ++ ['\x00']) := by
  rw [tls_parse_bigint_run a h noFail]
  split_ifs with neg
  · simp
  · rw [ASN1_INTEGER_get_eq] at neg ⊢
    split_ifs at neg ⊢ with fits
    · simp [snprintf_lu_eq a.value (not_lt.mp neg) fits.2.2]
    · exact absurd (by decide) neg

/-- The negative serial of eight `0xFF` bytes, `-(2^64 - 1)`: `ASN1_INTEGER_get` returns -1 for it
and the `BIGNUM` path prints all twenty digits. -/
theorem tls_parse_bigint_decimal_wide :
    ((tls_parse_bigint ⟨true, List.replicate 8 0xFF⟩).run Heap.init).1.1 = 0 ∧
      ((tls_parse_bigint ⟨true, List.replicate 8 0xFF⟩).run Heap.init).1.2.map Blk.data =
        some ("-18446744073709551615".toList ++ ['\x00']) := by
  have printed := tls_parse_bigint_decimal ⟨true, List.replicate 8 0xFF⟩ Heap.init fun _ => rfl
  rwa [show decimal (Asn1Integer.value ⟨true, List.replicate 8 0xFF⟩) =
    "-18446744073709551615".toList by decide] at printed

/-! ## Resources -/

/-- The end of `tls_parse_bigint`: a block it holds becomes the result, and no block is the
message. -/
theorem parsed_of_dst {h h' : Heap} {dst : Option Blk} (ext : Extends h h' (ownOpt (dst.map Blk.res)) []) :
    Parsed h ((match dst with
      | some dst => (pure (0, some dst) : HeapM (Int × Option Blk))
      | none => do
        tls_set_error "cannot parse serial"
        pure (-1, none)).run h') := by
  cases dst with
  | some dst => exact ⟨[], ext, Or.inl ⟨rfl, rfl, rfl⟩⟩
  | none =>
    exact ⟨["cannot parse serial"], by simpa using ext.trans (Extends.error h' _),
      Or.inr ⟨rfl, rfl, rfl⟩⟩

/-- The `BIGNUM` branch gives back the `BIGNUM` and the string `BN_bn2dec` made, whatever fails. -/
theorem bignumSerial_extends (a : Asn1Integer) (h : Heap) :
    Extends h ((bignumSerial a).run h).2 (ownOpt (((bignumSerial a).run h).1.map Blk.res)) [] := by
  simp only [bignumSerial, ASN1_INTEGER_to_BN, StateT.run_bind, acquire_run, Id.bind_eq]
  by_cases bnFail : h.fails h.next
  · simpa [bnFail, BN_free] using Extends.bump h
  simp only [bnFail, Bool.false_eq_true, if_false, Option.map_some', Id.pure_eq, StateT.run_pure,
    BN_bn2dec, malloc_run, OPENSSL_free, BN_free, free_some_run, StateT.run_bind, Id.bind_eq]
  have big := Extends.acquired h .bignum
  by_cases tmpFail : h.fails (h.next + 1)
  · simp only [tmpFail, if_true, Option.map_none', free_none_run, StateT.run_pure, Id.bind_eq]
    simpa using (big.trans (Extends.bump _)).release
      (show (⟨.bignum, h.next⟩ : Res) ∈ _ by simp)
  simp only [tmpFail, Bool.false_eq_true, if_false, Option.map_some', free_some_run, strdup,
    cstring_append_nul (decimal_nul a.value), malloc_run, StateT.run_bind, StateT.run_pure, Id.bind_eq]
  have tmp := big.trans (Extends.acquired _ .block)
  by_cases dstFail : h.fails (h.next + 1 + 1)
  · simp only [dstFail, if_true, Option.map_none']
    simpa [Blk.res] using ((tmp.trans (Extends.bump _)).release
      (show (⟨.block, h.next + 1⟩ : Res) ∈ _ by simp)).release
      (show (⟨.bignum, h.next⟩ : Res) ∈ _ by simp)
  · simp only [dstFail, Bool.false_eq_true, if_false, Option.map_some']
    simpa [Blk.res] using ((tmp.trans (Extends.acquired _ .block)).release
      (show (⟨.block, h.next + 1⟩ : Res) ∈ _ by simp)).release
      (show (⟨.bignum, h.next⟩ : Res) ∈ _ by simp)

/-- The `BIGNUM` and the string `BN_bn2dec` made are given back on every path; the result's block
is all `tls_parse_bigint` leaves. -/
theorem tls_parse_bigint_parsed (a : Asn1Integer) (h : Heap) :
    Parsed h ((tls_parse_bigint a).run h) := by
  simp only [tls_parse_bigint]
  split_ifs
  · simp only [StateT.run_bind, Id.bind_eq]
    exact parsed_of_dst (bignumSerial_extends a h)
  · simp only [StateT.run_bind, Id.bind_eq]
    exact parsed_of_dst (malloc_extends _ h)

end Libusual.TlsCert
