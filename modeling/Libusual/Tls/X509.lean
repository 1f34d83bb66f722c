import Libusual.Heap

/-!
# The certificate as the extractor reads it

`tls_cert.c` reads the peer certificate through OpenSSL. This module holds the library objects it
touches, each with the fields the code reads: ASN.1 strings with their type tag, distinguished
names as lists of attribute entries, the nine kinds of `GENERAL_NAME`, ASN.1 integers as a sign
and big-endian magnitude bytes, and times through what `ASN1_TIME_print` writes for them. A time
the library cannot print has no print.

The library functions whose results the code checks are given as OpenSSL documents and
implements them: `X509_NAME_get_text_by_NID` finds the first entry with the NID, returns its
length when given no buffer, and otherwise copies at most `len - 1` bytes and a NUL
(`X509_NAME_get_text_by_NID_copy` says the two calls of `tls_cert_get_name_string` agree).
`SSL_get_peer_certificate` takes a reference on the certificate, and the decoded
subjectAltName stack is a resource of its own.
-/

set_option autoImplicit false

namespace Libusual.TlsCert

/-- An `ASN1_STRING`: its type tag and its bytes (the library keeps a NUL after them). -/
structure Asn1String where
  type : Int
  data : List Char
  deriving DecidableEq, Repr

/-- `V_ASN1_IA5STRING`. -/
def V_ASN1_IA5STRING : Int := 22

/-- An `X509_NAME_ENTRY`: the attribute's NID and its value. -/
structure NameEntry where
  nid : Nat
  value : Asn1String
  deriving DecidableEq, Repr

/-- An `X509_NAME`: its entries in order; an attribute may occur more than once. -/
structure X509Name where
  entries : List NameEntry
  deriving DecidableEq, Repr

def NID_commonName : Nat := 13
def NID_countryName : Nat := 14
def NID_localityName : Nat := 15
def NID_stateOrProvinceName : Nat := 16
def NID_organizationName : Nat := 17
def NID_organizationalUnitName : Nat := 18
def NID_streetAddress : Nat := 660

/-- The value of the first entry of `name` with attribute `nid`. -/
def X509Name.first (name : X509Name) (nid : Nat) : Option Asn1String :=
  (name.entries.find? (·.nid = nid)).map (·.value)

/-- `X509_NAME_get_text_by_NID(name, nid, buf, len)`: the return value and the buffer after.
With no buffer it returns the length of the first value; with one, it copies at most
`len - 1` of its bytes and a NUL. An absent attribute gives -1. -/
def X509_NAME_get_text_by_NID (name : X509Name) (nid : Nat) (buf : Option (List Char))
    (len : Int) : Int × Option (List Char) :=
  match name.first nid, buf with
  | none, _ => (-1, buf)
  | some data, none => (data.data.length, none)
  | some data, some b =>
    if len ≤ 0 then (0, some b)
    else
      let i := min data.data.length (len - 1).toNat
      (i, some (data.data.take i ++ ['\x00'] ++ b.drop (i + 1)))

/-- The length query and a copy into a buffer of that length plus one agree: the buffer gets
all of the value's bytes and a NUL, for every length. -/
theorem X509_NAME_get_text_by_NID_copy (name : X509Name) (nid : Nat) (value : Asn1String)
    (first : name.first nid = some value) :
    X509_NAME_get_text_by_NID name nid
        (some (List.replicate (value.data.length + 1) '\x00')) (value.data.length + 1) =
      ((value.data.length : Int), some (value.data ++ ['\x00'])) := by
  simp [X509_NAME_get_text_by_NID, first]

/-- A `GENERAL_NAME`, by its type; the types the code ignores carry nothing it reads. -/
inductive GeneralName where
  | otherName
  | rfc822Name (name : Asn1String)
  | dNSName (name : Asn1String)
  | x400Address
  | directoryName
  | ediPartyName
  | uniformResourceIdentifier (name : Asn1String)
  | iPAddress (address : Asn1String)
  | registeredID
  deriving DecidableEq, Repr

/-- An `ASN1_INTEGER`: `V_ASN1_NEG_INTEGER` or not, and the big-endian magnitude bytes. -/
structure Asn1Integer where
  negative : Bool
  data : List UInt8
  deriving DecidableEq, Repr

/-- The magnitude the bytes of an integer spell, big-endian. -/
def bytesValue (data : List UInt8) : Nat := data.foldl (fun acc b => 256 * acc + b.toNat) 0

/-- The value of an ASN.1 integer. -/
def Asn1Integer.value (a : Asn1Integer) : Int :=
  if a.negative then -(bytesValue a.data : Int) else bytesValue a.data

/-- Every character of a decimal rendering is the digit of a number below ten. -/
theorem mem_toDigits {n : Nat} {c : Char} (mem : c ∈ Nat.toDigits 10 n) :
    ∃ d < 10, c = Nat.digitChar d := by
  suffices core : ∀ fuel m ds, (∀ c ∈ ds, ∃ d < 10, c = Nat.digitChar d) →
      ∀ c ∈ Nat.toDigitsCore 10 fuel m ds, ∃ d < 10, c = Nat.digitChar d from
    core _ _ [] (by simp) c mem
  intro fuel
  induction fuel with
  | zero => intro m ds digits; simpa [Nat.toDigitsCore] using digits
  | succ fuel ih =>
    intro m ds digits
    have digit : ∀ c ∈ Nat.digitChar (m % 10) :: ds, ∃ d < 10, c = Nat.digitChar d := by
      simpa using ⟨⟨m % 10, Nat.mod_lt m (by decide), rfl⟩, digits⟩
    simp only [Nat.toDigitsCore]
    split
    · exact digit
    · exact ih _ _ digit

/-- An `ASN1_TIME`, through what `ASN1_TIME_print` writes for it; `none` when it cannot be
printed. -/
structure Asn1Time where
  printed : Option (List Char)
  deriving DecidableEq, Repr

/-- An `X509` certificate, through the accessors the code calls. -/
structure X509 where
  /-- `X509_get_version`. -/
  version : Int
  /-- `X509_get_subject_name`. -/
  subject : Option X509Name
  /-- `X509_get_issuer_name`. -/
  issuer : Option X509Name
  /-- The subjectAltName extension's entries, when the certificate has one. -/
  subjectAltName : Option (List GeneralName)
  /-- `X509_get_notBefore`. -/
  notBefore : Asn1Time
  /-- `X509_get_notAfter`. -/
  notAfter : Asn1Time
  /-- `X509_get_serialNumber`. -/
  serialNumber : Asn1Integer
  deriving DecidableEq, Repr

/-- An `SSL` connection: the certificate its peer presented, if any. -/
structure Ssl where
  peer : Option X509
  deriving DecidableEq, Repr

/-- The `struct tls` context: its connection, `NULL` before the handshake. -/
structure Tls where
  ssl_conn : Option Ssl
  deriving DecidableEq, Repr

/-- `SSL_get_peer_certificate`: the peer's certificate, with one more reference on it. -/
def SSL_get_peer_certificate (conn : Ssl) : HeapM (Option X509) :=
  match conn.peer with
  | none => pure none
  | some x509 => do
    let _ ← acquireRef .x509Ref
    pure (some x509)

/-- `X509_get_ext_d2i(x509, NID_subject_alt_name, NULL, NULL)`: a freshly decoded stack of the
extension's entries, `NULL` when the extension is absent or the decoding runs out of memory. -/
def X509_get_ext_d2i (x509 : X509) : HeapM (Option (Nat × List GeneralName)) :=
  match x509.subjectAltName with
  | none => pure none
  | some names => do
    let stack ← acquire .stack
    pure (stack.map fun id => (id, names))

/-- `sk_GENERAL_NAME_pop_free(stack, GENERAL_NAME_free)`. -/
def sk_GENERAL_NAME_pop_free (stack : Nat) : HeapM Unit := release ⟨.stack, stack⟩

theorem SSL_get_peer_certificate_run (conn : Ssl) (h : Heap) :
    (SSL_get_peer_certificate conn).run h =
      match conn.peer with
      | none => (none, h)
      | some x509 => (some x509, { h with live := ⟨.x509Ref, h.next⟩ ::ₘ h.live, next := h.next + 1 }) := by
  unfold SSL_get_peer_certificate
  split <;> rfl

theorem X509_get_ext_d2i_run (x509 : X509) (h : Heap) :
    (X509_get_ext_d2i x509).run h =
      match x509.subjectAltName with
      | none => (none, h)
      | some names =>
        if h.fails h.next then (none, { h with next := h.next + 1 })
        else (some (h.next, names),
          { h with live := ⟨.stack, h.next⟩ ::ₘ h.live, next := h.next + 1 }) := by
  unfold X509_get_ext_d2i
  split
  · rfl
  · simp only [StateT.run_bind, acquire_run]
    split <;> rfl

end Libusual.TlsCert
