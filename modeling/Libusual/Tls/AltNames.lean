import Libusual.Tls.CertInfo

/-!
# subjectAltName entries

`tls_cert_get_altnames` decodes the subjectAltName extension, allocates one zeroed slot per entry
and walks the entries in order. A DNS name, an e-mail address or a URI goes through
`tls_load_alt_ia5string`, an IP address through `tls_load_alt_ipaddr`; each writes the slot at
`subject_alt_name_count` and counts it when it succeeds. Every other `GENERAL_NAME` type is
passed over. The return code `rv` of the walk starts at -1 and is assigned only by the two
loaders, so an entry of an ignored type leaves the previous entry's code in place, and the walk
stops as soon as `rv` is negative.

What one entry should give is `altOutcome`: ignored, skipped (a string of another ASN.1
type), invalid, or decoded to a typed copy. `loadAltName_spec` says what one iteration does in
each case, with any allocation pattern; everything about the walk follows from it by induction
(`altnamesLoop_view`, `altnamesLoop_extends`).

When the first entry is of an ignored type, `rv` is still -1 after it and the walk returns -1
without a message, whatever follows (`tls_cert_get_altnames_ignored_first`). When it is not, the
walk returns 0 exactly when no entry is invalid and the filled slots are the decoded entries in
order (`tls_cert_get_altnames_view`).
-/

set_option autoImplicit false

namespace Libusual.TlsCert

/-- `tls_load_alt_ia5string`: a DNS name, e-mail address or URI into the next slot. -/
def tls_load_alt_ia5string (ia5str : Asn1String) (cert_info : CertInfo) (slot_type : AltNameType) :
    HeapM (Int × CertInfo) := do
  if ia5str.type ≠ V_ASN1_IA5STRING then
    -- ignore unknown string type
    return (0, cert_info)
  let data := ia5str.data
  let len : Int := data.length
  if len ≤ 0 ∨ '\x00' ∈ data then
    tls_set_error "invalid string value"
    return (-1, cert_info)
  if len = 1 ∧ data.head? = some ' ' then
    tls_set_error "single space as name"
    return (-1, cert_info)
  let alt_name ← strdup (data ++ ['\x00'])
  let cert_info := cert_info.updSlot fun slot => { slot with alt_name := alt_name }
  if alt_name.isNone then
    tls_set_error "no mem"
    return (-1, cert_info)
  let cert_info := cert_info.updSlot fun slot => { slot with alt_name_type := some slot_type }
  return (0, { cert_info with subject_alt_name_count := cert_info.subject_alt_name_count + 1 })

/-- `tls_load_alt_ipaddr`: an IPv4 or IPv6 address into the next slot. The block `malloc(len)`
gives is filled by `memcpy` with the address bytes. -/
def tls_load_alt_ipaddr (bin : Asn1String) (cert_info : CertInfo) : HeapM (Int × CertInfo) := do
  let len : Int := bin.data.length
  let data := bin.data
  if len < 0 then
    tls_set_error "negative length for ipaddress"
    return (-1, cert_info)
  let slot_type : Option AltNameType :=
    if len = 4 then some .ipv4 else if len = 16 then some .ipv6 else none
  match slot_type with
  | none =>
    tls_set_error "invalid length for ipaddress"
    return (-1, cert_info)
  | some slot_type =>
    let cert_info := cert_info.updSlot fun slot => { slot with alt_name_type := some slot_type }
    let alt_name ← malloc data
    let cert_info := cert_info.updSlot fun slot => { slot with alt_name := alt_name }
    if alt_name.isNone then
      tls_set_error "no mem"
      return (-1, cert_info)
    return (0, { cert_info with subject_alt_name_count := cert_info.subject_alt_name_count + 1 })

/-- One iteration of the walk of `tls_cert_get_altnames`: the entry's loader, or nothing for an
ignored type, which keeps the previous `rv`. -/
def loadAltName (altname : GeneralName) (rv : Int) (cert_info : CertInfo) :
    HeapM (Int × CertInfo) :=
  match altname with
  | .dNSName name => tls_load_alt_ia5string name cert_info .dns
  | .rfc822Name name => tls_load_alt_ia5string name cert_info .email
  | .uniformResourceIdentifier name => tls_load_alt_ia5string name cert_info .uri
  | .iPAddress address => tls_load_alt_ipaddr address cert_info
  | _ => pure (rv, cert_info)

/-- The walk of `tls_cert_get_altnames` over the remaining entries. -/
def altnamesLoop : List GeneralName → Int → CertInfo → HeapM (Int × CertInfo)
  | [], _, cert_info => pure (0, cert_info)
  | altname :: rest, rv, cert_info => do
    let (rv, cert_info) ← loadAltName altname rv cert_info
    if rv < 0 then return (rv, cert_info)
    altnamesLoop rest rv cert_info

/-- `calloc(sizeof (struct tls_cert_alt_name), count)`. -/
def callocAltNames (count : Nat) : HeapM (Option AltNameArray) := do
  return (← acquire .block).map fun id => ⟨id, List.replicate count AltName.zero⟩

/-- `tls_cert_get_altnames`. -/
def tls_cert_get_altnames (cert_info : CertInfo) (x509_cert : X509) : HeapM (Int × CertInfo) := do
  match ← X509_get_ext_d2i x509_cert with
  | none => return (0, cert_info)
  | some (altname_stack, altnames) =>
    let count := altnames.length
    let (rv, cert_info) ← if count = 0 then pure (0, cert_info) else do
      match ← callocAltNames count with
      | none =>
        tls_set_error "no mem"
        pure (-1, cert_info)
      | some arr => altnamesLoop altnames (-1) { cert_info with subject_alt_names := some arr }
    sk_GENERAL_NAME_pop_free altname_stack
    return (rv, cert_info)

/-! ## What an entry should give -/

/-- What one entry should give. -/
inductive AltOutcome where
  /-- A `GENERAL_NAME` type the code does not read. -/
  | ignored
  /-- A DNS name, e-mail address or URI that is not an IA5String. -/
  | skipped
  | invalid
  | decoded (type : AltNameType) (data : List Char)
  deriving DecidableEq, Repr

/-- An IA5String entry: non-empty, no NUL, not a single space; its copy is NUL-terminated. -/
def ia5Outcome (name : Asn1String) (type : AltNameType) : AltOutcome :=
  if name.type ≠ V_ASN1_IA5STRING then .skipped
  else if name.data = [] ∨ '\x00' ∈ name.data ∨ name.data = [' '] then .invalid
  else .decoded type (name.data ++ ['\x00'])

/-- An address: four bytes for IPv4, sixteen for IPv6, copied as they are. -/
def ipOutcome (address : Asn1String) : AltOutcome :=
  if address.data.length = 4 then .decoded .ipv4 address.data
  else if address.data.length = 16 then .decoded .ipv6 address.data
  else .invalid

def altOutcome : GeneralName → AltOutcome
  | .dNSName name => ia5Outcome name .dns
  | .rfc822Name name => ia5Outcome name .email
  | .uniformResourceIdentifier name => ia5Outcome name .uri
  | .iPAddress address => ipOutcome address
  | _ => .ignored

/-- The entries decoded before the first invalid one, in order. -/
def decodedUntilInvalid : List GeneralName → List (AltNameType × List Char)
  | [] => []
  | altname :: rest =>
    match altOutcome altname with
    | .invalid => []
    | .decoded type data => (type, data) :: decodedUntilInvalid rest
    | _ => decodedUntilInvalid rest

/-! ## One iteration -/

/-- How one iteration ends, given what its entry should give. -/
def LoadResult (outcome : AltOutcome) (rv : Int) (cert : CertInfo) (h : Heap) :
    (Int × CertInfo) × Heap → Prop
  | ((ret, cert'), h') =>
    match outcome with
    | .ignored => ret = rv ∧ cert' = cert ∧ h' = h
    | .skipped => ret = 0 ∧ cert' = cert ∧ h' = h
    | .invalid => ret = -1 ∧ cert' = cert ∧ ∃ msg, h' = { h with errors := h.errors ++ [msg] }
    | .decoded type data =>
      if h.fails h.next then
        ret = -1 ∧ (∃ g, cert' = cert.updSlot g) ∧
          h' = { h with next := h.next + 1, errors := h.errors ++ ["no mem"] }
      else
        ret = 0 ∧
          cert' = { cert.updSlot (fun _ => ⟨some ⟨h.next, data⟩, some type⟩) with
            subject_alt_name_count := cert.subject_alt_name_count + 1 } ∧
          h' = { h with live := ⟨.block, h.next⟩ ::ₘ h.live, next := h.next + 1 }

theorem single_space_iff (data : List Char) :
    ((data.length : Int) = 1 ∧ data.head? = some ' ') ↔ data = [' '] := by
  rcases data with _ | ⟨c, _ | ⟨d, rest⟩⟩
  · simp
  · simp
  · simp; omega

theorem tls_load_alt_ia5string_spec (name : Asn1String) (type : AltNameType) (rv : Int)
    (cert : CertInfo) (h : Heap) :
    LoadResult (ia5Outcome name type) rv cert h ((tls_load_alt_ia5string name cert type).run h) := by
  by_cases ia5 : name.type = V_ASN1_IA5STRING
  swap
  · simp [tls_load_alt_ia5string, ia5Outcome, ia5, LoadResult]
  have empty : (name.data.length : Int) ≤ 0 ↔ name.data = [] := by
    rw [← List.length_eq_zero]; omega
  by_cases bad : name.data = [] ∨ '\x00' ∈ name.data ∨ name.data = [' ']
  · have outcome : ia5Outcome name type = .invalid := by simp [ia5Outcome, ia5, bad]
    rw [outcome]
    by_cases rejected : name.data = [] ∨ '\x00' ∈ name.data
    · simp [tls_load_alt_ia5string, ia5, empty, rejected, LoadResult]
    · have space : name.data = [' '] := by tauto
      simp [tls_load_alt_ia5string, ia5, space, LoadResult]
  · have outcome : ia5Outcome name type = .decoded type (name.data ++ ['\x00']) := by
      simp [ia5Outcome, ia5, bad]
    have nul : '\x00' ∉ name.data := fun m => bad (Or.inr (Or.inl m))
    have space : ¬ ((name.data.length : Int) = 1 ∧ name.data.head? = some ' ') := by
      rw [single_space_iff]; tauto
    rw [outcome]
    simp only [tls_load_alt_ia5string, ia5, ne_eq, not_true_eq_false, if_false, empty, space,
      show ¬ (name.data = [] ∨ '\x00' ∈ name.data) by tauto, StateT.run_bind, strdup,
      cstring_append_nul nul, malloc_run]
    by_cases fail : h.fails h.next <;>
      simp only [LoadResult, fail, if_true, if_false, Bool.false_eq_true, StateT.run_pure, Id.pure_eq,
        Id.bind_eq, Id.map_eq, StateT.run_map, bind_pure_comp, map_pure, tls_set_error_run,
        Option.isNone_iff_eq_none, Int.reduceNeg, Function.comp_def, CertInfo.updSlot_updSlot,
        CertInfo.updSlot_subject, CertInfo.updSlot_issuer, CertInfo.updSlot_count,
        CertInfo.updSlot_times, exists_apply_eq_apply', reduceCtorEq, and_self]

theorem tls_load_alt_ipaddr_spec (address : Asn1String) (rv : Int) (cert : CertInfo) (h : Heap) :
    LoadResult (ipOutcome address) rv cert h ((tls_load_alt_ipaddr address cert).run h) := by
  have pos : ¬ ((address.data.length : Int) < 0) := by omega
  by_cases four : address.data.length = 4
  · have outcome : ipOutcome address = .decoded .ipv4 address.data := by simp [ipOutcome, four]
    rw [outcome]
    by_cases fail : h.fails h.next <;>
      simp only [LoadResult, tls_load_alt_ipaddr, four, fail, Nat.cast_ofNat, Int.reduceLT, if_true, if_false,
        Bool.false_eq_true, OfNat.ofNat_eq_ofNat, Nat.reduceEqDiff, StateT.run_bind, malloc_run,
        StateT.run_pure, Id.pure_eq, Id.bind_eq, Id.map_eq, StateT.run_map, pure_bind,
        bind_pure_comp, map_pure, tls_set_error_run, Option.isNone_iff_eq_none, Int.reduceNeg,
        Function.comp_def, CertInfo.updSlot_updSlot, CertInfo.updSlot_subject,
        CertInfo.updSlot_issuer, CertInfo.updSlot_count, CertInfo.updSlot_times,
        exists_apply_eq_apply', reduceCtorEq, and_self]
  by_cases sixteen : address.data.length = 16
  · have outcome : ipOutcome address = .decoded .ipv6 address.data := by
      simp [ipOutcome, four, sixteen]
    rw [outcome]
    by_cases fail : h.fails h.next <;>
      simp only [LoadResult, tls_load_alt_ipaddr, four, sixteen, fail, Nat.cast_ofNat, Int.reduceLT, if_true, if_false,
        Bool.false_eq_true, OfNat.ofNat_eq_ofNat, Nat.reduceEqDiff, StateT.run_bind, malloc_run,
        StateT.run_pure, Id.pure_eq, Id.bind_eq, Id.map_eq, StateT.run_map, pure_bind,
        bind_pure_comp, map_pure, tls_set_error_run, Option.isNone_iff_eq_none, Int.reduceNeg,
        Function.comp_def, CertInfo.updSlot_updSlot, CertInfo.updSlot_subject,
        CertInfo.updSlot_issuer, CertInfo.updSlot_count, CertInfo.updSlot_times,
        exists_apply_eq_apply', reduceCtorEq, and_self]
  · have outcome : ipOutcome address = .invalid := by simp [ipOutcome, four, sixteen]
    rw [outcome]
    have four' : ¬ ((address.data.length : Int) = 4) := by omega
    have sixteen' : ¬ ((address.data.length : Int) = 16) := by omega
    simp [tls_load_alt_ipaddr, pos, four', sixteen', LoadResult]

theorem loadAltName_spec (altname : GeneralName) (rv : Int) (cert : CertInfo) (h : Heap) :
    LoadResult (altOutcome altname) rv cert h ((loadAltName altname rv cert).run h) := by
  cases altname with
  | dNSName name => exact tls_load_alt_ia5string_spec name .dns rv cert h
  | rfc822Name name => exact tls_load_alt_ia5string_spec name .email rv cert h
  | uniformResourceIdentifier name => exact tls_load_alt_ia5string_spec name .uri rv cert h
  | iPAddress address => exact tls_load_alt_ipaddr_spec address rv cert h
  | _ => simp [loadAltName, altOutcome, LoadResult]

theorem loadAltName_of_ignored {altname : GeneralName} (ignored : altOutcome altname = .ignored)
    (rv : Int) (cert : CertInfo) : loadAltName altname rv cert = pure (rv, cert) := by
  cases altname <;> simp only [altOutcome, ia5Outcome, ipOutcome] at ignored <;>
    first | rfl | (split_ifs at ignored)

/-- One iteration, whatever the allocation pattern: it acquires exactly the block of the slot it
fills, keeps the frame, counts at most one slot and only one holding a block, and either succeeds
silently, fails with one message and code -1, or passes an ignored entry over with the previous
code. -/
theorem loadAltName_extends (altname : GeneralName) (rv : Int) (cert : CertInfo) (h : Heap)
    (room : cert.subject_alt_name_count < cert.slots.length) :
    let ((ret, cert'), h') := (loadAltName altname rv cert).run h
    ∃ new msgs, Extends h h' new msgs ∧ cert'.altOwned = new + cert.altOwned ∧
      cert'.frame = cert.frame ∧ (cert.Filled → cert'.Filled) ∧
      cert.subject_alt_name_count ≤ cert'.subject_alt_name_count ∧
      cert'.subject_alt_name_count ≤ cert.subject_alt_name_count + 1 ∧
      (msgs = [] ∧ (ret = 0 ∨ (ret = rv ∧ altOutcome altname = .ignored)) ∨
        msgs.length = 1 ∧ ret = -1) := by
  have step := loadAltName_spec altname rv cert h
  rcases run : (loadAltName altname rv cert).run h with ⟨⟨ret, cert'⟩, h'⟩
  rw [run] at step
  cases outcome : altOutcome altname with
  | ignored =>
    simp only [LoadResult, outcome] at step
    obtain ⟨rfl, rfl, rfl⟩ := step
    exact ⟨0, [], Extends.refl _, by simp, rfl, id, le_rfl, by omega,
      Or.inl ⟨rfl, Or.inr ⟨rfl, rfl⟩⟩⟩
  | skipped =>
    simp only [LoadResult, outcome] at step
    obtain ⟨rfl, rfl, rfl⟩ := step
    exact ⟨0, [], Extends.refl _, by simp, rfl, id, le_rfl, by omega, Or.inl ⟨rfl, Or.inl rfl⟩⟩
  | invalid =>
    simp only [LoadResult, outcome] at step
    obtain ⟨rfl, rfl, msg, rfl⟩ := step
    exact ⟨0, [msg], Extends.error _ _, by simp, rfl, id, le_rfl, by omega, Or.inr ⟨rfl, rfl⟩⟩
  | decoded type data =>
    simp only [LoadResult, outcome] at step
    split at step
    · obtain ⟨rfl, ⟨g, rfl⟩, rfl⟩ := step
      exact ⟨0, ["no mem"], Extends.bumpError _ _, by simp [CertInfo.altOwned], by simp,
        (CertInfo.filled_updSlot _ _).mpr, by simp, by simp, Or.inr ⟨rfl, rfl⟩⟩
    · obtain ⟨rfl, rfl, rfl⟩ := step
      refine ⟨{⟨.block, h.next⟩}, [], Extends.acquired _ _, ?_,
        CertInfo.frame_updSlot cert fun _ => ⟨some ⟨h.next, data⟩, some type⟩,
        fun filled => filled.fill _ rfl room, by simp, by simp, Or.inl ⟨rfl, Or.inl rfl⟩⟩
      rw [CertInfo.altOwned, CertInfo.altNames_fill _ _ room]
      simp [CertInfo.altOwned, Blk.res, add_comm]

/-! ## The walk -/

theorem altnamesLoop_cons_run (altname : GeneralName) (rest : List GeneralName) (rv : Int)
    (cert : CertInfo) (h : Heap) :
    (altnamesLoop (altname :: rest) rv cert).run h =
      if ((loadAltName altname rv cert).run h).1.1 < 0 then (loadAltName altname rv cert).run h
      else (altnamesLoop rest ((loadAltName altname rv cert).run h).1.1
        ((loadAltName altname rv cert).run h).1.2).run ((loadAltName altname rv cert).run h).2 := by
  rcases run : (loadAltName altname rv cert).run h with ⟨⟨ret, cert'⟩, h'⟩
  by_cases neg : ret < 0 <;> simp [altnamesLoop, run, neg]

/-- With no allocation failing, and unless the walk starts with code -1 at an ignored entry, it
returns 0 exactly when no entry is invalid, and appends to the filled slots the entries decoded
before the first invalid one. -/
theorem altnamesLoop_view (names : List GeneralName) (rv : Int) (cert : CertInfo) (h : Heap)
    (noFail : ∀ n, h.fails n = false)
    (room : cert.subject_alt_name_count + names.length ≤ cert.slots.length)
    (start : 0 ≤ rv ∨ ∀ first ∈ names.head?, altOutcome first ≠ .ignored) :
    let ((ret, cert'), _) := (altnamesLoop names rv cert).run h
    (ret = 0 ↔ ∀ altname ∈ names, altOutcome altname ≠ .invalid) ∧
      cert'.altNames.map AltName.view =
        cert.altNames.map AltName.view ++ (decodedUntilInvalid names).map some := by
  induction names generalizing rv cert h with
  | nil => simp [altnamesLoop, decodedUntilInvalid]
  | cons first rest ih =>
    have step := loadAltName_spec first rv cert h
    rcases run : (loadAltName first rv cert).run h with ⟨⟨ret, cert₁⟩, h₁⟩
    rw [run] at step
    simp only [List.length_cons] at room
    rw [altnamesLoop_cons_run, run]
    cases outcome : altOutcome first with
    | ignored =>
      simp only [LoadResult, outcome] at step
      obtain ⟨ret_eq, cert_eq, heap_eq⟩ := step
      subst ret_eq cert_eq heap_eq
      have pos : 0 ≤ ret := by simpa [outcome] using start
      have := ih ret cert₁ h₁ noFail (by omega) (Or.inl pos)
      simpa [show ¬ ret < 0 by omega, decodedUntilInvalid, outcome] using this
    | skipped =>
      simp only [LoadResult, outcome] at step
      obtain ⟨ret_eq, cert_eq, heap_eq⟩ := step
      subst ret_eq cert_eq heap_eq
      have := ih 0 cert₁ h₁ noFail (by omega) (Or.inl le_rfl)
      simpa [decodedUntilInvalid, outcome] using this
    | invalid =>
      simp only [LoadResult, outcome] at step
      obtain ⟨ret_eq, cert_eq, -⟩ := step
      subst ret_eq cert_eq
      simp [decodedUntilInvalid, outcome]
    | decoded type data =>
      simp only [LoadResult, outcome, noFail, if_false] at step
      obtain ⟨ret_eq, cert_eq, heap_eq⟩ := step
      subst ret_eq cert_eq heap_eq
      have fill := CertInfo.altNames_fill cert ⟨some ⟨h.next, data⟩, some type⟩ (by omega)
      have length : { cert.updSlot (fun _ => ⟨some ⟨h.next, data⟩, some type⟩) with
          subject_alt_name_count := cert.subject_alt_name_count + 1 }.slots.length =
          cert.slots.length := CertInfo.length_slots_updSlot _ _
      have count : { cert.updSlot (fun _ => ⟨some ⟨h.next, data⟩, some type⟩) with
        subject_alt_name_count := cert.subject_alt_name_count + 1 }.subject_alt_name_count =
          cert.subject_alt_name_count + 1 := rfl
      generalize { cert.updSlot (fun _ => ⟨some ⟨h.next, data⟩, some type⟩) with
        subject_alt_name_count := cert.subject_alt_name_count + 1 } = filled at fill length count ⊢
      have := ih 0 filled { h with live := ⟨.block, h.next⟩ ::ₘ h.live, next := h.next + 1 } noFail
        (by rw [count, length]; omega) (Or.inl le_rfl)
      rcases run' : (altnamesLoop rest 0 filled).run
        { h with live := ⟨.block, h.next⟩ ::ₘ h.live, next := h.next + 1 } with ⟨⟨ret', cert'⟩, h'⟩
      rw [run'] at this
      obtain ⟨code, view⟩ := this
      simp only [lt_irrefl, if_false, run']
      refine ⟨by simp [code, outcome], ?_⟩
      rw [view, fill]
      simp [decodedUntilInvalid, outcome, AltName.view]

/-- The walk, whatever the allocation pattern: it acquires exactly the blocks of the slots it
fills, keeps the frame and fills at most one slot per entry, with a block. It records no message when it
returns 0 and one when it fails, except when it stops at once at an ignored first entry, still
holding the negative code it started with. -/
theorem altnamesLoop_extends (names : List GeneralName) (rv : Int) (cert : CertInfo) (h : Heap)
    (room : cert.subject_alt_name_count + names.length ≤ cert.slots.length) :
    let ((ret, cert'), h') := (altnamesLoop names rv cert).run h
    ∃ new msgs, Extends h h' new msgs ∧ cert'.altOwned = new + cert.altOwned ∧
      cert'.frame = cert.frame ∧ (cert.Filled → cert'.Filled) ∧
      cert.subject_alt_name_count ≤ cert'.subject_alt_name_count ∧
      cert'.subject_alt_name_count ≤ cert.subject_alt_name_count + names.length ∧
      (ret = 0 ∧ msgs = [] ∨ ret < 0 ∧ (msgs.length = 1 ∨
        msgs = [] ∧ ret = rv ∧ ∃ first ∈ names.head?, altOutcome first = .ignored)) := by
  induction names generalizing rv cert h with
  | nil => exact ⟨0, [], Extends.refl _, by simp, rfl, id, le_rfl, by simp, Or.inl ⟨rfl, rfl⟩⟩
  | cons first rest ih =>
    simp only [List.length_cons] at room
    have step := loadAltName_extends first rv cert h (by omega)
    rcases run : (loadAltName first rv cert).run h with ⟨⟨ret, cert₁⟩, h₁⟩
    rw [run] at step
    obtain ⟨new, msgs, ext, alt, frame, filled, le, le', code⟩ := step
    rw [altnamesLoop_cons_run, run, List.length_cons]
    by_cases neg : ret < 0
    · rw [if_pos neg]
      refine ⟨new, msgs, ext, alt, frame, filled, le, by omega, Or.inr ⟨neg, ?_⟩⟩
      rcases code with ⟨rfl, zero | ⟨rfl, ignored⟩⟩ | ⟨one, -⟩
      · omega
      · exact Or.inr ⟨rfl, rfl, first, rfl, ignored⟩
      · exact Or.inl one
    · rw [if_neg neg]
      have silent : msgs = [] := by
        rcases code with ⟨silent, -⟩ | ⟨-, failed⟩
        · exact silent
        · omega
      subst silent
      have length := CertInfo.slots_length_of_frame frame
      have tail := ih ret cert₁ h₁ (by omega)
      rcases run' : (altnamesLoop rest ret cert₁).run h₁ with ⟨⟨ret', cert'⟩, h'⟩
      rw [run'] at tail
      obtain ⟨new', msgs', ext', alt', frame', filled', le₁, le₁', code'⟩ := tail
      refine ⟨new' + new, msgs', by simpa using ext.trans ext', by rw [alt', alt, add_assoc],
        frame'.trans frame, filled' ∘ filled, by omega, by omega, ?_⟩
      rcases code' with ⟨zero, silent⟩ | ⟨failed, one | ⟨-, rfl, -⟩⟩
      · exact Or.inl ⟨zero, silent⟩
      · exact Or.inr ⟨failed, Or.inl one⟩
      · omega

theorem callocAltNames_run (count : Nat) (h : Heap) :
    (callocAltNames count).run h =
      if h.fails h.next then (none, { h with next := h.next + 1 })
      else (some ⟨h.next, List.replicate count AltName.zero⟩,
        { h with live := ⟨.block, h.next⟩ ::ₘ h.live, next := h.next + 1 }) := by
  simp only [callocAltNames, StateT.run_bind, acquire_run]
  split <;> rfl

/-- **`tls_cert_get_altnames`, whatever the allocation pattern.** From a record with no array,
it acquires exactly the array and the blocks of the slots it fills (the decoded stack is given
back), leaves the rest of the record alone, allocates one slot per entry and fills at most that
many, each with a block. It records no message when it returns 0 and one when it fails, except when the first entry
has an ignored type. -/
theorem tls_cert_get_altnames_extends (cert : CertInfo) (x509 : X509) (h : Heap)
    (blank : cert.subject_alt_names = none) (zero : cert.subject_alt_name_count = 0) :
    let ((ret, cert'), h') := (tls_cert_get_altnames cert x509).run h
    ∃ new msgs, Extends h h' new msgs ∧ cert'.owned = new + cert.owned ∧
      cert'.core = cert.core ∧ cert'.Shaped (x509.subjectAltName.getD []).length ∧ cert'.Filled ∧
      (ret = 0 ∧ msgs = [] ∨ ret < 0 ∧ (msgs.length = 1 ∨
        msgs = [] ∧ ∃ first ∈ (x509.subjectAltName.getD []).head?, altOutcome first = .ignored)) := by
  have unshaped : cert.Shaped 0 := by simp [CertInfo.Shaped, blank, zero]
  have filled := CertInfo.filled_of_count_zero zero
  simp only [tls_cert_get_altnames, StateT.run_bind, X509_get_ext_d2i_run]
  rcases ext : x509.subjectAltName with _ | names
  · exact ⟨0, [], Extends.refl _, by simp, rfl, by simpa using unshaped, filled,
      Or.inl ⟨rfl, rfl⟩⟩
  by_cases stackFail : h.fails h.next
  · simp only [stackFail, if_true]
    exact ⟨0, [], Extends.bump _, by simp, rfl, by simp [CertInfo.Shaped, blank, zero], filled,
      Or.inl ⟨rfl, rfl⟩⟩
  simp only [stackFail, if_false, Bool.false_eq_true]
  have stack := Extends.acquired h .stack
  generalize { h with live := ⟨.stack, h.next⟩ ::ₘ h.live, next := h.next + 1 } = h₁ at stack
  simp only [Id.bind_eq, Option.getD_some, StateT.run_bind, sk_GENERAL_NAME_pop_free]
  by_cases empty : names = []
  · subst empty
    have := stack.release (Multiset.mem_singleton_self _)
    simp only [List.length_nil, if_true, StateT.run_pure, Id.bind_eq]
    rw [Multiset.erase_singleton] at this
    exact ⟨0, [], this, by simp, rfl, by simpa using unshaped, filled, Or.inl ⟨rfl, rfl⟩⟩
  simp only [List.length_eq_zero, empty, if_false, StateT.run_bind, callocAltNames_run]
  by_cases arrayFail : h₁.fails h₁.next
  · simp only [arrayFail, if_true, Id.bind_eq, tls_set_error_run, StateT.run_pure]
    have := (stack.trans (Extends.bumpError h₁ "no mem")).release
      (show (⟨.stack, h.next⟩ : Res) ∈ (0 : Multiset Res) + {⟨.stack, h.next⟩} by simp)
    simp only [zero_add, Multiset.erase_singleton, List.nil_append] at this
    exact ⟨0, ["no mem"], this, by simp, rfl, by simp [CertInfo.Shaped, blank, zero], filled,
      Or.inr ⟨by omega, Or.inl rfl⟩⟩
  simp only [arrayFail, Bool.false_eq_true, if_false, Id.bind_eq]
  have array := stack.trans (Extends.acquired h₁ .block)
  generalize { h₁ with live := ⟨.block, h₁.next⟩ ::ₘ h₁.live, next := h₁.next + 1 } = h₂ at array
  generalize arrDef : (⟨h₁.next, List.replicate names.length AltName.zero⟩ : AltNameArray) = arr
  generalize certDef : { cert with subject_alt_names := some arr } = cert₀
  have length₀ : cert₀.slots.length = names.length := by
    simp [← certDef, ← arrDef, CertInfo.slots]
  have count₀ : cert₀.subject_alt_name_count = 0 := by simp [← certDef, zero]
  have loop := altnamesLoop_extends names (-1) cert₀ h₂ (by omega)
  rcases run : (altnamesLoop names (-1) cert₀).run h₂ with ⟨⟨ret, cert'⟩, h₃⟩
  rw [run] at loop
  obtain ⟨new, msgs, ext, alt, frame, filled', -, bound, code⟩ := loop
  have all := (array.trans ext).release
    (show (⟨.stack, h.next⟩ : Res) ∈ new + ({⟨.block, h₁.next⟩} + {⟨.stack, h.next⟩}) by simp)
  rw [← add_assoc, Multiset.erase_add_right_pos _ (Multiset.mem_singleton_self _),
    Multiset.erase_singleton, add_zero, List.nil_append, List.nil_append] at all
  simp only [StateT.run_bind, run, StateT.run_pure]
  have attached : cert₀.owned = {arr.res} + cert.owned := by
    rw [← certDef]; exact CertInfo.owned_attach cert arr blank zero
  have same₀ : cert₀.core = cert.core := by rw [← certDef]; rfl
  refine ⟨new + {⟨.block, h₁.next⟩}, msgs, all, ?_, (CertInfo.core_of_frame frame).trans same₀,
    CertInfo.shaped_of_frame frame (by simp [← certDef]) length₀ (by omega),
    filled' (CertInfo.filled_of_count_zero count₀), ?_⟩
  · rw [CertInfo.owned_of_frame frame alt, attached, ← arrDef, add_assoc]; rfl
  · rcases code with zero | ⟨neg, one | ⟨silent, -, ignored⟩⟩
    · exact Or.inl zero
    · exact Or.inr ⟨neg, Or.inl one⟩
    · exact Or.inr ⟨neg, Or.inr ⟨silent, ignored⟩⟩


/-- **With an ignored first entry the walk fails silently.** When both allocations succeed and the
first entry has a type the code does not read, `rv` keeps its initial -1 through that entry and
the walk stops there: it returns -1, fills no slot and records no message, whatever follows. -/
theorem tls_cert_get_altnames_ignored_first (cert : CertInfo) (x509 : X509) (h : Heap)
    (first : GeneralName) (rest : List GeneralName) (noFail : ∀ n, h.fails n = false)
    (ext : x509.subjectAltName = some (first :: rest)) (ignored : altOutcome first = .ignored) :
    let ((ret, cert'), h') := (tls_cert_get_altnames cert x509).run h
    ret = -1 ∧ cert'.subject_alt_name_count = cert.subject_alt_name_count ∧ h'.errors = h.errors := by
  simp only [tls_cert_get_altnames, StateT.run_bind, X509_get_ext_d2i_run, ext, noFail,
    Bool.false_eq_true, if_false, Id.bind_eq, List.length_cons, Nat.add_one_ne_zero,
    callocAltNames_run, altnamesLoop_cons_run, loadAltName_of_ignored ignored,
    sk_GENERAL_NAME_pop_free]
  simp [release_run]

/-- The per-entry outcomes of the walk, when no allocation fails and the first entry is not of an
ignored type: it returns 0 exactly when no recognised entry is invalid, and the filled slots are the
entries decoded before the first invalid one, in order. -/
theorem tls_cert_get_altnames_view (cert : CertInfo) (x509 : X509) (h : Heap)
    (names : List GeneralName) (noFail : ∀ n, h.fails n = false)
    (ext : x509.subjectAltName = some names) (zero : cert.subject_alt_name_count = 0)
    (start : ∀ first ∈ names.head?, altOutcome first ≠ .ignored) :
    let ((ret, cert'), _) := (tls_cert_get_altnames cert x509).run h
    (ret = 0 ↔ ∀ altname ∈ names, altOutcome altname ≠ .invalid) ∧
      cert'.altNames.map AltName.view = (decodedUntilInvalid names).map some := by
  simp only [tls_cert_get_altnames, StateT.run_bind, X509_get_ext_d2i_run, ext, noFail,
    Bool.false_eq_true, if_false, Id.bind_eq, sk_GENERAL_NAME_pop_free]
  rcases names with _ | ⟨first, rest⟩
  · simp [release_run, CertInfo.altNames, zero, decodedUntilInvalid]
  simp only [List.length_cons, Nat.add_one_ne_zero, if_false, callocAltNames_run, noFail,
    Bool.false_eq_true, StateT.run_bind, Id.bind_eq]
  generalize arrDef : (⟨h.next + 1, List.replicate (rest.length + 1) AltName.zero⟩ : AltNameArray) = arr
  generalize certDef : { cert with subject_alt_names := some arr } = cert₀
  have view := altnamesLoop_view (first :: rest) (-1) cert₀
    { h with live := ⟨.block, h.next + 1⟩ ::ₘ ⟨.stack, h.next⟩ ::ₘ h.live, next := h.next + 2 }
    (by simpa using noFail) (by simp [← certDef, ← arrDef, zero, CertInfo.slots]) (Or.inr start)
  have empty : cert₀.altNames = [] := by simp [← certDef, CertInfo.altNames, zero]
  rcases run : (altnamesLoop (first :: rest) (-1) cert₀).run
    { h with live := ⟨.block, h.next + 1⟩ ::ₘ ⟨.stack, h.next⟩ ::ₘ h.live, next := h.next + 2 } with
    ⟨⟨ret, cert'⟩, h'⟩
  rw [run] at view
  simpa [empty] using view

/-- One DNS name. -/
theorem tls_cert_get_altnames_view_dns :
    let names := [GeneralName.dNSName ⟨V_ASN1_IA5STRING, ['a']⟩]
    let ((ret, cert'), _) := (tls_cert_get_altnames (CertInfo.zeroed 0)
      ⟨0, none, none, some names, ⟨none⟩, ⟨none⟩, ⟨false, []⟩⟩).run Heap.init
    (ret = 0 ↔ ∀ altname ∈ names, altOutcome altname ≠ .invalid) ∧
      cert'.altNames.map AltName.view = (decodedUntilInvalid names).map some :=
  tls_cert_get_altnames_view _ _ Heap.init _ (fun _ => rfl) rfl rfl (by decide)

/-- A directoryName before a valid DNS name: no recognised entry is invalid, yet the walk
returns -1, fills no slot and records no message. -/
theorem tls_cert_get_altnames_directoryName_first (x509 : X509) :
    let names := [GeneralName.directoryName, .dNSName ⟨V_ASN1_IA5STRING, ['a']⟩]
    (∀ altname ∈ names, altOutcome altname ≠ .invalid) ∧
      let ((ret, cert'), h') :=
        (tls_cert_get_altnames (CertInfo.zeroed 0) { x509 with subjectAltName := some names }).run
          Heap.init
      ret = -1 ∧ cert'.subject_alt_name_count = 0 ∧ h'.errors = [] := by
  refine ⟨by decide, ?_⟩
  exact tls_cert_get_altnames_ignored_first (CertInfo.zeroed 0)
    { x509 with subjectAltName := some [.directoryName, .dNSName ⟨V_ASN1_IA5STRING, ['a']⟩] }
    Heap.init .directoryName [.dNSName ⟨V_ASN1_IA5STRING, ['a']⟩] (fun _ => rfl) rfl rfl

end Libusual.TlsCert
