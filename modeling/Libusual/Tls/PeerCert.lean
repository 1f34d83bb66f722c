import Libusual.Tls.AltNames
import Libusual.Tls.Time
import Libusual.Tls.Serial

/-!
# The peer's certificate

`tls_get_peer_cert` checks that the context is connected, takes a reference on the peer's
certificate with `SSL_get_peer_certificate`, checks its version, subject and issuer, allocates a
zeroed `struct tls_cert_info` and fills it in six steps, stopping at the first that fails: the
subject and the issuer entities, the subjectAltNames, the two times and the serial
(`peerSteps`). On success the record goes to `*cert_p`; otherwise `tls_cert_free` releases it.
`tls_get_peer_cert_fingerprint` takes the same reference and hands the certificate to
`X509_digest`.

Each step grows the record by exactly the blocks it acquires and writes no field of a later step
(`peerSteps_grow`). By `chain_grows`, at the return of every step the record owns distinct blocks
that are, with what was held before it was allocated, the whole ledger; its count stays within the
array and each filled slot holds a block; and `tls_cert_free` gives them back
(`tls_get_peer_cert_stages`).

On every path and under every pattern of allocation failures, `tls_get_peer_cert` acquires
exactly the blocks of the record it returns and the reference it took, and records one message
when it fails, except when the first subjectAltName entry has a type the walk passes over
(`tls_get_peer_cert_spec`). Neither function drops the reference, so once a certificate was found
the ledger never comes back to what it was (`tls_get_peer_cert_keeps_reference`).
-/

set_option autoImplicit false

namespace Libusual.TlsCert

/-! ## The model -/

/-- `ret = tls_get_entity(ctx, name, &cert->subject)`, and the same for the issuer. -/
def entityInto (name : X509Name) (field : CertInfo → Entity) (store : CertInfo → Entity → CertInfo)
    (cert : CertInfo) : HeapM (Int × CertInfo) := do
  let (ret, ent) ← tls_get_entity name (field cert)
  return (ret, store cert ent)

/-- `ret = tls_parse_time(ctx, X509_get_notBefore(peer), &cert->not_before)`, and the same for the
other time and for the serial. -/
def parseInto (parse : HeapM (Int × Option Blk)) (store : CertInfo → Option Blk → CertInfo)
    (cert : CertInfo) : HeapM (Int × CertInfo) := do
  let (ret, dst) ← parse
  return (ret, store cert dst)

/-- The six steps of `tls_get_peer_cert` that fill the record, in its order. -/
def peerSteps (peer : X509) (subject issuer : X509Name) :
    List (CertInfo → HeapM (Int × CertInfo)) :=
  [entityInto subject CertInfo.subject fun cert ent => { cert with subject := ent },
    entityInto issuer CertInfo.issuer fun cert ent => { cert with issuer := ent },
    fun cert => tls_cert_get_altnames cert peer,
    parseInto (tls_parse_time peer.notBefore) fun cert dst => { cert with not_before := dst },
    parseInto (tls_parse_time peer.notAfter) fun cert dst => { cert with not_after := dst },
    parseInto (tls_parse_bigint peer.serialNumber) fun cert dst => { cert with serial := dst }]

/-- `calloc(sizeof *cert, 1)`. -/
def callocCert : HeapM (Option CertInfo) := do
  return (← acquire .block).map CertInfo.zeroed

/-- `tls_get_peer_cert`: the code and the record left in `*cert_p`. -/
def tls_get_peer_cert (ctx : Tls) : HeapM (Int × Option CertInfo) :=
  match ctx.ssl_conn with
  | none => do
    tls_set_error "not connected"
    return (-1, none)
  | some conn => do
    match ← SSL_get_peer_certificate conn with
    | none =>
      tls_set_error "peer does not have cert"
      return (-1, none)
    | some peer =>
      let version := peer.version
      if version < 0 then
        tls_set_error "invalid version"
        return (-1, none)
      match peer.subject, peer.issuer with
      | none, _ =>
        tls_set_error "cert does not have subject"
        return (-1, none)
      | some _, none =>
        tls_set_error "cert does not have issuer"
        return (-1, none)
      | some subject, some issuer =>
        match ← callocCert with
        | none =>
          tls_set_error "calloc failed"
          tls_cert_free none
          return (-1, none)
        | some cert =>
          let (ret, cert) ← chain (peerSteps peer subject issuer) { cert with version := version }
          if ret = 0 then return (0, some cert)
          tls_cert_free (some cert)
          return (ret, none)

/-- The message digests `tls_get_peer_cert_fingerprint` accepts. -/
inductive EvpMd where
  | sha1
  | sha256
  deriving DecidableEq, Repr

/-- `strcasecmp(s, t) == 0`: the C strings agree up to the case of ASCII letters. -/
def strcasecmpEq (s t : List Char) : Bool :=
  (cstring s).map Char.toLower == (cstring t).map Char.toLower

/-- `X509_digest`: the digest, unless its context cannot be allocated. -/
def X509_digest (digest : List UInt8) : HeapM (Option (List UInt8)) := do
  let ok ← attempt
  return if ok then some digest else none

/-- The algorithm `algo` names: `EVP_sha1()` or `EVP_sha256()`, whatever the case of its letters. -/
def fingerprintMd (algo : List Char) : Option EvpMd :=
  if strcasecmpEq algo "sha1".toList then some .sha1
  else if strcasecmpEq algo "sha256".toList then some .sha256
  else none

/-- `tls_get_peer_cert_fingerprint`: the code, the bytes of `buf` after the call and `*outlen`.
`digest` is what `X509_digest` computes for a certificate and an algorithm. -/
def tls_get_peer_cert_fingerprint (digest : X509 → EvpMd → List UInt8) (ctx : Tls)
    (algo : List Char) (buf : List UInt8) (buflen : Nat) : HeapM (Int × List UInt8 × Nat) :=
  match ctx.ssl_conn with
  | none => do
    tls_set_error "not connected"
    return (-1, buf, 0)
  | some conn => do
    match ← SSL_get_peer_certificate conn with
    | none =>
      tls_set_error "peer does not have cert"
      return (-1, buf, 0)
    | some peer =>
      match fingerprintMd algo with
      | none =>
        tls_set_error "invalid fingerprint algorithm"
        return (-1, buf, 0)
      | some md =>
        match ← X509_digest (digest peer md) with
        | none =>
          tls_set_error "X509_digest failed"
          return (-1, buf, 0)
        | some tmpbuf =>
          let tmplen := min tmpbuf.length buflen
          return (0, tmpbuf.take tmplen ++ buf.drop tmplen, tmplen)

/-! ## The record between the steps -/

/-- The number of subjectAltName entries of a certificate. -/
def sanCount (peer : X509) : Nat := (peer.subjectAltName.getD []).length

/-- The first subjectAltName entry has a type the walk passes over. -/
def SilentAlt (peer : X509) : Prop :=
  ∃ first ∈ (peer.subjectAltName.getD []).head?, altOutcome first = .ignored

/-- The field, or the pair of fields, step `j` of the extraction writes is as `calloc` left it. -/
def CertInfo.Blank (cert : CertInfo) : Nat → Prop
  | 0 => cert.subject = Entity.empty
  | 1 => cert.issuer = Entity.empty
  | 2 => cert.subject_alt_names = none ∧ cert.subject_alt_name_count = 0
  | 3 => cert.not_before = none
  | 4 => cert.not_after = none
  | 5 => cert.serial = none
  | _ => True

theorem CertInfo.blank_zeroed (id : Nat) (version : Int) (j : Nat) :
    { CertInfo.zeroed id with version := version }.Blank j := by
  rcases j with _ | _ | _ | _ | _ | _ | j <;> simp [CertInfo.Blank, CertInfo.zeroed]

/-- The record as step `k` gets it: the fields of the steps from `k` on are blank, the
subjectAltName fields are shaped for the certificate's entries and each filled slot holds a
block. -/
structure Stage (peer : X509) (k : Nat) (cert : CertInfo) : Prop where
  blank : ∀ j, k ≤ j → cert.Blank j
  shaped : cert.Shaped (sanCount peer)
  filled : cert.Filled

theorem entityInto_run (name : X509Name) (field : CertInfo → Entity)
    (store : CertInfo → Entity → CertInfo) (cert : CertInfo) (h : Heap) :
    (entityInto name field store cert).run h =
      ((((tls_get_entity name (field cert)).run h).1.1,
        store cert ((tls_get_entity name (field cert)).run h).1.2),
        ((tls_get_entity name (field cert)).run h).2) := rfl

theorem parseInto_run (parse : HeapM (Int × Option Blk)) (store : CertInfo → Option Blk → CertInfo)
    (cert : CertInfo) (h : Heap) :
    (parseInto parse store cert).run h =
      (((parse.run h).1.1, store cert (parse.run h).1.2), (parse.run h).2) := rfl

/-- An entity step grows the record by what the entity grows by. -/
theorem entityInto_grows (name : X509Name) (field : CertInfo → Entity)
    (store : CertInfo → Entity → CertInfo) (cert : CertInfo) (h : Heap)
    (blank : field cert = Entity.empty)
    (owns : ∀ ent, (store cert ent).owned + (field cert).owned = ent.owned + cert.owned) :
    Grows CertInfo.owned False cert h ((entityInto name field store cert).run h) := by
  rw [entityInto_run, blank]
  exact (tls_get_entity_grows name h).map (store cert) (blank ▸ owns)

/-- A time or serial step grows the record by the block it parses into its `NULL` field. -/
theorem parseInto_grows (parse : HeapM (Int × Option Blk)) (store : CertInfo → Option Blk → CertInfo)
    (cert : CertInfo) (h : Heap) (parsed : Parsed h (parse.run h))
    (owns : ∀ dst, (store cert dst).owned = ownOpt (dst.map Blk.res) + cert.owned) :
    Grows CertInfo.owned False cert h ((parseInto parse store cert).run h) :=
  parsed.grows.map (store cert) fun dst => by simp [owns]

/-- The subjectAltName step grows the record, keeps it shaped with its filled slots holding
blocks, and writes nothing outside the subjectAltName fields. -/
theorem altnames_grows (peer : X509) (cert : CertInfo) (h : Heap)
    (blank : cert.subject_alt_names = none ∧ cert.subject_alt_name_count = 0) :
    Grows CertInfo.owned (SilentAlt peer) cert h ((tls_cert_get_altnames cert peer).run h) ∧
      ((tls_cert_get_altnames cert peer).run h).1.2.core = cert.core ∧
      ((tls_cert_get_altnames cert peer).run h).1.2.Shaped (sanCount peer) ∧
      ((tls_cert_get_altnames cert peer).run h).1.2.Filled := by
  have walk := tls_cert_get_altnames_extends cert peer h blank.1 blank.2
  rcases run : (tls_cert_get_altnames cert peer).run h with ⟨⟨ret, cert'⟩, h'⟩
  rw [run] at walk
  obtain ⟨new, msgs, ext, own, core, shaped, filled, code⟩ := walk
  refine ⟨⟨new, msgs, ext, own, ?_⟩, core, shaped, filled⟩
  rcases code with zero | ⟨neg, one | silent⟩
  · exact Or.inl zero
  · exact Or.inr ⟨by omega, Or.inl one⟩
  · exact Or.inr ⟨by omega, Or.inr silent⟩

theorem CertInfo.blank_of_core {cert cert' : CertInfo} (same : cert'.core = cert.core) (j : Nat)
    (ne : j ≠ 2) : cert'.Blank j ↔ cert.Blank j := by
  simp only [CertInfo.core, Prod.mk.injEq] at same
  rcases j with _ | _ | _ | _ | _ | _ | j <;> simp_all [CertInfo.Blank]

theorem Stage.next {peer : X509} {k : Nat} {cert cert' : CertInfo} (ready : Stage peer k cert)
    (same : ∀ j, k < j → (cert'.Blank j ↔ cert.Blank j)) (shaped : cert'.Shaped (sanCount peer))
    (filled : cert'.Filled) : Stage peer (k + 1) cert' :=
  ⟨fun j le => (same j le).mpr (ready.blank j (by omega)), shaped, filled⟩

/-- **Every step of the extraction.** From a record whose fields from its own on are blank, a
step grows the record by exactly the blocks it acquires, keeps it shaped and leaves the fields of
the later steps blank. It fails silently only at an ignored first subjectAltName entry. -/
theorem peerSteps_grow (peer : X509) (subject issuer : X509Name) (i : Nat)
    (step : CertInfo → HeapM (Int × CertInfo))
    (at_i : (peerSteps peer subject issuer)[i]? = some step) (cert : CertInfo) (h : Heap)
    (ready : Stage peer i cert) :
    Grows CertInfo.owned (SilentAlt peer) cert h ((step cert).run h) ∧
      Stage peer (i + 1) ((step cert).run h).1.2 := by
  have blank := ready.blank i le_rfl
  rcases i with _ | _ | _ | _ | _ | _ | i <;> simp only [peerSteps, List.getElem?_cons_zero,
    List.getElem?_cons_succ, List.getElem?_nil, Option.some.injEq, reduceCtorEq] at at_i <;>
    subst at_i
  · -- the subject
    refine ⟨(entityInto_grows subject CertInfo.subject (fun cert ent => { cert with subject := ent })
      cert h blank (CertInfo.owned_subject cert)).mono False.elim,
      ready.next (fun j lt => ?_) ready.shaped ready.filled⟩
    rcases j with _ | _ | _ | _ | _ | _ | j <;> first | omega | exact Iff.rfl
  · -- the issuer
    refine ⟨(entityInto_grows issuer CertInfo.issuer (fun cert ent => { cert with issuer := ent })
      cert h blank (CertInfo.owned_issuer cert)).mono False.elim,
      ready.next (fun j lt => ?_) ready.shaped ready.filled⟩
    rcases j with _ | _ | _ | _ | _ | _ | j <;> first | omega | exact Iff.rfl
  · -- the subjectAltNames
    obtain ⟨grows, core, shaped, filled⟩ := altnames_grows peer cert h blank
    exact ⟨grows, ready.next (fun j lt => CertInfo.blank_of_core core j (by omega)) shaped filled⟩
  · -- notBefore
    refine ⟨(parseInto_grows _ (fun cert dst => { cert with not_before := dst }) cert h
      (tls_parse_time_parsed _ h) fun dst => CertInfo.owned_not_before cert dst blank).mono
      False.elim, ready.next (fun j lt => ?_) ready.shaped ready.filled⟩
    rcases j with _ | _ | _ | _ | _ | _ | j <;> first | omega | exact Iff.rfl
  · -- notAfter
    refine ⟨(parseInto_grows _ (fun cert dst => { cert with not_after := dst }) cert h
      (tls_parse_time_parsed _ h) fun dst => CertInfo.owned_not_after cert dst blank).mono
      False.elim, ready.next (fun j lt => ?_) ready.shaped ready.filled⟩
    rcases j with _ | _ | _ | _ | _ | _ | j <;> first | omega | exact Iff.rfl
  · -- the serial
    refine ⟨(parseInto_grows _ (fun cert dst => { cert with serial := dst }) cert h
      (tls_parse_bigint_parsed _ h) fun dst => CertInfo.owned_serial cert dst blank).mono
      False.elim, ready.next (fun j lt => ?_) ready.shaped ready.filled⟩
    rcases j with _ | _ | _ | _ | _ | _ | j <;> first | omega | exact Iff.rfl

/-- The first `k` steps, from a record ready for the first: they grow it, and it is left ready for
the step after the last one run. -/
theorem peerChain_grows (peer : X509) (subject issuer : X509Name) (k : Nat) (cert : CertInfo)
    (h : Heap) (ready : Stage peer 0 cert) :
    Grows CertInfo.owned (SilentAlt peer) cert h
        ((chain ((peerSteps peer subject issuer).take k) cert).run h) ∧
      ∃ i ≤ k, Stage peer i ((chain ((peerSteps peer subject issuer).take k) cert).run h).1.2 := by
  have step : ∀ i (s : CertInfo → HeapM (Int × CertInfo)),
      ((peerSteps peer subject issuer).take k)[i]? = some s → ∀ cert h, Stage peer (0 + i) cert →
        Grows CertInfo.owned (SilentAlt peer) cert h ((s cert).run h) ∧
          Stage peer (0 + i + 1) ((s cert).run h).1.2 := by
    intro i s mem cert h ready
    rw [List.getElem?_take] at mem
    split at mem
    · simpa using peerSteps_grow peer subject issuer i s mem cert h (by simpa using ready)
    · cases mem
  obtain ⟨grows, i, le, stage⟩ :=
    chain_grows CertInfo.owned (SilentAlt peer) (Stage peer) _ 0 step cert h ready
  exact ⟨grows, i, le.trans (List.length_take_le _ _), by simpa using stage⟩

/-- **The ownership invariant at every return of a step.** Once the record is allocated, after the
first `k` steps and under any pattern of allocation failures: the record owns distinct blocks
which, with what was held before the allocation, are all that is held; its subjectAltName fields
are shaped for the certificate's entries, and each of the first `subject_alt_name_count` slots
holds a block; the fields of the steps not yet run are as `calloc` left them; and `tls_cert_free`
gives back exactly its blocks. Inside the subjectAltName step, the walk over the first `i` entries
has filled at most `i` slots of its array, each with a block. -/
theorem tls_get_peer_cert_stages (peer : X509) (subject issuer : X509Name) (h : Heap) (k : Nat) :
    (∀ (record : CertInfo) (id i : Nat) (h₂ : Heap),
      let array : AltNameArray := ⟨id, List.replicate (sanCount peer) AltName.zero⟩
      let cert := ((altnamesLoop ((peer.subjectAltName.getD []).take i) (-1)
        { record with subject_alt_names := some array, subject_alt_name_count := 0 }).run h₂).1.2
      cert.subject_alt_name_count ≤ i ∧
        ∀ j < cert.subject_alt_name_count, ∃ slot ∈ cert.slots[j]?, slot.alt_name.isSome) ∧
    let ((_, cert), h') := (chain ((peerSteps peer subject issuer).take k)
      { CertInfo.zeroed h.next with version := peer.version }).run
        { h with live := ⟨.block, h.next⟩ ::ₘ h.live, next := h.next + 1 }
    cert.owned.Nodup ∧ h'.live = cert.owned + h.live ∧ cert.Shaped (sanCount peer) ∧
      (∀ j < cert.subject_alt_name_count, ∃ slot ∈ cert.slots[j]?, slot.alt_name.isSome) ∧
      (∀ j, k ≤ j → cert.Blank j) ∧
      (tls_cert_free (some cert)).run h' = ((), { h' with live := h.live }) := by
  refine ⟨fun record id i h₂ => ?_, ?_⟩
  · intro array
    have walk := altnamesLoop_extends ((peer.subjectAltName.getD []).take i) (-1)
      { record with subject_alt_names := some array, subject_alt_name_count := 0 } h₂
      (by simp [array, CertInfo.slots, sanCount])
    rcases run : (altnamesLoop ((peer.subjectAltName.getD []).take i) (-1)
      { record with subject_alt_names := some array, subject_alt_name_count := 0 }).run h₂ with
      ⟨⟨ret, cert⟩, h'⟩
    rw [run] at walk
    obtain ⟨-, -, -, -, frame, filled, -, bound, -⟩ := walk
    have slots := CertInfo.slots_length_of_frame frame
    simp only [List.length_take, zero_add] at bound ⊢
    refine ⟨by omega, (filled (CertInfo.filled_of_count_zero rfl)).held_below ?_⟩
    rw [slots]
    simp only [array, CertInfo.slots, Option.map_some', Option.getD_some, List.length_replicate,
      sanCount]
    omega
  · have ready : Stage peer 0 { CertInfo.zeroed h.next with version := peer.version } :=
      ⟨fun j _ => CertInfo.blank_zeroed _ _ j, by simp [CertInfo.Shaped, CertInfo.zeroed],
        CertInfo.filled_of_count_zero rfl⟩
    obtain ⟨grows, i, le, stage⟩ := peerChain_grows peer subject issuer k _
      { h with live := ⟨.block, h.next⟩ ::ₘ h.live, next := h.next + 1 } ready
    rcases run : (chain ((peerSteps peer subject issuer).take k)
      { CertInfo.zeroed h.next with version := peer.version }).run
        { h with live := ⟨.block, h.next⟩ ::ₘ h.live, next := h.next + 1 } with ⟨⟨ret, cert⟩, h'⟩
    rw [run] at grows stage
    obtain ⟨new, msgs, ext, own, -⟩ := grows
    have owned : cert.owned = new + {⟨.block, h.next⟩} := own
    have live : h'.live = cert.owned + h.live := by
      rw [ext.live, owned, add_assoc, Multiset.singleton_add]
    have nodup : cert.owned.Nodup := by
      rw [owned]
      refine Multiset.nodup_add.mpr ⟨ext.nodup, Multiset.nodup_singleton _,
        Multiset.disjoint_left.mpr fun mem same => ?_⟩
      have := (ext.fresh _ mem).1
      rw [Multiset.mem_singleton.mp same] at this
      exact absurd this (by simp)
    refine ⟨nodup, live, stage.shaped, stage.filled.held_below stage.shaped.fits,
      fun j hj => stage.blank j (le.trans hj), ?_⟩
    rw [tls_cert_free_run cert h' stage.shaped.fits nodup (live ▸ Multiset.le_add_right _ _), live,
      add_tsub_cancel_left]

/-! ## Every path of `tls_get_peer_cert` -/

/-- The certificate of the peer a context is connected to. -/
def peerCertificate (ctx : Tls) : Option X509 := ctx.ssl_conn.bind Ssl.peer

/-- The reference `SSL_get_peer_certificate` takes at `h`, when there is a certificate. -/
def peerRef (ctx : Tls) (h : Heap) : Multiset Res :=
  ownOpt ((peerCertificate ctx).map fun _ => ⟨.x509Ref, h.next⟩)

/-- How `tls_get_peer_cert` ends, from `h`, having taken the references `refs`: it acquires
exactly the blocks of the record it returns and those references, and the record's count stays
within its slots; with code 0 it returns a record and records no message, otherwise it returns
none and records one message, or none when the first subjectAltName entry of the certificate is of
an ignored type. -/
def PeerOutcome (peer? : Option X509) (refs : Multiset Res) (h : Heap) :
    (Int × Option CertInfo) × Heap → Prop
  | ((ret, cert_p), h') => ∃ msgs, Extends h h' ((cert_p.map CertInfo.owned).getD 0 + refs) msgs ∧
      (∀ cert ∈ cert_p, cert.subject_alt_name_count ≤ cert.slots.length) ∧
      (ret = 0 ∧ cert_p.isSome ∧ msgs = [] ∨
        ret ≠ 0 ∧ cert_p = none ∧ (msgs.length = 1 ∨ msgs = [] ∧ ∃ peer ∈ peer?, SilentAlt peer))

/-- An early exit: one message and no record. -/
theorem PeerOutcome.error {peer? : Option X509} {refs : Multiset Res} {h h' : Heap}
    (ext : Extends h h' refs []) (msg : String) :
    PeerOutcome peer? refs h ((-1, none), { h' with errors := h'.errors ++ [msg] }) :=
  ⟨[msg], by simpa using ext.trans (Extends.error h' msg), by simp,
    Or.inr ⟨by decide, rfl, Or.inl rfl⟩⟩

/-- **`tls_get_peer_cert` on every path.** For every context and every pattern of allocation
failures, it acquires exactly the blocks of the record it returns and the reference it took on
the peer's certificate. With code 0 it returns a record and records no message; otherwise it
returns none, after giving the partial record back, and records one message, or none when the
first subjectAltName entry is of an ignored type. -/
theorem tls_get_peer_cert_spec (ctx : Tls) (h : Heap) :
    PeerOutcome (peerCertificate ctx) (peerRef ctx h) h ((tls_get_peer_cert ctx).run h) := by
  rcases connected : ctx.ssl_conn with _ | conn
  · simp only [tls_get_peer_cert, peerRef, peerCertificate, connected, StateT.run_bind,
      tls_set_error_run, Id.bind_eq, StateT.run_pure, Id.pure_eq, Option.bind_none,
      Option.map_none', ownOpt_none]
    exact PeerOutcome.error (Extends.refl h) _
  rcases present : conn.peer with _ | peer
  · simp only [tls_get_peer_cert, peerRef, peerCertificate, connected, present,
      SSL_get_peer_certificate_run, StateT.run_bind, tls_set_error_run, Id.bind_eq,
      StateT.run_pure, Id.pure_eq, Option.some_bind, Option.map_none', ownOpt_none]
    exact PeerOutcome.error (Extends.refl h) _
  simp only [tls_get_peer_cert, peerRef, peerCertificate, connected, present,
    SSL_get_peer_certificate_run, StateT.run_bind, Id.bind_eq, Option.some_bind,
    Option.map_some', ownOpt_some]
  have ref := Extends.acquired h .x509Ref
  generalize { h with live := ⟨.x509Ref, h.next⟩ ::ₘ h.live, next := h.next + 1 } = h₁ at ref ⊢
  by_cases version : peer.version < 0
  · simp only [version, if_true, StateT.run_bind, tls_set_error_run, Id.bind_eq, StateT.run_pure,
      Id.pure_eq]
    exact PeerOutcome.error ref _
  rcases subj : peer.subject with _ | subject
  · simp only [version, subj, if_false, StateT.run_bind, tls_set_error_run, Id.bind_eq,
      StateT.run_pure, Id.pure_eq]
    exact PeerOutcome.error ref _
  rcases iss : peer.issuer with _ | issuer
  · simp only [version, subj, iss, if_false, StateT.run_bind, tls_set_error_run, Id.bind_eq,
      StateT.run_pure, Id.pure_eq]
    exact PeerOutcome.error ref _
  simp only [version, subj, iss, if_false, StateT.run_bind, StateT.run_pure, Id.bind_eq,
    Id.pure_eq, callocCert, acquire_run]
  by_cases fail : h₁.fails h₁.next
  · simp only [fail, if_true, Option.map_none', tls_set_error_run, free_none_run, tls_cert_free,
      StateT.run_pure, Id.pure_eq]
    exact PeerOutcome.error (by simpa using ref.trans (Extends.bump h₁)) _
  simp only [fail, Bool.false_eq_true, if_false, Option.map_some']
  have record := ref.trans (Extends.acquired h₁ .block)
  generalize { h₁ with live := ⟨.block, h₁.next⟩ ::ₘ h₁.live, next := h₁.next + 1 } = h₂ at record ⊢
  have ready : Stage peer 0 { CertInfo.zeroed h₁.next with version := peer.version } :=
    ⟨fun j _ => CertInfo.blank_zeroed _ _ j, by simp [CertInfo.Shaped, CertInfo.zeroed],
      CertInfo.filled_of_count_zero rfl⟩
  obtain ⟨grows, i, -, stage⟩ := peerChain_grows peer subject issuer 6 _ h₂ ready
  rcases run : (chain (peerSteps peer subject issuer)
    { CertInfo.zeroed h₁.next with version := peer.version }).run h₂ with ⟨⟨ret, cert⟩, h₃⟩
  rw [show (peerSteps peer subject issuer).take 6 = peerSteps peer subject issuer from rfl,
    run] at grows stage
  obtain ⟨new, msgs, ext, own, code⟩ := grows
  have all : Extends h h₃ (cert.owned + {⟨.x509Ref, h.next⟩}) msgs := by
    simpa [show cert.owned = new + {⟨.block, h₁.next⟩} from own, add_assoc] using record.trans ext
  simp only [StateT.run_bind, run]
  by_cases zero : ret = 0
  · simp only [zero, if_true, StateT.run_pure, Id.pure_eq]
    refine ⟨msgs, by simpa using all,
      fun c mem => Option.mem_some_iff.mp mem ▸ stage.shaped.fits, Or.inl ⟨rfl, rfl, ?_⟩⟩
    rcases code with ⟨-, quiet⟩ | ⟨failed, -⟩
    · exact quiet
    · exact absurd zero failed
  · have nodup := (Multiset.nodup_add.mp all.nodup).1
    have held : cert.owned ≤ h₃.live := by
      rw [all.live, add_assoc]
      exact Multiset.le_add_right _ _
    simp only [zero, if_false, StateT.run_bind, StateT.run_pure, Id.bind_eq, Id.pure_eq,
      tls_cert_free_run cert h₃ stage.shaped.fits nodup held]
    refine ⟨msgs, by simpa using all.drop, by simp, Or.inr ⟨zero, rfl, ?_⟩⟩
    rcases code with ⟨quiet, -⟩ | ⟨-, one | ⟨quiet, silent⟩⟩
    · exact absurd quiet zero
    · exact Or.inl one
    · exact Or.inr ⟨quiet, peer, rfl, silent⟩

/-- **`tls_get_peer_cert` reports each failure.** It returns 0 exactly when it hands out a record,
and then records no message. Otherwise it records exactly one message, or none when the first
subjectAltName entry of the certificate is of an ignored type. -/
theorem tls_get_peer_cert_reports (ctx : Tls) (h : Heap) :
    let ((ret, cert_p), h') := (tls_get_peer_cert ctx).run h
    (ret = 0 ↔ cert_p.isSome) ∧ (ret = 0 → h'.errors = h.errors) ∧
      (ret ≠ 0 → (∃ msg, h'.errors = h.errors ++ [msg]) ∨
        h'.errors = h.errors ∧ ∃ peer ∈ peerCertificate ctx, SilentAlt peer) := by
  have spec := tls_get_peer_cert_spec ctx h
  rcases run : (tls_get_peer_cert ctx).run h with ⟨⟨ret, cert_p⟩, h'⟩
  rw [run] at spec
  obtain ⟨msgs, ext, -, ⟨rfl, some, rfl⟩ | ⟨failed, rfl, code⟩⟩ := spec
  · exact ⟨by simpa using some, fun _ => by simpa using ext.errors, fun failed => absurd rfl failed⟩
  · refine ⟨by simpa using failed, fun zero => absurd zero failed, fun _ => ?_⟩
    rcases code with one | ⟨rfl, silent⟩
    · obtain ⟨msg, rfl⟩ := List.length_eq_one.mp one
      exact Or.inl ⟨msg, ext.errors⟩
    · exact Or.inr ⟨by simpa using ext.errors, silent⟩

/-- A connected peer whose certificate's only subjectAltName entry is a directoryName, with no
allocation failing: `tls_get_peer_cert` hands out no record and returns -1, yet records no
message. -/
theorem tls_get_peer_cert_silent_failure :
    let peer : X509 :=
      ⟨0, some ⟨[]⟩, some ⟨[]⟩, some [.directoryName], ⟨none⟩, ⟨none⟩, ⟨false, []⟩⟩
    ((tls_get_peer_cert ⟨some ⟨some peer⟩⟩).run Heap.init).1 = (-1, none) ∧
      ((tls_get_peer_cert ⟨some ⟨some peer⟩⟩).run Heap.init).2.errors = [] := by
  decide

/-- **The ledger after `tls_get_peer_cert`.** On failure it holds what it held at entry and the
reference taken on the peer's certificate. On success it also holds the record's blocks, which
`tls_cert_free` gives back, leaving the reference. No free is ever bad and nothing is read outside
an object. -/
theorem tls_get_peer_cert_ledger (ctx : Tls) (h : Heap) :
    let ((ret, cert_p), h') := (tls_get_peer_cert ctx).run h
    h'.badFree = h.badFree ∧ h'.badRead = h.badRead ∧
      (ret ≠ 0 → h'.live = peerRef ctx h + h.live) ∧
      ∀ cert, cert_p = some cert → h'.live = cert.owned + peerRef ctx h + h.live ∧
        (tls_cert_free (some cert)).run h' = ((), { h' with live := peerRef ctx h + h.live }) := by
  have spec := tls_get_peer_cert_spec ctx h
  rcases run : (tls_get_peer_cert ctx).run h with ⟨⟨ret, cert_p⟩, h'⟩
  rw [run] at spec
  obtain ⟨msgs, ext, fits, code⟩ := spec
  refine ⟨ext.badFree, ext.badRead, fun failed => ?_, fun cert some => ?_⟩
  · rcases code with ⟨zero, -⟩ | ⟨-, rfl, -⟩
    · exact absurd zero failed
    · simpa using ext.live
  · subst some
    have live : h'.live = cert.owned + peerRef ctx h + h.live := by simpa using ext.live
    have nodup : cert.owned.Nodup := by simpa using (Multiset.nodup_add.mp ext.nodup).1
    have held : cert.owned ≤ h'.live := by
      rw [live, add_assoc]
      exact Multiset.le_add_right _ _
    refine ⟨live, ?_⟩
    rw [tls_cert_free_run cert h' (fits cert rfl) nodup held, live, add_assoc, add_tsub_cancel_left]

/-! ## The fingerprint -/

/-- **`tls_get_peer_cert_fingerprint` on every path.** It keeps the reference it takes on the
peer's certificate and changes the ledger in no other way. It returns 0 exactly when the context
is connected to a peer with a certificate, the algorithm names SHA-1 or SHA-256 and the digest's
context can be allocated: then `buf` starts with the digest cut to `buflen` bytes, `*outlen` is
their number and no message is recorded. Otherwise it returns -1 with one message, `buf`
untouched and `*outlen` zero. -/
theorem tls_get_peer_cert_fingerprint_spec (digest : X509 → EvpMd → List UInt8) (ctx : Tls)
    (algo : List Char) (buf : List UInt8) (buflen : Nat) (h : Heap) :
    let ((ret, buf', outlen), h') :=
      (tls_get_peer_cert_fingerprint digest ctx algo buf buflen).run h
    ∃ msgs, Extends h h' (peerRef ctx h) msgs ∧
      (ret = 0 ∧ msgs = [] ∧ (∃ peer md, peerCertificate ctx = some peer ∧
          fingerprintMd algo = some md ∧ h.fails (h.next + 1) = false ∧
          outlen = min (digest peer md).length buflen ∧
          buf' = (digest peer md).take outlen ++ buf.drop outlen) ∨
        ret = -1 ∧ msgs.length = 1 ∧ buf' = buf ∧ outlen = 0 ∧
          ¬ ∃ peer ∈ peerCertificate ctx,
            (fingerprintMd algo).isSome ∧ h.fails (h.next + 1) = false) := by
  rcases connected : ctx.ssl_conn with _ | conn
  · simp only [tls_get_peer_cert_fingerprint, peerRef, peerCertificate, connected,
      StateT.run_bind, tls_set_error_run, Id.bind_eq, StateT.run_pure, Id.pure_eq,
      Option.bind_none, Option.map_none', ownOpt_none]
    exact ⟨_, Extends.error h _, Or.inr (by simp)⟩
  rcases present : conn.peer with _ | peer
  · simp only [tls_get_peer_cert_fingerprint, peerRef, peerCertificate, connected, present,
      SSL_get_peer_certificate_run, StateT.run_bind, tls_set_error_run, Id.bind_eq,
      StateT.run_pure, Id.pure_eq, Option.some_bind, Option.map_none', ownOpt_none]
    exact ⟨_, Extends.error h _, Or.inr (by simp)⟩
  simp only [tls_get_peer_cert_fingerprint, peerRef, peerCertificate, connected, present,
    SSL_get_peer_certificate_run, StateT.run_bind, Id.bind_eq, Option.some_bind,
    Option.map_some', ownOpt_some]
  have ref := Extends.acquired h .x509Ref
  rcases named : fingerprintMd algo with _ | md
  · simp only [tls_set_error_run, StateT.run_bind, StateT.run_pure, Id.bind_eq, Id.pure_eq]
    exact ⟨_, by simpa using ref.trans (Extends.error _ _), Or.inr (by simp)⟩
  simp only [X509_digest, StateT.run_bind, attempt_run, Id.bind_eq, StateT.run_pure, Id.pure_eq]
  by_cases fail : h.fails (h.next + 1)
  · simp only [fail, Bool.not_true, Bool.false_eq_true, if_false, tls_set_error_run,
      StateT.run_bind, StateT.run_pure, Id.bind_eq, Id.pure_eq]
    exact ⟨_, by simpa using ref.trans (Extends.bumpError _ _),
      Or.inr (by simp [fail])⟩
  · simp only [fail, Bool.not_false, if_true, StateT.run_pure, Id.pure_eq]
    exact ⟨[], by simpa using ref.trans (Extends.bump _),
      Or.inl ⟨trivial, rfl, peer, md, rfl, rfl, by simp [fail], rfl, rfl⟩⟩

/-- A connected peer whose certificate has a negative version: `tls_get_peer_cert` fails and
`tls_get_peer_cert_fingerprint` succeeds, and after either the reference on the certificate is
still held, so the ledger is not what it was at entry. -/
theorem tls_get_peer_cert_keeps_reference :
    let ctx : Tls := ⟨some ⟨some ⟨-1, some ⟨[]⟩, some ⟨[]⟩, none, ⟨none⟩, ⟨none⟩, ⟨false, []⟩⟩⟩⟩
    ((tls_get_peer_cert ctx).run Heap.init).1.1 = -1 ∧
      ((tls_get_peer_cert ctx).run Heap.init).2.live = {⟨.x509Ref, 0⟩} ∧
      ((tls_get_peer_cert_fingerprint (fun _ _ => []) ctx "sha1".toList [] 0).run
        Heap.init).1.1 = 0 ∧
      ((tls_get_peer_cert_fingerprint (fun _ _ => []) ctx "sha1".toList [] 0).run
        Heap.init).2.live = {⟨.x509Ref, 0⟩} := by
  decide

end Libusual.TlsCert
