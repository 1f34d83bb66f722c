import Libusual.Tls.Name

/-!
# The certificate record and its release

`struct tls_cert_info` holds the two entities, the version, the array of subjectAltName slots with
the count of filled ones, the two times and the serial. Every pointer in it is `NULL` or a block
the record owns, and the record is itself a block. `CertInfo.owned` is the multiset of those
blocks: the entities' fields, the first `subject_alt_name_count` slots' names, the array, the
times, the serial and the record.

`tls_cert_free` frees the issuer's fields, the subject's, the filled slots, the array, the serial,
the times and the record, in that order. Its loop reads `subject_alt_names[i]` for every `i` below
the count, so it reads past the array exactly when the count passes the slots, or is not zero with
a `NULL` array (`tls_cert_free_badRead`): that is what `Shaped` rules out. When the count stays
within the slots and the owned blocks are distinct and live, it gives back exactly them, once
each, and raises no bad free (`tls_cert_free_run`). A `NULL` record is left alone.
-/

set_option autoImplicit false

namespace Libusual.TlsCert

/-- `TLS_CERT_NAME_DNS`, `TLS_CERT_NAME_IPv4`, `TLS_CERT_NAME_IPv6`, `TLS_CERT_NAME_EMAIL`,
`TLS_CERT_NAME_URI`. -/
inductive AltNameType where
  | dns
  | ipv4
  | ipv6
  | email
  | uri
  deriving DecidableEq, Repr

/-- `struct tls_cert_alt_name`; a zeroed slot has no block and no type. -/
structure AltName where
  alt_name : Option Blk
  alt_name_type : Option AltNameType
  deriving DecidableEq, Repr

/-- A zeroed slot. -/
def AltName.zero : AltName := ⟨none, none⟩

/-- What a filled slot holds: its type and the bytes of its block. -/
def AltName.view (slot : AltName) : Option (AltNameType × List Char) :=
  slot.alt_name_type.bind fun type => slot.alt_name.map fun blk => (type, blk.data)

/-- The block `subject_alt_names` points to, and its slots. -/
structure AltNameArray where
  id : Nat
  slots : List AltName
  deriving DecidableEq, Repr

/-- The ledger entry of the array. -/
def AltNameArray.res (arr : AltNameArray) : Res := ⟨.block, arr.id⟩

/-- `struct tls_cert_info`, in the block numbered `id`. -/
structure CertInfo where
  id : Nat
  subject : Entity
  issuer : Entity
  version : Int
  subject_alt_names : Option AltNameArray
  subject_alt_name_count : Nat
  not_before : Option Blk
  not_after : Option Blk
  serial : Option Blk
  deriving DecidableEq, Repr

namespace CertInfo

/-- The zeroed record `calloc` hands out in block `id`. -/
def zeroed (id : Nat) : CertInfo :=
  ⟨id, Entity.empty, Entity.empty, 0, none, 0, none, none, none⟩

/-- The ledger entry of the record. -/
def res (cert : CertInfo) : Res := ⟨.block, cert.id⟩

/-- The slots of the array; none when it is `NULL`. -/
def slots (cert : CertInfo) : List AltName := (cert.subject_alt_names.map AltNameArray.slots).getD []

/-- The filled slots: the first `subject_alt_name_count`. -/
def altNames (cert : CertInfo) : List AltName := cert.slots.take cert.subject_alt_name_count

/-- A change of the slot at `subject_alt_name_count`, where the loaders write. -/
def updSlot (cert : CertInfo) (f : AltName → AltName) : CertInfo :=
  { cert with
    subject_alt_names := cert.subject_alt_names.map fun arr =>
      { arr with slots := arr.slots.modify f cert.subject_alt_name_count } }

/-- The blocks the filled slots hold. -/
def altOwned (cert : CertInfo) : Multiset Res :=
  ownAll (cert.altNames.map fun slot => slot.alt_name.map Blk.res)

/-- Everything the record owns. -/
def owned (cert : CertInfo) : Multiset Res :=
  cert.res ::ₘ (cert.subject.owned + cert.issuer.owned + cert.altOwned +
    ownOpt (cert.subject_alt_names.map AltNameArray.res) + ownOpt (cert.serial.map Blk.res) +
    ownOpt (cert.not_before.map Blk.res) + ownOpt (cert.not_after.map Blk.res))

@[simp] theorem zeroed_owned (id : Nat) : (zeroed id).owned = {⟨.block, id⟩} := rfl

@[simp] theorem updSlot_count (cert : CertInfo) (f : AltName → AltName) :
    (cert.updSlot f).subject_alt_name_count = cert.subject_alt_name_count := rfl

@[simp] theorem updSlot_res (cert : CertInfo) (f : AltName → AltName) :
    (cert.updSlot f).res = cert.res := rfl

@[simp] theorem updSlot_subject (cert : CertInfo) (f : AltName → AltName) :
    (cert.updSlot f).subject = cert.subject := rfl

@[simp] theorem updSlot_issuer (cert : CertInfo) (f : AltName → AltName) :
    (cert.updSlot f).issuer = cert.issuer := rfl

@[simp] theorem updSlot_times (cert : CertInfo) (f : AltName → AltName) :
    (cert.updSlot f).not_before = cert.not_before ∧ (cert.updSlot f).not_after = cert.not_after ∧
      (cert.updSlot f).serial = cert.serial := ⟨rfl, rfl, rfl⟩

@[simp] theorem updSlot_array (cert : CertInfo) (f : AltName → AltName) :
    (cert.updSlot f).subject_alt_names.map AltNameArray.res =
      cert.subject_alt_names.map AltNameArray.res := by
  rcases cert with ⟨_, _, _, _, _ | _, _, _, _, _⟩ <;> rfl

@[simp] theorem length_slots_updSlot (cert : CertInfo) (f : AltName → AltName) :
    (cert.updSlot f).slots.length = cert.slots.length := by
  rcases cert with ⟨_, _, _, _, _ | _, _, _, _, _⟩ <;> simp [updSlot, slots]

/-- The parts of the record outside the subjectAltNames. -/
def core (cert : CertInfo) :
    Nat × Entity × Entity × Int × Option Blk × Option Blk × Option Blk :=
  (cert.id, cert.subject, cert.issuer, cert.version, cert.not_before, cert.not_after, cert.serial)

/-- The subjectAltName fields as `tls_cert_free` needs them: no count without an array, and an
array of `n` slots with at most `n` filled. -/
def Shaped (n : Nat) (cert : CertInfo) : Prop :=
  match cert.subject_alt_names with
  | none => cert.subject_alt_name_count = 0
  | some arr => arr.slots.length = n ∧ cert.subject_alt_name_count ≤ n

/-- A record shaped for some `n` has its count within its slots. -/
theorem Shaped.fits {n : Nat} {cert : CertInfo} (shaped : cert.Shaped n) :
    cert.subject_alt_name_count ≤ cert.slots.length := by
  unfold Shaped at shaped
  split at shaped <;> simp_all [slots]

/-- Each filled slot holds a block: `alt_name` is not `NULL` in the first `subject_alt_name_count`
slots. -/
def Filled (cert : CertInfo) : Prop := ∀ slot ∈ cert.altNames, slot.alt_name.isSome

theorem filled_of_count_zero {cert : CertInfo} (zero : cert.subject_alt_name_count = 0) :
    cert.Filled := by
  simp [Filled, altNames, zero]

/-- In a record whose count stays within its slots, each slot below the count holds a block. -/
theorem Filled.held_below {cert : CertInfo} (filled : cert.Filled)
    (fits : cert.subject_alt_name_count ≤ cert.slots.length) :
    ∀ i < cert.subject_alt_name_count, ∃ slot ∈ cert.slots[i]?, slot.alt_name.isSome := by
  intro i lt
  refine ⟨cert.slots[i], List.getElem?_eq_getElem (by omega), filled _ ?_⟩
  rw [altNames, List.mem_iff_getElem]
  exact ⟨i, by simp; omega, List.getElem_take ..⟩

/-- The parts of the record the subjectAltName walk never writes: everything but the slots'
contents and the count. -/
def frame (cert : CertInfo) :
    Nat × Entity × Entity × Int × Option Blk × Option Blk × Option Blk × Option Nat × Nat :=
  (cert.id, cert.subject, cert.issuer, cert.version, cert.not_before, cert.not_after, cert.serial,
    cert.subject_alt_names.map AltNameArray.id, cert.slots.length)

@[simp] theorem frame_updSlot (cert : CertInfo) (f : AltName → AltName) :
    (cert.updSlot f).frame = cert.frame := by
  rcases cert with ⟨_, _, _, _, _ | _, _, _, _, _⟩ <;> simp [updSlot, frame, slots]

@[simp] theorem frame_count (cert : CertInfo) (n : Nat) :
    { cert with subject_alt_name_count := n }.frame = cert.frame := rfl

theorem slots_length_of_frame {cert cert' : CertInfo} (same : cert'.frame = cert.frame) :
    cert'.slots.length = cert.slots.length := by
  simp only [frame, Prod.mk.injEq] at same
  exact same.2.2.2.2.2.2.2.2

/-- Records with one frame own the same blocks outside the filled slots. -/
theorem owned_of_frame {cert cert' : CertInfo} {new : Multiset Res} (same : cert'.frame = cert.frame)
    (alt : cert'.altOwned = new + cert.altOwned) : cert'.owned = new + cert.owned := by
  simp only [frame, Prod.mk.injEq] at same
  obtain ⟨id, subject, issuer, -, before, after, serial, array, -⟩ := same
  have arrayRes : cert'.subject_alt_names.map AltNameArray.res =
      cert.subject_alt_names.map AltNameArray.res := by
    rcases cert with ⟨_, _, _, _, _ | _, _, _, _, _⟩ <;>
      rcases cert' with ⟨_, _, _, _, _ | _, _, _, _, _⟩ <;> simp_all [AltNameArray.res]
  simp only [owned, res, id, subject, issuer, alt, arrayRes, serial, before, after,
    ← Multiset.singleton_add]
  abel

theorem core_of_frame {cert cert' : CertInfo} (same : cert'.frame = cert.frame) :
    cert'.core = cert.core := by
  simp only [frame, Prod.mk.injEq] at same
  simp only [core, same]

/-- A record that keeps the frame of one with an array of `n` slots, and fills at most `n`, is
shaped for `n`. -/
theorem shaped_of_frame {cert cert' : CertInfo} {n : Nat} (same : cert'.frame = cert.frame)
    (array : cert.subject_alt_names.isSome) (length : cert.slots.length = n)
    (bound : cert'.subject_alt_name_count ≤ n) : cert'.Shaped n := by
  have slots := slots_length_of_frame same
  simp only [frame, Prod.mk.injEq] at same
  rcases cert with ⟨_, _, _, _, _ | arr, _, _, _, _⟩
  · simp at array
  rcases cert' with ⟨_, _, _, _, _ | arr', _, _, _, _⟩
  · simp at same
  simp_all [Shaped, CertInfo.slots]

/-- Replacing an entity trades what the old one owned for what the new one owns. -/
theorem owned_subject (cert : CertInfo) (ent : Entity) :
    { cert with subject := ent }.owned + cert.subject.owned = ent.owned + cert.owned := by
  simp only [owned, res, altOwned, altNames, slots, ← Multiset.singleton_add]
  abel

theorem owned_issuer (cert : CertInfo) (ent : Entity) :
    { cert with issuer := ent }.owned + cert.issuer.owned = ent.owned + cert.owned := by
  simp only [owned, res, altOwned, altNames, slots, ← Multiset.singleton_add]
  abel

/-- Filling a `NULL` time or serial adds its block to what the record owns. -/
theorem owned_not_before (cert : CertInfo) (dst : Option Blk) (blank : cert.not_before = none) :
    { cert with not_before := dst }.owned = ownOpt (dst.map Blk.res) + cert.owned := by
  simp only [owned, res, altOwned, altNames, slots, blank, Option.map_none', ownOpt_none,
    ← Multiset.singleton_add]
  abel

theorem owned_not_after (cert : CertInfo) (dst : Option Blk) (blank : cert.not_after = none) :
    { cert with not_after := dst }.owned = ownOpt (dst.map Blk.res) + cert.owned := by
  simp only [owned, res, altOwned, altNames, slots, blank, Option.map_none', ownOpt_none,
    ← Multiset.singleton_add]
  abel

theorem owned_serial (cert : CertInfo) (dst : Option Blk) (blank : cert.serial = none) :
    { cert with serial := dst }.owned = ownOpt (dst.map Blk.res) + cert.owned := by
  simp only [owned, res, altOwned, altNames, slots, blank, Option.map_none', ownOpt_none,
    ← Multiset.singleton_add]
  abel

/-- Attaching an array to a record with none and no count adds the array to what it owns. -/
theorem owned_attach (cert : CertInfo) (arr : AltNameArray) (blank : cert.subject_alt_names = none)
    (zero : cert.subject_alt_name_count = 0) :
    { cert with subject_alt_names := some arr }.owned = {arr.res} + cert.owned := by
  simp only [owned, altOwned, altNames, zero, blank, List.take_zero, List.map_nil,
    Option.map_some', Option.map_none', ownOpt_some, ownOpt_none, res, ← Multiset.singleton_add]
  abel

/-- Filling the slot at the count, inside the array, appends it to the filled slots. -/
theorem altNames_fill (cert : CertInfo) (slot : AltName)
    (room : cert.subject_alt_name_count < cert.slots.length) :
    { cert.updSlot (fun _ => slot) with
      subject_alt_name_count := cert.subject_alt_name_count + 1 }.altNames =
      cert.altNames ++ [slot] := by
  rcases cert with ⟨_, _, _, _, _ | ⟨_, array⟩, count, _, _, _⟩
  · simp [slots] at room
  · simp only [slots, Option.map_some', Option.getD_some] at room
    simp [updSlot, altNames, slots, List.modify_eq_take_cons_drop room, List.take_append_eq_append_take,
      List.take_take, List.length_take, Nat.min_eq_left room.le]

@[simp] theorem updSlot_updSlot (cert : CertInfo) (f g : AltName → AltName) :
    (cert.updSlot f).updSlot g = cert.updSlot (g ∘ f) := by
  rcases cert with ⟨_, _, _, _, _ | ⟨_, array⟩, _, _, _, _⟩ <;>
    simp [updSlot, List.modify_modify_eq]

/-- Writing the slot at the count leaves the filled slots as they are. -/
@[simp] theorem altNames_updSlot (cert : CertInfo) (f : AltName → AltName) :
    (cert.updSlot f).altNames = cert.altNames := by
  rcases cert with ⟨_, _, _, _, _ | ⟨_, array⟩, count, _, _, _⟩ <;>
    simp [updSlot, altNames, slots, List.take_modify, List.modify_eq_self]

@[simp] theorem filled_updSlot (cert : CertInfo) (f : AltName → AltName) :
    (cert.updSlot f).Filled ↔ cert.Filled := by
  simp only [Filled, altNames_updSlot]

/-- Filling the slot at the count with a block keeps every filled slot holding one. -/
theorem Filled.fill {cert : CertInfo} (filled : cert.Filled) (slot : AltName)
    (held : slot.alt_name.isSome) (room : cert.subject_alt_name_count < cert.slots.length) :
    { cert.updSlot (fun _ => slot) with
      subject_alt_name_count := cert.subject_alt_name_count + 1 }.Filled := by
  intro s mem
  rw [altNames_fill cert slot room, List.mem_append, List.mem_singleton] at mem
  rcases mem with old | rfl
  · exact filled s old
  · exact held

end CertInfo

/-- `tls_cert_free_entity`. -/
def tls_cert_free_entity (ent : Entity) : HeapM Unit := freeAll ent.pointers

/-- The loop `for (i = 0; i < subject_alt_name_count; i++) free(subject_alt_names[i].alt_name)`,
over the slots from `i` on and the `n` iterations left: a slot read past the end of the array, or
through a `NULL` one, which has none, is a read outside an object. -/
def freeSlots : List AltName → Nat → HeapM Unit
  | _, 0 => pure ()
  | [], _ + 1 => readFault
  | slot :: slots, n + 1 => do
    free (slot.alt_name.map Blk.res)
    freeSlots slots n

/-- `tls_cert_free`. -/
def tls_cert_free : Option CertInfo → HeapM Unit
  | none => pure ()
  | some cert => do
    tls_cert_free_entity cert.issuer
    tls_cert_free_entity cert.subject
    if cert.subject_alt_name_count ≠ 0 then
      freeSlots cert.slots cert.subject_alt_name_count
    free (cert.subject_alt_names.map AltNameArray.res)
    free (cert.serial.map Blk.res)
    free (cert.not_before.map Blk.res)
    free (cert.not_after.map Blk.res)
    free (some cert.res)

theorem freeAll_append (ps qs : List (Option Res)) :
    freeAll (ps ++ qs) = (do freeAll ps; freeAll qs) := by
  induction ps with
  | nil => simp [freeAll]
  | cons p ps ih => simp [freeAll, ih]

/-- Within the slots, the loop frees the names of the first `n`. -/
theorem freeSlots_eq (slots : List AltName) (n : Nat) (fits : n ≤ slots.length) :
    freeSlots slots n = freeAll ((slots.take n).map fun slot => slot.alt_name.map Blk.res) := by
  induction slots generalizing n with
  | nil => simp only [List.length_nil, Nat.le_zero] at fits; subst fits; rfl
  | cons slot slots ih =>
    cases n with
    | zero => rfl
    | succ n => simp [freeSlots, freeAll, ih n (by simpa using fits)]

/-- `tls_cert_free` of a record whose count stays within its slots is the free of every owning
pointer of the record, in its order. -/
theorem tls_cert_free_eq (cert : CertInfo)
    (fits : cert.subject_alt_name_count ≤ cert.slots.length) :
    tls_cert_free (some cert) =
      freeAll (cert.issuer.pointers ++ cert.subject.pointers ++
        cert.altNames.map (fun slot => slot.alt_name.map Blk.res) ++
        [cert.subject_alt_names.map AltNameArray.res, cert.serial.map Blk.res,
          cert.not_before.map Blk.res, cert.not_after.map Blk.res, some cert.res]) := by
  by_cases zero : cert.subject_alt_name_count = 0
  · have none : cert.altNames = [] := by simp [CertInfo.altNames, zero]
    simp only [tls_cert_free, tls_cert_free_entity, freeAll, zero, none, ne_eq, not_true_eq_false,
      ↓reduceIte, List.map_nil, List.append_nil, freeAll_append, bind_assoc, bind_pure_unit, pure_bind]
  · simp only [tls_cert_free, tls_cert_free_entity, freeAll, zero, ne_eq, not_false_eq_true,
      ↓reduceIte, freeSlots_eq _ _ fits, CertInfo.altNames, List.map_nil, List.append_eq,
      List.nil_append, freeAll_append, bind_assoc, bind_pure_unit]

/-- **`tls_cert_free` gives back exactly what the record owns.** When the count stays within the
slots and the blocks the record owns are distinct and live, they leave the ledger once each, no
free is bad and nothing is read outside an object. -/
theorem tls_cert_free_run (cert : CertInfo) (h : Heap)
    (fits : cert.subject_alt_name_count ≤ cert.slots.length) (nodup : cert.owned.Nodup)
    (held : cert.owned ≤ h.live) :
    (tls_cert_free (some cert)).run h = ((), { h with live := h.live - cert.owned }) := by
  have order : ownAll (cert.issuer.pointers ++ cert.subject.pointers ++
      cert.altNames.map (fun slot => slot.alt_name.map Blk.res) ++
      [cert.subject_alt_names.map AltNameArray.res, cert.serial.map Blk.res,
        cert.not_before.map Blk.res, cert.not_after.map Blk.res, some cert.res]) = cert.owned := by
    simp only [ownAll_append, ownAll_cons, ownAll_nil, CertInfo.owned, CertInfo.altOwned,
      Entity.owned, ownOpt_some, add_zero]
    rw [← Multiset.singleton_add]
    abel
  rw [tls_cert_free_eq cert fits, freeAll_run _ _ (order ▸ nodup) (order ▸ held), order]

end Libusual.TlsCert
