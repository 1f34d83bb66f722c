import Libusual.Tls.X509

/-!
# Names of the subject and the issuer

`tls_cert_get_name_string` asks `X509_NAME_get_text_by_NID` for the length of the first value of
an attribute, allocates that many bytes and one more, has the value copied in and rejects it if a
NUL occurs among its bytes (`tls_cert_get_name_string_run`). `tls_get_entity` does this for the
seven attributes of a `struct tls_cert_entity`, in a fixed order, and stops at the first non-zero
code. A field is a pointer to a block or `NULL`.

For every distinguished name and with no allocation failing, `tls_get_entity` on a zeroed entity
returns 0 exactly when none of the seven first values holds a NUL, and -2 otherwise; each field
is then a NUL-terminated copy of its value, or `NULL` when the attribute is absent or when a
corrupt attribute comes at or before it (`tls_get_entity_spec`). The induction runs over the
fields still to be filled (`chain_entityStep`), each step described once by `entityStep_view`.
-/

set_option autoImplicit false

namespace Libusual.TlsCert

/-- `tls_cert_get_name_string`: the text of the first `nid` attribute of `name` in a fresh
block, `NULL` when the attribute is absent; -1 when out of memory, -2 when the text holds a
NUL. -/
def tls_cert_get_name_string (name : X509Name) (nid : Nat) : HeapM (Int × Option Blk) := do
  let res_len := (X509_NAME_get_text_by_NID name nid none 0).1
  if res_len < 0 then return (0, none)
  match ← calloc (res_len + 1).toNat with
  | none =>
    tls_set_error "no mem"
    return (-1, none)
  | some res =>
    let copied := (X509_NAME_get_text_by_NID name nid (some res.data) (res_len + 1)).2
    let res : Blk := ⟨res.id, copied.getD res.data⟩
    if '\x00' ∈ res.data.take res_len.toNat then
      tls_set_error "corrupt cert - NUL bytes is value"
      free (some res.res)
      return (-2, none)
    return (0, some res)

theorem tls_cert_get_name_string_run (name : X509Name) (nid : Nat) (h : Heap) :
    (tls_cert_get_name_string name nid).run h =
      match name.first nid with
      | none => ((0, none), h)
      | some value =>
        if h.fails h.next then
          ((-1, none), { h with next := h.next + 1, errors := h.errors ++ ["no mem"] })
        else if '\x00' ∈ value.data then
          ((-2, none),
            { h with next := h.next + 1, errors := h.errors ++ ["corrupt cert - NUL bytes is value"] })
        else
          ((0, some ⟨h.next, value.data ++ ['\x00']⟩),
            { h with live := ⟨.block, h.next⟩ ::ₘ h.live, next := h.next + 1 }) := by
  cases first : name.first nid with
  | none => simp [tls_cert_get_name_string, X509_NAME_get_text_by_NID, first]
  | some value =>
    have copy := X509_NAME_get_text_by_NID_copy name nid value first
    have query : X509_NAME_get_text_by_NID name nid none 0 = ((value.data.length : Int), none) := by
      simp [X509_NAME_get_text_by_NID, first]
    have len : ((value.data.length : Int) + 1).toNat = value.data.length + 1 := by omega
    have pos : ¬ ((value.data.length : Int) < 0) := by omega
    simp only [tls_cert_get_name_string, query, pos, if_false, len, calloc, StateT.run_bind,
      malloc_run]
    by_cases fail : h.fails h.next
    · simp [fail]
    · by_cases nul : '\x00' ∈ value.data
      · simp [fail, nul, copy, Blk.res]
      · simp [fail, nul, copy]

/-! ## Entities -/

/-- The seven fields of a `struct tls_cert_entity`. -/
inductive EntityField where
  | common_name
  | country_name
  | state_or_province_name
  | locality_name
  | street_address
  | organization_name
  | organizational_unit_name
  deriving DecidableEq, Repr

namespace EntityField

/-- The attribute each field is read from. -/
def nid : EntityField → Nat
  | common_name => NID_commonName
  | country_name => NID_countryName
  | state_or_province_name => NID_stateOrProvinceName
  | locality_name => NID_localityName
  | street_address => NID_streetAddress
  | organization_name => NID_organizationName
  | organizational_unit_name => NID_organizationalUnitName

/-- The fields in the order `tls_get_entity` fills them (and `tls_cert_free_entity` frees). -/
def all : List EntityField :=
  [common_name, country_name, state_or_province_name, locality_name, street_address,
    organization_name, organizational_unit_name]

/-- The position of a field in that order. -/
def rank : EntityField → Nat
  | common_name => 0
  | country_name => 1
  | state_or_province_name => 2
  | locality_name => 3
  | street_address => 4
  | organization_name => 5
  | organizational_unit_name => 6

theorem mem_all (field : EntityField) : field ∈ all := by cases field <;> decide

theorem all_sorted : all.Pairwise (·.rank < ·.rank) := by decide

/-- The field's attribute is present and its first value holds a NUL. -/
def corrupt (name : X509Name) (field : EntityField) : Bool :=
  (name.first field.nid).any fun value => '\x00' ∈ value.data

/-- What the field should hold: a NUL-terminated copy of the first value, if there is one. -/
def copy (name : X509Name) (field : EntityField) : Option (List Char) :=
  (name.first field.nid).map (·.data ++ ['\x00'])

end EntityField

/-- `struct tls_cert_entity`. -/
structure Entity where
  common_name : Option Blk
  country_name : Option Blk
  state_or_province_name : Option Blk
  locality_name : Option Blk
  street_address : Option Blk
  organization_name : Option Blk
  organizational_unit_name : Option Blk
  deriving DecidableEq, Repr

namespace Entity

/-- The zeroed entity `calloc` hands out. -/
def empty : Entity := ⟨none, none, none, none, none, none, none⟩

def get (ent : Entity) : EntityField → Option Blk
  | .common_name => ent.common_name
  | .country_name => ent.country_name
  | .state_or_province_name => ent.state_or_province_name
  | .locality_name => ent.locality_name
  | .street_address => ent.street_address
  | .organization_name => ent.organization_name
  | .organizational_unit_name => ent.organizational_unit_name

def set (ent : Entity) : EntityField → Option Blk → Entity
  | .common_name, p => { ent with common_name := p }
  | .country_name, p => { ent with country_name := p }
  | .state_or_province_name, p => { ent with state_or_province_name := p }
  | .locality_name, p => { ent with locality_name := p }
  | .street_address, p => { ent with street_address := p }
  | .organization_name, p => { ent with organization_name := p }
  | .organizational_unit_name, p => { ent with organizational_unit_name := p }

@[simp] theorem get_empty (field : EntityField) : empty.get field = none := by cases field <;> rfl

@[simp] theorem get_set_self (ent : Entity) (field : EntityField) (p : Option Blk) :
    (ent.set field p).get field = p := by
  cases field <;> rfl

@[simp] theorem get_set_of_ne (ent : Entity) {field other : EntityField} (p : Option Blk)
    (ne : other ≠ field) : (ent.set field p).get other = ent.get other := by
  cases field <;> cases other <;> first | rfl | exact absurd rfl ne

/-- The entity's pointers, in the order of `EntityField.all`. -/
def pointers (ent : Entity) : List (Option Res) := EntityField.all.map fun field => (ent.get field).map Blk.res

/-- The blocks an entity owns. -/
def owned (ent : Entity) : Multiset Res := ownAll ent.pointers

@[simp] theorem owned_empty : empty.owned = 0 := rfl

/-- Filling a `NULL` field adds its block to what the entity owns. -/
theorem owned_set_of_none (ent : Entity) {field : EntityField} (p : Option Blk)
    (blank : ent.get field = none) :
    (ent.set field p).owned = ownOpt (p.map Blk.res) + ent.owned := by
  cases field <;> simp only [get] at blank <;>
    simp only [owned, pointers, EntityField.all, List.map_cons, List.map_nil, get, set, blank,
      ownAll_cons, ownAll_nil, Option.map_none', ownOpt_none, zero_add] <;> abel

end Entity

/-- One step of `tls_get_entity`: the field's attribute, into the field. -/
def entityStep (name : X509Name) (field : EntityField) (ent : Entity) : HeapM (Int × Entity) := do
  let (ret, str) ← tls_cert_get_name_string name field.nid
  return (ret, ent.set field str)

/-- `tls_get_entity`: the seven attributes in order, stopping at the first non-zero code. -/
def tls_get_entity (name : X509Name) (ent : Entity) : HeapM (Int × Entity) :=
  chain (EntityField.all.map (entityStep name)) ent

theorem entityStep_run (name : X509Name) (field : EntityField) (ent : Entity) (h : Heap) :
    (entityStep name field ent).run h =
      ((((tls_cert_get_name_string name field.nid).run h).1.1,
        ent.set field ((tls_cert_get_name_string name field.nid).run h).1.2),
        ((tls_cert_get_name_string name field.nid).run h).2) := rfl

/-- With allocation succeeding, a step sets its field to the copy of the value, or to `NULL`
with code -2 when the value holds a NUL. -/
theorem entityStep_view (name : X509Name) (field : EntityField) (ent : Entity) (h : Heap)
    (noFail : ∀ n, h.fails n = false) :
    let ((ret, ent'), h') := (entityStep name field ent).run h
    ent' = ent.set field (ent'.get field) ∧ (∀ n, h'.fails n = false) ∧
      ret = (if field.corrupt name then -2 else 0) ∧
      (ent'.get field).map Blk.data = if field.corrupt name then none else field.copy name := by
  cases first : name.first field.nid with
  | none =>
    simp [entityStep_run, tls_cert_get_name_string_run, EntityField.corrupt, EntityField.copy,
      first, noFail]
  | some value =>
    by_cases nul : '\x00' ∈ value.data <;>
      simp [entityStep_run, tls_cert_get_name_string_run, EntityField.corrupt, EntityField.copy,
        first, noFail, nul]

/-- The run over the fields still to fill: a corrupt field stops it with -2 and leaves itself
and every later field as it was, which is `NULL`. -/
theorem chain_entityStep (name : X509Name) (fields : List EntityField)
    (sorted : fields.Pairwise (·.rank < ·.rank)) (ent : Entity) (h : Heap)
    (noFail : ∀ n, h.fails n = false) (blank : ∀ field ∈ fields, ent.get field = none) :
    let ((ret, ent'), _) := (chain (fields.map (entityStep name)) ent).run h
    ret = (if ∃ bad ∈ fields, bad.corrupt name then -2 else 0) ∧
      ∀ field, (ent'.get field).map Blk.data =
        if field ∈ fields then
          (if ∃ bad ∈ fields, bad.corrupt name ∧ bad.rank ≤ field.rank then none
            else field.copy name)
        else (ent.get field).map Blk.data := by
  induction fields generalizing ent h with
  | nil => simp
  | cons first rest ih =>
    obtain ⟨below, sorted⟩ := List.pairwise_cons.mp sorted
    have later : ∀ field ∈ rest, field ≠ first := fun field mem same => by
      have := below field mem; subst same; omega
    have step := entityStep_view name first ent h noFail
    rcases run : (entityStep name first ent).run h with ⟨⟨ret, ent'⟩, h'⟩
    rw [run] at step
    obtain ⟨shape, noFail', code, view⟩ := step
    have others : ∀ field, field ≠ first → ent'.get field = ent.get field := fun field ne => by
      rw [shape, Entity.get_set_of_ne _ _ ne]
    by_cases bad : first.corrupt name
    · -- the run stops at `first` with -2
      have stop : ret = -2 := by simp [code, bad]
      simp only [List.map_cons, chain_cons_run, run, stop]
      refine ⟨by simp [bad], fun field => ?_⟩
      by_cases same : field = first
      · subst same; simp [bad, view]
      · rw [others field same]
        by_cases mem : field ∈ rest
        · have := (below field mem).le
          simp [mem, blank field (List.mem_cons_of_mem _ mem), bad, this]
        · simp [mem, same]
    · -- `first` is filled and the run goes on with the rest
      have blank' : ∀ field ∈ rest, ent'.get field = none := fun field mem => by
        rw [others field (later field mem)]; exact blank field (List.mem_cons_of_mem _ mem)
      have tail := ih sorted ent' h' noFail' blank'
      rcases run' : (chain (rest.map (entityStep name)) ent').run h' with ⟨⟨ret', ent''⟩, h''⟩
      rw [run'] at tail
      obtain ⟨ret_eq, fields_eq⟩ := tail
      have go : ret = 0 := by simp [code, bad]
      simp only [List.map_cons, chain_cons_run, run, go, if_true, run']
      refine ⟨by simp [ret_eq, bad], fun field => ?_⟩
      rw [fields_eq field]
      by_cases same : field = first
      · subst same
        have none_before : ¬ ∃ other ∈ rest, other.corrupt name ∧ other.rank ≤ field.rank :=
          fun ⟨other, mem, _, le⟩ => by have := below other mem; omega
        simp [(fun mem => later field mem rfl : field ∉ rest), view, bad, none_before]
      · by_cases mem : field ∈ rest
        · simp [mem, bad]
        · simp [mem, same, others field same]

/-- **`tls_get_entity` on a zeroed entity.** With no allocation failing it returns 0 exactly when
no first value of the seven attributes holds a NUL, and -2 otherwise. Each field is a
NUL-terminated copy of its attribute's first value, and `NULL` when the attribute is absent or a
corrupt attribute comes at or before it in the order of `EntityField.all`. -/
theorem tls_get_entity_spec (name : X509Name) (h : Heap) (noFail : ∀ n, h.fails n = false) :
    let ((ret, ent), _) := (tls_get_entity name Entity.empty).run h
    (ret = 0 ↔ ∀ field ∈ EntityField.all, field.corrupt name = false) ∧ (ret ≠ 0 → ret = -2) ∧
      ∀ field, (ent.get field).map Blk.data =
        if ∃ bad ∈ EntityField.all, bad.corrupt name ∧ bad.rank ≤ field.rank then none
        else field.copy name := by
  have := chain_entityStep name EntityField.all EntityField.all_sorted Entity.empty h noFail
    (fun _ _ => Entity.get_empty _)
  rcases run : (chain (EntityField.all.map (entityStep name)) Entity.empty).run h with
    ⟨⟨ret, ent⟩, h'⟩
  simp only [tls_get_entity, run, EntityField.mem_all, if_true] at this ⊢
  obtain ⟨code, fields⟩ := this
  refine ⟨?_, ?_, fields⟩
  · by_cases bad : ∃ bad ∈ EntityField.all, bad.corrupt name <;> simp_all [EntityField.mem_all]
  · by_cases bad : ∃ bad ∈ EntityField.all, bad.corrupt name <;> simp_all [EntityField.mem_all]

/-- The law at a subject whose common name is plain and whose country holds a NUL. -/
theorem tls_get_entity_spec_nul_country :
    let name : X509Name := ⟨[⟨NID_commonName, ⟨V_ASN1_IA5STRING, ['a']⟩⟩,
      ⟨NID_countryName, ⟨V_ASN1_IA5STRING, ['\x00']⟩⟩]⟩
    (∀ n, Heap.init.fails n = false) ∧
      let ((ret, ent), _) := (tls_get_entity name Entity.empty).run Heap.init
      (ret = 0 ↔ ∀ field ∈ EntityField.all, field.corrupt name = false) ∧ (ret ≠ 0 → ret = -2) ∧
        ∀ field, (ent.get field).map Blk.data =
          if ∃ bad ∈ EntityField.all, bad.corrupt name ∧ bad.rank ≤ field.rank then none
          else field.copy name :=
  ⟨fun _ => rfl, tls_get_entity_spec _ Heap.init fun _ => rfl⟩

/-! ## Resources -/

/-- One step, whatever the allocation pattern: it fills only its field, with the block it
acquires, and records one message exactly when it fails. -/
theorem entityStep_grows (name : X509Name) (field : EntityField) (ent : Entity) (h : Heap)
    (blank : ent.get field = none) :
    Grows Entity.owned False ent h ((entityStep name field ent).run h) ∧
      ∀ other, other ≠ field → ((entityStep name field ent).run h).1.2.get other = ent.get other := by
  refine ⟨?_, fun other ne => by simp [entityStep_run, ne]⟩
  simp only [Grows, entityStep_run, Entity.owned_set_of_none _ _ blank]
  rw [tls_cert_get_name_string_run]
  cases name.first field.nid with
  | none => exact ⟨0, [], Extends.refl h, by simp, Or.inl ⟨rfl, rfl⟩⟩
  | some value =>
    by_cases fail : h.fails h.next
    · simp only [fail, if_true]
      exact ⟨0, _, Extends.bumpError h _, by simp, Or.inr ⟨by decide, Or.inl rfl⟩⟩
    by_cases nul : '\x00' ∈ value.data
    · simp only [fail, nul, if_true, if_false, Bool.false_eq_true]
      exact ⟨0, _, Extends.bumpError h _, by simp, Or.inr ⟨by decide, Or.inl rfl⟩⟩
    · simp only [fail, nul, if_false, Bool.false_eq_true]
      exact ⟨_, [], Extends.acquired h .block, by simp [Blk.res], Or.inl (by simp)⟩

/-- **`tls_get_entity`, whatever the allocation pattern.** From a zeroed entity it acquires
exactly the blocks of the fields it fills and records one message exactly when it fails. -/
theorem tls_get_entity_grows (name : X509Name) (h : Heap) :
    Grows Entity.owned False Entity.empty h ((tls_get_entity name Entity.empty).run h) := by
  have nodup : EntityField.all.Nodup := by decide
  refine (chain_grows Entity.owned False
    (fun i ent => ∀ field ∈ EntityField.all.drop i, ent.get field = none)
    (EntityField.all.map (entityStep name)) 0 ?_ Entity.empty h (by simp)).1
  intro i s mem ent h ready
  simp only [Nat.zero_add] at ready ⊢
  obtain ⟨field, at_i, rfl⟩ : ∃ field, EntityField.all[i]? = some field ∧ entityStep name field = s := by
    simpa [List.getElem?_map] using mem
  obtain ⟨lt, rfl⟩ := List.getElem?_eq_some_iff.mp at_i
  have split := List.drop_eq_getElem_cons lt
  have fresh : EntityField.all[i] ∉ EntityField.all.drop (i + 1) :=
    (List.nodup_cons.mp (split ▸ nodup.sublist (List.drop_sublist i _))).1
  obtain ⟨grow, others⟩ := entityStep_grows name _ ent h (ready _ (split ▸ List.mem_cons_self _ _))
  refine ⟨grow, fun field mem => ?_⟩
  rw [others field (fun same => fresh (same ▸ mem))]
  exact ready field (split ▸ List.mem_cons_of_mem _ mem)

end Libusual.TlsCert
