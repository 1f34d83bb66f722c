import Mathlib

/-!
# Resources, the ledger and the error slot

The certificate extractor of `tls_cert.c` acquires heap blocks (`malloc`, `calloc`, `strdup`,
`asprintf`, `BN_bn2dec`), a memory BIO, a BIGNUM, the decoded `GENERAL_NAME` stack and the counted
X509 reference that `SSL_get_peer_certificate` hands out. A `Heap` keeps all of them in one
ledger, a multiset of tagged resources, together with the messages `tls_set_error` recorded and
the pattern of allocation failures: acquisition number `n` fails exactly when `fails n`. Every
acquisition takes the next number, failed or not, so a pattern can fail any set of allocations
of a run, and resources acquired in a run have distinct numbers. A `free` of a pointer that is
not live is undefined behaviour in C and raises `badFree`; a read outside an object, such as a
slot past the end of an array, is too and raises `badRead`.

What a helper of the extractor may do to the heap is said once, by `Extends h h' new msgs`: the
ledger of `h'` is that of `h` with exactly the fresh resources `new` added, and `msgs` were
recorded. It composes (`Extends.trans`), and a release of a resource acquired in between takes
it out again (`Extends.release`). Heaps whose live resources all have numbers below `next`
(`Heap.Numbered`) stay so (`Extends.numbered`), which is what makes fresh resources distinct
from everything held before.
-/

set_option autoImplicit false

namespace Libusual

/-- What a live resource is. -/
inductive Kind where
  /-- A heap block: `malloc`, `calloc`, `strdup`, `asprintf`, `BN_bn2dec`. -/
  | block
  /-- A memory BIO. -/
  | bio
  /-- A BIGNUM. -/
  | bignum
  /-- A decoded `STACK_OF(GENERAL_NAME)`. -/
  | stack
  /-- One count of the reference counter of an X509. -/
  | x509Ref
  deriving DecidableEq, Repr

/-- A resource: its kind and the number of the acquisition that produced it. -/
structure Res where
  kind : Kind
  id : Nat
  deriving DecidableEq, Repr

/-- The state the extractor runs in. -/
structure Heap where
  /-- The ledger: every resource that is held. -/
  live : Multiset Res
  /-- The number the next acquisition gets. -/
  next : Nat
  /-- The messages `tls_set_error` recorded, oldest first. -/
  errors : List String
  /-- Raised by a `free` of a pointer that is not live. -/
  badFree : Bool
  /-- Raised by a read outside an object. -/
  badRead : Bool
  /-- The allocation pattern: acquisition number `n` fails exactly when `fails n`. -/
  fails : Nat → Bool

/-- Computations of the extractor. -/
abbrev HeapM := StateM Heap

/-- A heap block and the bytes it holds. -/
structure Blk where
  id : Nat
  data : List Char
  deriving DecidableEq, Repr

/-- The ledger entry of a block. -/
def Blk.res (b : Blk) : Res := ⟨.block, b.id⟩

/-- The ledger entry of an optional pointer: nothing for `NULL`. -/
def ownOpt : Option Res → Multiset Res
  | none => 0
  | some r => {r}

@[simp] theorem ownOpt_none : ownOpt none = 0 := rfl

@[simp] theorem ownOpt_some (r : Res) : ownOpt (some r) = {r} := rfl

/-! ## Primitives -/

/-- One allocation attempt for a resource of kind `kind`. -/
def acquire (kind : Kind) : HeapM (Option Nat) := fun h =>
  if h.fails h.next then (none, { h with next := h.next + 1 })
  else (some h.next, { h with live := ⟨kind, h.next⟩ ::ₘ h.live, next := h.next + 1 })

/-- An acquisition that cannot fail, such as a reference count increment. -/
def acquireRef (kind : Kind) : HeapM Nat := fun h =>
  (h.next, { h with live := ⟨kind, h.next⟩ ::ₘ h.live, next := h.next + 1 })

/-- An allocation attempt whose memory belongs to a resource already held (a BIO's buffer). -/
def attempt : HeapM Bool := fun h => (!h.fails h.next, { h with next := h.next + 1 })

/-- `malloc` of a block that then holds `data`. -/
def malloc (data : List Char) : HeapM (Option Blk) := do
  return (← acquire .block).map fun id => ⟨id, data⟩

/-- `calloc(n, 1)`: `n` zero bytes. -/
def calloc (n : Nat) : HeapM (Option Blk) := malloc (List.replicate n '\x00')

/-- The C string at a pointer: the bytes before the first NUL. -/
def cstring (s : List Char) : List Char := s.takeWhile (· ≠ '\x00')

/-- `strdup` of the memory `s`: the C string there and its terminator. -/
def strdup (s : List Char) : HeapM (Option Blk) := malloc (cstring s ++ ['\x00'])

/-- Give a resource back; a resource that is not live is a bad free. -/
def release (r : Res) : HeapM Unit := fun h =>
  if r ∈ h.live then ((), { h with live := h.live.erase r }) else ((), { h with badFree := true })

/-- `free`: nothing for `NULL`. -/
def free : Option Res → HeapM Unit
  | none => pure ()
  | some r => release r

/-- A read outside an object. -/
def readFault : HeapM Unit := fun h => ((), { h with badRead := true })

/-- `tls_set_error`: record the message. -/
def tls_set_error (msg : String) : HeapM Unit := fun h =>
  ((), { h with errors := h.errors ++ [msg] })

theorem acquire_run (kind : Kind) (h : Heap) :
    (acquire kind).run h =
      if h.fails h.next then (none, { h with next := h.next + 1 })
      else (some h.next, { h with live := ⟨kind, h.next⟩ ::ₘ h.live, next := h.next + 1 }) := rfl

@[simp] theorem acquireRef_run (kind : Kind) (h : Heap) :
    (acquireRef kind).run h =
      (h.next, { h with live := ⟨kind, h.next⟩ ::ₘ h.live, next := h.next + 1 }) := rfl

@[simp] theorem attempt_run (h : Heap) :
    attempt.run h = (!h.fails h.next, { h with next := h.next + 1 }) := rfl

theorem malloc_run (data : List Char) (h : Heap) :
    (malloc data).run h =
      if h.fails h.next then (none, { h with next := h.next + 1 })
      else (some ⟨h.next, data⟩,
        { h with live := ⟨.block, h.next⟩ ::ₘ h.live, next := h.next + 1 }) := by
  unfold malloc
  simp only [StateT.run_bind, acquire_run]
  split <;> rfl

@[simp] theorem release_run (r : Res) (h : Heap) :
    (release r).run h =
      if r ∈ h.live then ((), { h with live := h.live.erase r })
      else ((), { h with badFree := true }) := rfl

@[simp] theorem free_none_run (h : Heap) : (free none).run h = ((), h) := rfl

@[simp] theorem free_some_run (r : Res) (h : Heap) : (free (some r)).run h = (release r).run h := rfl

@[simp] theorem readFault_run (h : Heap) : readFault.run h = ((), { h with badRead := true }) := rfl

@[simp] theorem tls_set_error_run (msg : String) (h : Heap) :
    (tls_set_error msg).run h = ((), { h with errors := h.errors ++ [msg] }) := rfl

/-- A string without NUL is its own C string. -/
theorem cstring_append_nul {s : List Char} (nul : '\x00' ∉ s) : cstring (s ++ ['\x00']) = s := by
  induction s with
  | nil => rfl
  | cons c s ih =>
    have hc : c ≠ '\x00' := fun e => nul (e ▸ List.mem_cons_self _ _)
    simpa [cstring, hc] using ih fun m => nul (List.mem_cons_of_mem _ m)

/-- The resources a list of pointers holds. -/
def ownAll (ps : List (Option Res)) : Multiset Res := (ps.filterMap id : List Res)

@[simp] theorem ownAll_nil : ownAll [] = 0 := rfl

@[simp] theorem ownAll_cons (p : Option Res) (ps : List (Option Res)) :
    ownAll (p :: ps) = ownOpt p + ownAll ps := by
  cases p <;> simp [ownAll, ownOpt]

@[simp] theorem ownAll_append (ps qs : List (Option Res)) :
    ownAll (ps ++ qs) = ownAll ps + ownAll qs := by
  simp [ownAll]

/-- `free` of each pointer in turn. -/
def freeAll : List (Option Res) → HeapM Unit
  | [] => pure ()
  | p :: ps => do
    free p
    freeAll ps

/-- Freeing distinct live pointers gives back exactly what they hold. -/
theorem freeAll_run (ps : List (Option Res)) (h : Heap) (nodup : (ownAll ps).Nodup)
    (held : ownAll ps ≤ h.live) :
    (freeAll ps).run h = ((), { h with live := h.live - ownAll ps }) := by
  induction ps generalizing h with
  | nil => simp [freeAll]
  | cons p ps ih =>
    cases p with
    | none =>
      simp only [ownAll_cons, ownOpt_none, zero_add] at nodup held ⊢
      simpa [freeAll] using ih h nodup held
    | some r =>
      simp only [ownAll_cons, ownOpt_some, Multiset.singleton_add] at nodup held ⊢
      have mem : r ∈ h.live := Multiset.mem_of_le held (Multiset.mem_cons_self _ _)
      have rest : ownAll ps ≤ h.live.erase r := by
        simpa using Multiset.erase_le_erase r held
      have := ih { h with live := h.live.erase r } (Multiset.nodup_cons.mp nodup).2 rest
      simp [freeAll, mem, this, Multiset.sub_cons]

/-- A heap with nothing held, no message and no allocation failing. -/
def Heap.init : Heap := ⟨0, 0, [], false, false, fun _ => false⟩

/-- The C idiom `ret = step(x); if (ret == 0) ret = step(x); ...`: the steps run in order until
one returns non-zero, and the last code is the result. -/
def chain {α : Type} : List (α → HeapM (Int × α)) → α → HeapM (Int × α)
  | [], x => pure (0, x)
  | step :: steps, x => do
    let (ret, x) ← step x
    if ret = 0 then chain steps x else pure (ret, x)

@[simp] theorem chain_nil_run {α : Type} (x : α) (h : Heap) : (chain [] x).run h = ((0, x), h) :=
  rfl

theorem chain_cons_run {α : Type} (step : α → HeapM (Int × α)) (steps : List (α → HeapM (Int × α)))
    (x : α) (h : Heap) :
    (chain (step :: steps) x).run h =
      if ((step x).run h).1.1 = 0 then (chain steps ((step x).run h).1.2).run ((step x).run h).2
      else (step x).run h := by
  rcases run : (step x).run h with ⟨⟨ret, x'⟩, h'⟩
  simp only [chain, StateT.run_bind, run]
  split <;> simp_all

/-! ## What a helper does to the heap -/

/-- `h'` is `h` with exactly the fresh resources `new` acquired and the messages `msgs`
recorded; nothing was given back twice, nothing was read outside an object and the allocation
pattern is the same. -/
structure Extends (h h' : Heap) (new : Multiset Res) (msgs : List String) : Prop where
  live : h'.live = new + h.live
  nodup : new.Nodup
  next_le : h.next ≤ h'.next
  fresh : ∀ r ∈ new, h.next ≤ r.id ∧ r.id < h'.next
  errors : h'.errors = h.errors ++ msgs
  badFree : h'.badFree = h.badFree
  badRead : h'.badRead = h.badRead
  fails : h'.fails = h.fails

/-- Every live resource has a number below `next`. -/
def Heap.Numbered (h : Heap) : Prop := ∀ r ∈ h.live, r.id < h.next

namespace Extends

variable {h₁ h₂ h₃ : Heap} {a b : Multiset Res} {m n : List String}

theorem refl (h : Heap) : Extends h h 0 [] :=
  ⟨by simp, Multiset.nodup_zero, le_rfl, by simp, by simp, rfl, rfl, rfl⟩

theorem trans (first : Extends h₁ h₂ a m) (second : Extends h₂ h₃ b n) :
    Extends h₁ h₃ (b + a) (m ++ n) where
  live := by rw [second.live, first.live, add_assoc]
  nodup := by
    refine Multiset.nodup_add.mpr ⟨second.nodup, first.nodup, Multiset.disjoint_left.mpr ?_⟩
    intro r late early
    have := (second.fresh r late).1
    have := (first.fresh r early).2
    omega
  next_le := first.next_le.trans second.next_le
  fresh r mem := by
    rcases Multiset.mem_add.mp mem with mem | mem
    · have := second.fresh r mem; have := first.next_le; omega
    · have := first.fresh r mem; have := second.next_le; omega
  errors := by rw [second.errors, first.errors, List.append_assoc]
  badFree := second.badFree.trans first.badFree
  badRead := second.badRead.trans first.badRead
  fails := second.fails.trans first.fails

/-- A failed allocation attempt. -/
theorem bump (h : Heap) : Extends h { h with next := h.next + 1 } 0 [] :=
  ⟨by simp, Multiset.nodup_zero, by simp, by simp, by simp, rfl, rfl, rfl⟩

/-- A successful acquisition. -/
theorem acquired (h : Heap) (kind : Kind) :
    Extends h { h with live := ⟨kind, h.next⟩ ::ₘ h.live, next := h.next + 1 }
      {⟨kind, h.next⟩} [] :=
  ⟨by simp, Multiset.nodup_singleton _, by simp, by simp, by simp, rfl, rfl, rfl⟩

/-- A message. -/
theorem error (h : Heap) (msg : String) :
    Extends h { h with errors := h.errors ++ [msg] } 0 [msg] :=
  ⟨by simp, Multiset.nodup_zero, le_rfl, by simp, rfl, rfl, rfl, rfl⟩

/-- A failed allocation attempt and its message. -/
theorem bumpError (h : Heap) (msg : String) :
    Extends h { h with next := h.next + 1, errors := h.errors ++ [msg] } 0 [msg] :=
  ⟨by simp, Multiset.nodup_zero, by simp, by simp, rfl, rfl, rfl, rfl⟩

/-- Giving back a resource acquired in between takes it out of what was acquired. -/
theorem release {r : Res} (ext : Extends h₁ h₂ a m) (mem : r ∈ a) :
    Extends h₁ ((Libusual.release r).run h₂).2 (a.erase r) m := by
  have live : r ∈ h₂.live := ext.live ▸ Multiset.mem_add.mpr (Or.inl mem)
  simp only [release_run, live, if_true]
  exact ⟨by rw [ext.live, Multiset.erase_add_left_pos _ mem], ext.nodup.erase r, ext.next_le,
    fun r' mem' => ext.fresh r' (Multiset.mem_of_mem_erase mem'), ext.errors, ext.badFree,
    ext.badRead, ext.fails⟩

/-- Giving back a part `a` of what was acquired in between leaves the rest acquired. -/
theorem drop (ext : Extends h₁ h₂ (a + b) m) : Extends h₁ { h₂ with live := h₂.live - a } b m :=
  ⟨by rw [ext.live, add_assoc, add_tsub_cancel_left], (Multiset.nodup_add.mp ext.nodup).2.1,
    ext.next_le, fun r mem => ext.fresh r (Multiset.mem_add.mpr (Or.inr mem)), ext.errors,
    ext.badFree, ext.badRead, ext.fails⟩

theorem numbered (ext : Extends h₁ h₂ a m) (numbered : h₁.Numbered) : h₂.Numbered := by
  intro r mem
  rw [ext.live] at mem
  rcases Multiset.mem_add.mp mem with mem | mem
  · exact (ext.fresh r mem).2
  · exact lt_of_lt_of_le (numbered r mem) ext.next_le

/-- What is acquired is not held before. -/
theorem disjoint (ext : Extends h₁ h₂ a m) (numbered : h₁.Numbered) : Disjoint a h₁.live := by
  rw [Multiset.disjoint_left]
  intro r new old
  have := (ext.fresh r new).1
  have := numbered r old
  omega

end Extends

/-- A `malloc` acquires its block, when it gets one, and nothing else. -/
theorem malloc_extends (data : List Char) (h : Heap) :
    Extends h ((malloc data).run h).2 (ownOpt (((malloc data).run h).1.map Blk.res)) [] := by
  rw [malloc_run]
  split
  · simpa using Extends.bump h
  · simpa [Blk.res] using Extends.acquired h .block

/-- How a field parser of the extractor ends: with code 0, its block and no message, or with code
-1, no block and one message; its block is the only resource it leaves. -/
def Parsed (h : Heap) : (Int × Option Blk) × Heap → Prop
  | ((ret, dst), h') => ∃ msgs, Extends h h' (ownOpt (dst.map Blk.res)) msgs ∧
      (ret = 0 ∧ dst.isSome ∧ msgs = [] ∨ ret = -1 ∧ dst = none ∧ msgs.length = 1)

/-- What a step of the extractor does to the state it fills: from `x` at `h` to `x'` at `h'`, it
acquires exactly `new`, which `x'` owns besides what `x` owns, and records no message when it
returns 0 and one when it fails, or none where `silent` holds. -/
def Grows {α : Type} (owned : α → Multiset Res) (silent : Prop) (x : α) (h : Heap) :
    (Int × α) × Heap → Prop
  | ((ret, x'), h') => ∃ new msgs, Extends h h' new msgs ∧ owned x' = new + owned x ∧
      (ret = 0 ∧ msgs = [] ∨ ret ≠ 0 ∧ (msgs.length = 1 ∨ msgs = [] ∧ silent))

namespace Grows

variable {α : Type} {owned : α → Multiset Res} {silent : Prop} {x : α} {h : Heap}

/-- A step that fills a part of a larger state grows the larger state by what the part grows by. -/
theorem map {β : Type} {ownB : β → Multiset Res} {y : β} {r : (Int × α) × Heap} (f : α → β)
    (owns : ∀ x', ownB (f x') + owned x = owned x' + ownB y) (grows : Grows owned silent x h r) :
    Grows ownB silent y h ((r.1.1, f r.1.2), r.2) := by
  obtain ⟨⟨ret, x'⟩, h'⟩ := r
  obtain ⟨new, msgs, ext, own, code⟩ := grows
  refine ⟨new, msgs, ext, add_right_cancel (?_ : ownB (f x') + owned x = new + ownB y + owned x),
    code⟩
  rw [owns, own, add_right_comm]

theorem mono {silent' : Prop} {r : (Int × α) × Heap} (weaker : silent → silent')
    (grows : Grows owned silent x h r) : Grows owned silent' x h r := by
  obtain ⟨⟨ret, x'⟩, h'⟩ := r
  obtain ⟨new, msgs, ext, own, code⟩ := grows
  exact ⟨new, msgs, ext, own, code.imp_right (And.imp_right (Or.imp_right (And.imp_right weaker)))⟩

end Grows

/-- A field parser grows the field it fills from `NULL`, and never fails silently. -/
theorem Parsed.grows {h : Heap} {r : (Int × Option Blk) × Heap} (parsed : Parsed h r) :
    Grows (fun dst : Option Blk => ownOpt (dst.map Blk.res)) False none h r := by
  obtain ⟨⟨ret, dst⟩, h'⟩ := r
  obtain ⟨msgs, ext, code⟩ := parsed
  refine ⟨_, msgs, ext, by simp, ?_⟩
  rcases code with ⟨rfl, -, rfl⟩ | ⟨rfl, -, one⟩
  · exact Or.inl ⟨rfl, rfl⟩
  · exact Or.inr ⟨by decide, Or.inl one⟩

/-- A chain of steps each of which grows the state it gets grows the state. Which states a step
gets is said by `Ready`, indexed by the step's position: each step leaves a state ready for the
next, and the chain stops at a state ready for the step after the last one it ran. -/
theorem chain_grows {α : Type} (owned : α → Multiset Res) (silent : Prop) (Ready : Nat → α → Prop)
    (steps : List (α → HeapM (Int × α))) (start : Nat)
    (step : ∀ i (s : α → HeapM (Int × α)), steps[i]? = some s → ∀ x h, Ready (start + i) x →
      Grows owned silent x h ((s x).run h) ∧ Ready (start + i + 1) ((s x).run h).1.2)
    (x : α) (h : Heap) (ready : Ready start x) :
    Grows owned silent x h ((chain steps x).run h) ∧
      ∃ i ≤ steps.length, Ready (start + i) ((chain steps x).run h).1.2 := by
  induction steps generalizing start x h with
  | nil => exact ⟨⟨0, [], Extends.refl h, by simp, Or.inl ⟨rfl, rfl⟩⟩, 0, le_rfl, ready⟩
  | cons first rest ih =>
    obtain ⟨grow, ready'⟩ := step 0 first (by simp) x h ready
    rw [chain_cons_run]
    rcases run : (first x).run h with ⟨⟨ret, x'⟩, h'⟩
    rw [run] at grow ready'
    obtain ⟨new, msgs, ext, own, code⟩ := grow
    by_cases zero : ret = 0
    · have quiet : msgs = [] := by
        rcases code with ⟨-, quiet⟩ | ⟨failed, -⟩
        · exact quiet
        · exact absurd zero failed
      subst quiet
      have later : ∀ i (s : α → HeapM (Int × α)), rest[i]? = some s → ∀ x h,
          Ready (start + 1 + i) x →
            Grows owned silent x h ((s x).run h) ∧ Ready (start + 1 + i + 1) ((s x).run h).1.2 := by
        intro i s mem
        rw [show start + 1 + i = start + (i + 1) by omega]
        exact step (i + 1) s (by simpa using mem)
      obtain ⟨grow', i, le, ready''⟩ := ih (start + 1) later x' h' ready'
      simp only [zero, if_true]
      rcases chained : (chain rest x').run h' with ⟨⟨ret'', x''⟩, h''⟩
      rw [chained] at grow' ready''
      obtain ⟨new', msgs', ext', own', code'⟩ := grow'
      refine ⟨⟨new' + new, msgs', by simpa using ext.trans ext', by rw [own', own, add_assoc],
        code'⟩, i + 1, by simp; omega, by simpa [Nat.add_assoc, Nat.add_comm 1] using ready''⟩
    · simp only [zero, if_false]
      exact ⟨⟨new, msgs, ext, own, code⟩, 1, by simp, ready'⟩

end Libusual
