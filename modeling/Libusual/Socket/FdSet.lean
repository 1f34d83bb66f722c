import Mathlib

/-!
# The descriptor sets of the `poll` emulation

Where `poll` is missing, `socket.c` emulates it with `select` and keeps two `struct fd_buf`
between calls: a buffer for an `fd_set` and its size in bytes. Before each use both are zeroed
(`fdbuf_zero`) and grown for each descriptor (`fdbuf_resize`): the size doubles from 256 bytes
until it reaches `fd / 8 + 32`, the block is reallocated and its new area zeroed.

The bytes are those of the platform's `fd_set`. `FdSetLayout` says which bytes `FD_SET`,
`FD_ISSET` and `select` touch and what they write, and gives `none` for an access past the
buffer. Two layouts are modelled: the bitmap of `long` words of glibc on a 64-bit
little-endian machine (`bitmap`), and Winsock's count followed by an array of socket handles
(`winsock`).

For every descriptor up to `INT_MAX` the doubling stays inside an `int` and ends with at least
`fd / 8 + 32` bytes (`doubling_spec`), at the least of `256`, `512`, `1024`, ... that holds them
(`fdbuf_resize_least`); a resize keeps a buffer `Sized` and every bit it had, with
the new bits clear (`fdbuf_resize_spec`). In the bitmap layout every access for a descriptor of a
buffer grown for it stays inside the buffer (`bitmapSet_of_grown`), `FD_SET` turns on exactly
the descriptor's bit (`bitOf_bitmapSet`) and `select` keeps exactly the ready bits
(`bitOf_bitmapSelect`).
-/

set_option autoImplicit false

namespace Libusual.Socket

/-- The largest `int`. -/
def INT_MAX : Nat := 2 ^ 31 - 1

/-! ## Memory -/

/-- The `n` bytes at `off`, when they lie inside the buffer. -/
def load (mem : List (BitVec 8)) (off n : Nat) : Option (List (BitVec 8)) :=
  if off + n ≤ mem.length then some ((mem.drop off).take n) else none

/-- `bytes` written at `off`, when they fit inside the buffer. -/
def store (mem : List (BitVec 8)) (off : Nat) (bytes : List (BitVec 8)) :
    Option (List (BitVec 8)) :=
  if off + bytes.length ≤ mem.length then
    some (mem.take off ++ bytes ++ mem.drop (off + bytes.length))
  else none

/-- The unsigned number `bytes` spell, least significant byte first. -/
def leValue : List (BitVec 8) → Nat
  | [] => 0
  | b :: bytes => b.toNat + 256 * leValue bytes

/-- The `width` bytes of `value`, least significant first. -/
def leBytes : Nat → Nat → List (BitVec 8)
  | 0, _ => []
  | width + 1, value => BitVec.ofNat 8 value :: leBytes width (value / 256)

theorem store_length {mem mem' : List (BitVec 8)} {off : Nat} {bytes : List (BitVec 8)}
    (stored : store mem off bytes = some mem') : mem'.length = mem.length := by
  unfold store at stored
  split at stored
  · cases stored
    simp only [List.length_append, List.length_take, List.length_drop]
    omega
  · cases stored

/-- Zeroing a whole buffer. -/
theorem store_zeros (mem : List (BitVec 8)) :
    store mem 0 (List.replicate mem.length 0#8) = some (List.replicate mem.length 0#8) := by
  simp [store]

/-! ## The buffers -/

/-- `struct fd_buf`: the buffer, `NULL` being `none`, and `alloc_bytes`. -/
structure FdBuf where
  set : Option (List (BitVec 8))
  alloc_bytes : Nat
  deriving DecidableEq, Repr

/-- `{ NULL, 0 }`, as the statics of `poll` start. -/
def FdBuf.empty : FdBuf := ⟨none, 0⟩

/-- `fdbuf_zero`: `memset(buf->set, 0, buf->alloc_bytes)` when there is a buffer. -/
def fdbuf_zero (buf : FdBuf) : Option FdBuf :=
  match buf.set with
  | none => some buf
  | some set =>
    (store set 0 (List.replicate buf.alloc_bytes 0#8)).map fun set =>
      { buf with set := some set }

/-- `while (alloc < need_bytes) alloc *= 2;`, run at most `fuel` times. -/
def doubling : Nat → Nat → Nat → Nat
  | 0, _, alloc => alloc
  | fuel + 1, need_bytes, alloc =>
    if alloc < need_bytes then doubling fuel need_bytes (2 * alloc) else alloc

/-- `fdbuf_resize`: whether it succeeded, and the buffer after; `allocOk` says whether the
`malloc` or `realloc` it calls succeeds. The block `realloc` returns keeps the bytes of the old
one; the `memset` writes all the others before anything reads them. -/
def fdbuf_resize (buf : FdBuf) (fd : Nat) (allocOk : Bool) : Option (Bool × FdBuf) :=
  let need_bytes := fd / 8 + 32
  if buf.alloc_bytes < need_bytes then
    let alloc := doubling need_bytes need_bytes 256
    if allocOk then
      let old := buf.set.getD []
      let ptr := old.take alloc ++ List.replicate (alloc - old.length) 0#8
      (store ptr buf.alloc_bytes (List.replicate (alloc - buf.alloc_bytes) 0#8)).map fun ptr =>
        (true, ⟨some ptr, alloc⟩)
    else some (false, buf)
  else some (true, buf)

/-- A buffer as the statics hold it: `NULL` with no size, or a block of `alloc_bytes` bytes,
at least 256 and below `2 ^ 30`. -/
def FdBuf.Sized (buf : FdBuf) : Prop :=
  match buf.set with
  | none => buf.alloc_bytes = 0
  | some set => set.length = buf.alloc_bytes ∧ 256 ≤ buf.alloc_bytes ∧ buf.alloc_bytes < 2 ^ 30

theorem FdBuf.sized_empty : FdBuf.empty.Sized := rfl

/-! ## The doubling -/

/-- The doubling ends at a size of at least `need_bytes` when it has fuel for it, and it doubles
only sizes below `need_bytes`, so it never goes past `2 * need_bytes - 2` unless it starts there. -/
theorem doubling_bounds (fuel need_bytes alloc : Nat) (pos : 0 < alloc)
    (enough : need_bytes ≤ fuel + alloc) :
    need_bytes ≤ doubling fuel need_bytes alloc ∧ alloc ≤ doubling fuel need_bytes alloc ∧
      (doubling fuel need_bytes alloc = alloc ∨ doubling fuel need_bytes alloc ≤ 2 * need_bytes - 2) := by
  induction fuel generalizing alloc with
  | zero => exact ⟨by simpa [doubling] using enough, Nat.le_refl _, Or.inl rfl⟩
  | succ fuel ih =>
    simp only [doubling]
    split
    · obtain ⟨need, ge, bound⟩ := ih (2 * alloc) (by omega) (by omega)
      refine ⟨need, by omega, Or.inr ?_⟩
      rcases bound with same | bound <;> omega
    · omega

/-- **The doubling of `fdbuf_resize`.** For a descriptor up to `INT_MAX` the loop ends with at
least `fd / 8 + 32` bytes, at least 256, and every size it doubles, and the one it ends with,
stays below `2 ^ 30`, inside an `int`. -/
theorem doubling_spec (fd : Nat) (small : fd ≤ INT_MAX) :
    fd / 8 + 32 ≤ doubling (fd / 8 + 32) (fd / 8 + 32) 256 ∧
      256 ≤ doubling (fd / 8 + 32) (fd / 8 + 32) 256 ∧
      doubling (fd / 8 + 32) (fd / 8 + 32) 256 < 2 ^ 30 := by
  have need : fd / 8 + 32 ≤ 2 ^ 28 + 31 := by unfold INT_MAX at small; omega
  obtain ⟨ge, ge256, bound⟩ := doubling_bounds (fd / 8 + 32) (fd / 8 + 32) 256 (by omega) (by omega)
  refine ⟨ge, ge256, ?_⟩
  rcases bound with same | bound <;> omega

/-! ## What a buffer holds -/

/-- Bit `fd % 8` of byte `fd / 8`, a missing byte reading as zero; in a bitmap `fd_set` on a
little-endian machine this is bit `fd % 64` of the `long` word `fd / 64`. -/
def bitOf (mem : List (BitVec 8)) (fd : Nat) : Bool := (mem.getD (fd / 8) 0#8).getLsbD (fd % 8)

/-- The bits of a buffer, none for `NULL`. -/
def FdBuf.bits (buf : FdBuf) (fd : Nat) : Bool := bitOf (buf.set.getD []) fd

@[simp] theorem bitOf_replicate_zero (n fd : Nat) : bitOf (List.replicate n 0#8) fd = false := by
  simp [bitOf, List.getElem?_replicate]
  split <;> simp

@[simp] theorem bitOf_nil (fd : Nat) : bitOf [] fd = false := by simp [bitOf]

/-- Zeros after a buffer change none of its bits. -/
@[simp] theorem bitOf_append_zeros (mem : List (BitVec 8)) (n fd : Nat) :
    bitOf (mem ++ List.replicate n 0#8) fd = bitOf mem fd := by
  simp only [bitOf, List.getD_eq_getElem?_getD, List.getElem?_append, List.getElem?_replicate]
  split
  · rfl
  · rw [List.getElem?_eq_none (by omega)]
    split <;> simp

/-- A change of the byte of `e` reaches the bit of `fd` only when `fd` is in that byte. -/
theorem bitOf_modify (f : BitVec 8 → BitVec 8) (mem : List (BitVec 8)) (e fd : Nat)
    (inside : e / 8 < mem.length) :
    bitOf (mem.modify f (e / 8)) fd =
      if fd / 8 = e / 8 then (f (mem.getD (e / 8) 0#8)).getLsbD (fd % 8) else bitOf mem fd := by
  by_cases same : fd / 8 = e / 8
  · simp only [bitOf, List.getD_eq_getElem?_getD, List.getElem?_modify, same, if_true,
      List.getElem?_eq_getElem inside]
    simp
  · simp only [bitOf, List.getD_eq_getElem?_getD, List.getElem?_modify, same, if_false,
      Ne.symm same]
    cases mem[fd / 8]? <;> simp

/-- `fdbuf_zero` of a sized buffer clears every bit and keeps the size. -/
theorem fdbuf_zero_spec (buf : FdBuf) (sized : buf.Sized) :
    ∃ buf', fdbuf_zero buf = some buf' ∧ buf'.Sized ∧ buf'.alloc_bytes = buf.alloc_bytes ∧
      (buf'.set = none ↔ buf.set = none) ∧ ∀ fd, buf'.bits fd = false := by
  unfold fdbuf_zero
  rcases set : buf.set with _ | mem
  · exact ⟨buf, rfl, sized, rfl, by simp [set], fun fd => by simp [FdBuf.bits, set]⟩
  · simp only [FdBuf.Sized, set] at sized
    obtain ⟨length, sized⟩ := sized
    refine ⟨{ buf with set := some (List.replicate mem.length 0#8) }, ?_, ?_, rfl, by simp, ?_⟩
    · simp [← length, store]
    · simp only [FdBuf.Sized, List.length_replicate]
      exact ⟨length, sized⟩
    · intro fd
      simp only [FdBuf.bits, Option.getD_some, bitOf_replicate_zero]

/-- **`fdbuf_resize` of a sized buffer.** For a descriptor up to `INT_MAX` it does not fault; the
buffer stays sized and keeps every bit, and no new bit is set. When it succeeds the buffer has at
least `fd / 8 + 32` bytes; it fails only when it needs a block and does not get one, and then the
buffer is as it was. -/
theorem fdbuf_resize_spec (buf : FdBuf) (fd : Nat) (allocOk : Bool) (sized : buf.Sized)
    (small : fd ≤ INT_MAX) :
    ∃ ok buf', fdbuf_resize buf fd allocOk = some (ok, buf') ∧ buf'.Sized ∧
      (∀ d, buf'.bits d = buf.bits d) ∧ buf.alloc_bytes ≤ buf'.alloc_bytes ∧
      (ok = true ↔ fd / 8 + 32 ≤ buf.alloc_bytes ∨ allocOk = true) ∧
      (ok = true → fd / 8 + 32 ≤ buf'.alloc_bytes ∧ buf'.set.isSome) ∧
      (ok = false → buf' = buf) := by
  obtain ⟨ge, ge256, lt⟩ := doubling_spec fd small
  have old : (buf.set.getD []).length = buf.alloc_bytes ∧ buf.alloc_bytes < 2 ^ 30 ∧
      (buf.set.isSome ∨ buf.alloc_bytes = 0) := by
    unfold FdBuf.Sized at sized
    split at sized <;> simp_all
  by_cases grow : buf.alloc_bytes < fd / 8 + 32
  · cases allocOk
    · exact ⟨false, buf, by simp [fdbuf_resize, grow], sized, fun _ => rfl, Nat.le_refl _,
        by simp; omega, by simp, fun _ => rfl⟩
    simp only [fdbuf_resize, grow, if_true]
    generalize doubling (fd / 8 + 32) (fd / 8 + 32) 256 = alloc at ge ge256 lt ⊢
    generalize mem : buf.set.getD [] = bytes at old ⊢
    have stored : store (bytes.take alloc ++ List.replicate (alloc - bytes.length) 0#8)
        buf.alloc_bytes (List.replicate (alloc - buf.alloc_bytes) 0#8) =
          some (bytes ++ List.replicate (alloc - buf.alloc_bytes) 0#8) := by
      rw [List.take_of_length_le (show bytes.length ≤ alloc by omega), ← old.1]
      simp [store]
    refine ⟨true, ⟨some (bytes ++ List.replicate (alloc - buf.alloc_bytes) 0#8), alloc⟩,
      by rw [stored]; rfl, ?_, fun d => ?_, Nat.le_of_lt (Nat.lt_of_lt_of_le grow ge), by simp,
      fun _ => ⟨ge, rfl⟩, by simp⟩
    · simp only [FdBuf.Sized, List.length_append, List.length_replicate]
      omega
    · simp [FdBuf.bits, ← mem]
  · exact ⟨true, buf, by simp [fdbuf_resize, grow], sized, fun _ => rfl, Nat.le_refl _,
      by simp; omega, fun _ => ⟨by omega, old.2.2.resolve_right (by omega)⟩, by simp⟩

/-- The doubling from `256 * 2 ^ i`, with every smaller power too small, ends at the least
`256 * 2 ^ k` that holds `need_bytes`, when it has fuel for it. -/
theorem doubling_pow (fuel need_bytes i : Nat) (below : ∀ j < i, 256 * 2 ^ j < need_bytes)
    (enough : need_bytes ≤ fuel + 256 * 2 ^ i) :
    ∃ k, doubling fuel need_bytes (256 * 2 ^ i) = 256 * 2 ^ k ∧ need_bytes ≤ 256 * 2 ^ k ∧
      ∀ j < k, 256 * 2 ^ j < need_bytes := by
  induction fuel generalizing i with
  | zero => exact ⟨i, rfl, by simpa using enough, below⟩
  | succ fuel ih =>
    by_cases grows : 256 * 2 ^ i < need_bytes
    · have step : 2 * (256 * 2 ^ i) = 256 * 2 ^ (i + 1) := by ring
      have pos : 0 < 2 ^ i := Nat.pos_pow_of_pos i (by decide)
      simp only [doubling, grows, if_true, step]
      refine ih (i + 1) (fun j lt => ?_) (by omega)
      rcases Nat.lt_succ_iff_lt_or_eq.mp lt with lt | rfl
      · exact below j lt
      · exact grows
    · exact ⟨i, by simp [doubling, grows], by omega, below⟩

/-- **The size `fdbuf_resize` asks for.** A buffer that must grow for `fd` grows to the least of
`256`, `512`, `1024`, ... that holds `fd / 8 + 32` bytes. -/
theorem fdbuf_resize_least (buf : FdBuf) (fd : Nat) (sized : buf.Sized) (small : fd ≤ INT_MAX)
    (grow : buf.alloc_bytes < fd / 8 + 32) :
    ∃ buf' k, fdbuf_resize buf fd true = some (true, buf') ∧ buf'.alloc_bytes = 256 * 2 ^ k ∧
      fd / 8 + 32 ≤ 256 * 2 ^ k ∧ ∀ j < k, 256 * 2 ^ j < fd / 8 + 32 := by
  obtain ⟨ok, buf', resize, -, -, -, iff, -, -⟩ := fdbuf_resize_spec buf fd true sized small
  obtain rfl : ok = true := iff.mpr (Or.inr rfl)
  obtain ⟨k, least, fits, below⟩ := doubling_pow (fd / 8 + 32) (fd / 8 + 32) 0
    (fun j lt => absurd lt (Nat.not_lt_zero j)) (by omega)
  refine ⟨buf', k, resize, ?_, fits, below⟩
  simp only [fdbuf_resize, grow, if_true] at resize
  obtain ⟨p, -, same⟩ := Option.map_eq_some'.mp resize
  cases same
  simpa using least

set_option maxRecDepth 10000 in
/-- A descriptor past the first 256 bytes of the default: `3000 / 8 + 32 = 407` bytes, so the
buffer doubles once, to `512`. -/
example :
    (fdbuf_resize FdBuf.empty 3000 true).map (fun r => (r.1, r.2.alloc_bytes)) = some (true, 512) := by
  decide

/-! ## Layouts of an `fd_set` -/

/-- How a platform lays out an `fd_set`: what `FD_SET`, `FD_ISSET` and `select` do to its bytes,
with `none` for an access past the buffer. `select nfds ready` is the set as `select` writes it
back, keeping the descriptors below `nfds` that it reports ready. -/
structure FdSetLayout where
  FD_SET : Nat → List (BitVec 8) → Option (List (BitVec 8))
  FD_ISSET : Nat → List (BitVec 8) → Option Bool
  select : Nat → (Nat → Bool) → List (BitVec 8) → Option (List (BitVec 8))

/-! ### A bitmap of `long` words -/

/-- The offset of the `long` word of a bitmap that holds `fd`. -/
def wordOf (fd : Nat) : Nat := 8 * (fd / 64)

/-- glibc's `FD_SET`: `fds_bits[fd / 64] |= 1UL << (fd % 64)`, a read and a write of the word. -/
def bitmapSet (fd : Nat) (mem : List (BitVec 8)) : Option (List (BitVec 8)) :=
  if wordOf fd + 8 ≤ mem.length then
    some (mem.modify (· ||| BitVec.twoPow 8 (fd % 8)) (fd / 8))
  else none

/-- glibc's `FD_ISSET`: `(fds_bits[fd / 64] & (1UL << (fd % 64))) != 0`. -/
def bitmapIsSet (fd : Nat) (mem : List (BitVec 8)) : Option Bool :=
  if wordOf fd + 8 ≤ mem.length then some (bitOf mem fd) else none

/-- The bytes `select` reads and writes back for `nfds` descriptors: whole `long` words. -/
def FDS_BYTES (nfds : Nat) : Nat := 8 * ((nfds + 63) / 64)

/-- The bit of `fd` cleared. -/
def clearBit (fd : Nat) (mem : List (BitVec 8)) : List (BitVec 8) :=
  mem.modify (· &&& ~~~BitVec.twoPow 8 (fd % 8)) (fd / 8)

/-- What `select` writes back into a bitmap for `nfds` descriptors: of the bits of the words it
reads, those of ready descriptors below `nfds` stay, and the others are cleared. -/
def bitmapSelect (nfds : Nat) (ready : Nat → Bool) (mem : List (BitVec 8)) :
    Option (List (BitVec 8)) :=
  if FDS_BYTES nfds ≤ mem.length then
    some ((List.range (8 * FDS_BYTES nfds)).foldl
      (fun mem fd => if fd < nfds && ready fd then mem else clearBit fd mem) mem)
  else none

/-- glibc's `fd_set` on a 64-bit little-endian machine. -/
def bitmap : FdSetLayout := ⟨bitmapSet, bitmapIsSet, bitmapSelect⟩

/-- Two descriptors in one byte are equal exactly when their bits are. -/
theorem beq_of_same_byte {d fd : Nat} (same : d / 8 = fd / 8) :
    (d == fd) = decide (fd % 8 = d % 8) := by
  simp only [beq_eq_decide]
  congr 1
  exact propext ⟨fun eq => by rw [eq], fun _ => by omega⟩

theorem word_inside {fd : Nat} {mem : List (BitVec 8)} (grown : fd / 8 + 32 ≤ mem.length) :
    wordOf fd + 8 ≤ mem.length := by
  unfold wordOf
  omega

theorem bitmapSet_of_grown {fd : Nat} {mem : List (BitVec 8)} (grown : fd / 8 + 32 ≤ mem.length) :
    bitmapSet fd mem = some (mem.modify (· ||| BitVec.twoPow 8 (fd % 8)) (fd / 8)) :=
  if_pos (word_inside grown)

theorem bitmapIsSet_of_grown {fd : Nat} {mem : List (BitVec 8)}
    (grown : fd / 8 + 32 ≤ mem.length) : bitmapIsSet fd mem = some (bitOf mem fd) :=
  if_pos (word_inside grown)

/-- `FD_SET` turns on the bit of its descriptor and no other. -/
theorem bitOf_bitmapSet {fd : Nat} {mem mem' : List (BitVec 8)} (set : bitmapSet fd mem = some mem')
    (d : Nat) : bitOf mem' d = (bitOf mem d || d == fd) := by
  unfold bitmapSet at set
  split at set
  · next inside =>
    cases set
    rw [bitOf_modify _ _ _ _ (by unfold wordOf at inside; omega)]
    by_cases same : d / 8 = fd / 8
    · have small : fd % 8 < 8 := Nat.mod_lt _ (by omega)
      simp [same, bitOf, BitVec.getLsbD_twoPow, beq_of_same_byte same, small]
    · have : (d == fd) = false := by simp only [beq_eq_false_iff_ne]; omega
      simp [same, this]
  · cases set

/-- Clearing the bit of `fd` leaves every other bit. -/
theorem bitOf_clearBit (fd : Nat) (mem : List (BitVec 8)) (d : Nat) (inside : fd / 8 < mem.length) :
    bitOf (clearBit fd mem) d = (bitOf mem d && d != fd) := by
  rw [clearBit, bitOf_modify _ _ _ _ inside]
  by_cases same : d / 8 = fd / 8
  · have small : d % 8 < 8 ∧ fd % 8 < 8 := ⟨Nat.mod_lt _ (by omega), Nat.mod_lt _ (by omega)⟩
    simp [same, bitOf, BitVec.getLsbD_twoPow, bne, beq_of_same_byte same, small]
  · have : (d != fd) = true := by simp only [bne_iff_ne, ne_eq]; omega
    simp [same, this]

@[simp] theorem length_clearBit (fd : Nat) (mem : List (BitVec 8)) :
    (clearBit fd mem).length = mem.length := by
  simp [clearBit]

theorem length_foldl_clear (keep : Nat → Bool) (fds : List Nat) (mem : List (BitVec 8)) :
    (fds.foldl (fun mem fd => if keep fd then mem else clearBit fd mem) mem).length =
      mem.length := by
  induction fds generalizing mem with
  | nil => rfl
  | cons fd fds ih => rw [List.foldl_cons, ih]; split <;> simp

/-- Clearing the bits of the listed descriptors that are not kept. -/
theorem bitOf_foldl_clear (keep : Nat → Bool) (fds : List Nat) (mem : List (BitVec 8))
    (inside : ∀ fd ∈ fds, fd / 8 < mem.length) (d : Nat) :
    bitOf (fds.foldl (fun mem fd => if keep fd then mem else clearBit fd mem) mem) d =
      (bitOf mem d && (keep d || decide (d ∉ fds))) := by
  induction fds generalizing mem with
  | nil => simp
  | cons fd fds ih =>
    have step : (if keep fd then mem else clearBit fd mem).length = mem.length := by
      split <;> simp
    rw [List.foldl_cons, ih _ (fun x mem' => step ▸ inside x (List.mem_cons_of_mem _ mem'))]
    by_cases kept : keep fd = true
    · by_cases same : d = fd
      · subst same
        simp [kept]
      · simp [kept, same]
    · rw [if_neg kept, bitOf_clearBit _ _ _ (inside fd (List.mem_cons_self _ _))]
      by_cases same : d = fd
      · subst same
        simp [kept]
      · simp [same, bne_iff_ne.mpr same]

/-- `select` keeps in a bitmap exactly the set bits of the ready descriptors below `nfds`, among
those of the words it reads. -/
theorem bitOf_bitmapSelect {nfds : Nat} {ready : Nat → Bool} {mem mem' : List (BitVec 8)}
    (selected : bitmapSelect nfds ready mem = some mem') (d : Nat) :
    bitOf mem' d = (bitOf mem d && (d < nfds && ready d || decide (8 * FDS_BYTES nfds ≤ d))) := by
  unfold bitmapSelect at selected
  split at selected
  · next inside =>
    cases selected
    rw [bitOf_foldl_clear _ _ _ (fun fd mem => by simp at mem; omega)]
    simp
  · cases selected

/-- `select` over the descriptors up to one the buffer was grown for reads inside it. -/
theorem bitmapSelect_of_grown (fd_max : Nat) (ready : Nat → Bool) {mem : List (BitVec 8)}
    (grown : fd_max / 8 + 32 ≤ mem.length) :
    ∃ mem', bitmapSelect (fd_max + 1) ready mem = some mem' ∧ mem'.length = mem.length := by
  have inside : FDS_BYTES (fd_max + 1) ≤ mem.length := by unfold FDS_BYTES; omega
  exact ⟨_, if_pos inside, length_foldl_clear _ _ _⟩

/-! ### Winsock: a count and an array of handles -/

/-- Winsock's default `FD_SETSIZE`. -/
def FD_SETSIZE : Nat := 64

/-- `for (i = 0; i < fd_count; i++) if (fd_array[i] == fd) break;` over the indices `slots`. A
`SOCKET` is `handle` bytes wide and `fd_array[i]` sits at `handle * (i + 1)`, after the `u_int`
count padded to the handle's alignment. -/
def winsockFind (handle fd : Nat) (mem : List (BitVec 8)) : List Nat → Option Bool
  | [] => some false
  | i :: slots => do
    let slot ← load mem (handle * (i + 1)) handle
    if leValue slot = fd then pure true else winsockFind handle fd mem slots

/-- Winsock's `FD_SET`: when `fd` is not among the first `fd_count` handles and the array has
room, it goes into slot `fd_count` and the count grows. -/
def winsockSet (handle fd : Nat) (mem : List (BitVec 8)) : Option (List (BitVec 8)) := do
  let count := leValue (← load mem 0 4)
  if ← winsockFind handle fd mem (List.range count) then return mem
  if count < FD_SETSIZE then
    let mem ← store mem (handle * (count + 1)) (leBytes handle fd)
    store mem 0 (leBytes 4 (count + 1))
  else return mem

/-- `__WSAFDIsSet`, which Winsock's `FD_ISSET` calls. -/
def winsockIsSet (handle fd : Nat) (mem : List (BitVec 8)) : Option Bool := do
  let count := leValue (← load mem 0 4)
  winsockFind handle fd mem (List.range count)

/-- What Winsock's `select` writes back: of the first `fd_count` handles the ready ones, in order,
and their number. It does not read `nfds`. -/
def winsockSelect (handle : Nat) (_nfds : Nat) (ready : Nat → Bool) (mem : List (BitVec 8)) :
    Option (List (BitVec 8)) := do
  let count := leValue (← load mem 0 4)
  let handles ← (List.range count).mapM fun i => (load mem (handle * (i + 1)) handle).map leValue
  let kept := handles.filter ready
  let mem ← store mem handle (kept.flatMap (leBytes handle))
  store mem 0 (leBytes 4 kept.length)

/-- Winsock's `fd_set` with handles of `handle` bytes: 8 on 64-bit Windows, 4 on 32-bit. -/
def winsock (handle : Nat) : FdSetLayout := ⟨winsockSet handle, winsockIsSet handle, winsockSelect handle⟩

end Libusual.Socket
