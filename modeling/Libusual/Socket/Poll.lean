import Libusual.Socket.FdSet

/-!
# `poll` emulated with `select`

`poll` converts the timeout to a `struct timeval`, zeroes its two static buffers, and for each
entry grows both buffers for the entry's descriptor and sets the descriptor in the read set when
the entry asks for `POLLIN` and in the write set when it asks for `POLLOUT`. It stops with
`EBADF` at a negative descriptor and with `ENOMEM` when a buffer cannot grow; the buffers keep
what was written so far. It then calls `select` with one more than the largest descriptor, an
`int` sum that overflows, undefined behaviour, when that descriptor is `INT_MAX`. When
`select` returns a positive count, `poll` sets every entry's `revents` from the sets `select`
wrote back and returns the number of entries with some; otherwise it returns `select`'s value.

The operating system is a parameter: `select` is any function of the call it gets, and the
allocation pattern any sequence of successes and failures.

In the bitmap layout, with descriptors below `INT_MAX`, a call never faults, over any history
(`poll_bitmap_never_faults`); a descriptor of `INT_MAX` gets through the first loop and makes
`fd_max + 1` overflow (`poll_bitmap_nfds_overflow`). A call reports `EINVAL` exactly for a
timeout below `-1`, `EBADF` only for a negative descriptor and `ENOMEM` only after a failing
allocation, always before `select`, with `-1` and the entries as they came
(`poll_bitmap_errors`).
-/

set_option autoImplicit false

namespace Libusual.Socket

/-- `POLLIN`. -/
def POLLIN : Nat := 1

/-- `POLLOUT`. -/
def POLLOUT : Nat := 4

/-- `struct pollfd`. -/
structure PollFd where
  fd : Int
  events : Nat
  revents : Nat
  deriving DecidableEq, Repr

/-- The `errno` values `poll` sets. -/
inductive Errno where
  | EINVAL
  | EBADF
  | ENOMEM
  deriving DecidableEq, Repr

/-- The two static buffers of `poll`. -/
structure PollStatics where
  readfds : FdBuf
  writefds : FdBuf
  deriving DecidableEq, Repr

/-- The statics before the first call. -/
def PollStatics.empty : PollStatics := ⟨FdBuf.empty, FdBuf.empty⟩

/-- `struct timeval`. -/
structure Timeval where
  tv_sec : Int
  tv_usec : Int
  deriving DecidableEq, Repr

/-- What `poll` hands `select`: `nfds`, the two sets and the timeout, `NULL` being `none`. -/
structure SelectCall where
  nfds : Int
  readfds : Option (List (BitVec 8))
  writefds : Option (List (BitVec 8))
  timeout : Option Timeval
  deriving DecidableEq, Repr

/-- What `select` answers: its return value, and the descriptors it found ready for reading and
for writing. -/
structure SelectAnswer where
  res : Int
  readReady : Nat → Bool
  writeReady : Nat → Bool

/-! ## The model -/

/-- `fdbuf_resize` drawing on the allocation pattern: the `n`-th allocation `poll` attempts
succeeds when `allocOk n`. Returns the count of allocations attempted after it. -/
def resizeAt (allocOk : Nat → Bool) (buf : FdBuf) (fd n : Nat) : Option (Bool × FdBuf × Nat) :=
  (fdbuf_resize buf fd (allocOk n)).map fun (ok, buf') =>
    (ok, buf', if buf.alloc_bytes < fd / 8 + 32 then n + 1 else n)

/-- `FD_SET(fd, buf->set)`; on `NULL` it faults. -/
def setIn (layout : FdSetLayout) (fd : Nat) (buf : FdBuf) : Option FdBuf :=
  match buf.set with
  | none => none
  | some mem => (layout.FD_SET fd mem).map fun mem => { buf with set := some mem }

/-- `if (asked) FD_SET(fd, buf->set);` -/
def setWhen (layout : FdSetLayout) (asked : Prop) [Decidable asked] (fd : Nat) (buf : FdBuf) :
    Option FdBuf :=
  if asked then setIn layout fd buf else some buf

/-- `FD_ISSET(fd, buf->set)`; on `NULL` it faults. -/
def isSetIn (layout : FdSetLayout) (fd : Nat) (buf : FdBuf) : Option Bool :=
  match buf.set with
  | none => none
  | some mem => layout.FD_ISSET fd mem

/-- `asked && FD_ISSET(fd, buf->set)`, which tests the set only when the entry asks. -/
def isSetWhen (layout : FdSetLayout) (asked : Prop) [Decidable asked] (fd : Nat) (buf : FdBuf) :
    Option Bool :=
  if asked then isSetIn layout fd buf else some false

/-- `select` reading a set and writing it back; a `NULL` set is left alone. -/
def selectIn (layout : FdSetLayout) (nfds : Nat) (ready : Nat → Bool) (buf : FdBuf) :
    Option FdBuf :=
  match buf.set with
  | none => some buf
  | some mem => (layout.select nfds ready mem).map fun mem => { buf with set := some mem }

/-- The first loop of `poll`, from an entry on, with `fd_max` so far and the number of
allocations attempted: the error it stops with, if any, `fd_max`, that number and the statics. -/
def fillSets (layout : FdSetLayout) (allocOk : Nat → Bool) :
    List PollFd → Nat → Nat → PollStatics → Option (Option Errno × Nat × Nat × PollStatics)
  | [], fd_max, n, st => some (none, fd_max, n, st)
  | pf :: fds, fd_max, n, st =>
    if pf.fd < 0 then some (some .EBADF, fd_max, n, st)
    else do
      let fd := pf.fd.toNat
      let (ok, readfds, n) ← resizeAt allocOk st.readfds fd n
      if !ok then return (some .ENOMEM, fd_max, n, { st with readfds })
      let (ok, writefds, n) ← resizeAt allocOk st.writefds fd n
      if !ok then return (some .ENOMEM, fd_max, n, ⟨readfds, writefds⟩)
      let readfds ← setWhen layout (pf.events &&& POLLIN ≠ 0) fd readfds
      let writefds ← setWhen layout (pf.events &&& POLLOUT ≠ 0) fd writefds
      fillSets layout allocOk fds (max fd_max fd) n ⟨readfds, writefds⟩

/-- The second loop of `poll`: each entry's `revents` from the sets `select` wrote back, and the
number of entries with some. -/
def recount (layout : FdSetLayout) (readfds writefds : FdBuf) :
    List PollFd → Option (Nat × List PollFd)
  | [] => some (0, [])
  | pf :: fds => do
    let rin ← isSetWhen layout (pf.events &&& POLLIN ≠ 0) pf.fd.toNat readfds
    let rout ← isSetWhen layout (pf.events &&& POLLOUT ≠ 0) pf.fd.toNat writefds
    let revents := (if rin then POLLIN else 0) ||| (if rout then POLLOUT else 0)
    let (res, fds) ← recount layout readfds writefds fds
    pure (if revents ≠ 0 then res + 1 else res, { pf with revents := revents } :: fds)

/-- The timeout `poll` hands to `select`: none (wait for ever) for a negative one. -/
def selectTimeout (timeout_ms : Int) : Option Timeval :=
  if 0 ≤ timeout_ms then some ⟨timeout_ms / 1000, (timeout_ms % 1000) * 1000⟩ else none

/-- `fd_max + 1` in `int`: `none` at `INT_MAX`, where the sum overflows, which is undefined
behaviour. -/
def intSucc (fd_max : Nat) : Option Nat := if fd_max < INT_MAX then some (fd_max + 1) else none

/-- `poll(fds, nfds, timeout_ms)` with the statics `st`: the return value and `errno`, the entries
after the call and the statics after it; `none` when it faults. -/
def poll (layout : FdSetLayout) (allocOk : Nat → Bool) (select : SelectCall → SelectAnswer)
    (st : PollStatics) (fds : List PollFd) (timeout_ms : Int) :
    Option ((Int × Option Errno) × List PollFd × PollStatics) := do
  let tv := selectTimeout timeout_ms
  if timeout_ms < -1 then return ((-1, some .EINVAL), fds, st)
  let readfds ← fdbuf_zero st.readfds
  let writefds ← fdbuf_zero st.writefds
  let (err, fd_max, _, st) ← fillSets layout allocOk fds 0 0 ⟨readfds, writefds⟩
  if let some err := err then return ((-1, some err), fds, st)
  let nfds ← intSucc fd_max
  let answer := select ⟨nfds, st.readfds.set, st.writefds.set, tv⟩
  let readfds ← selectIn layout nfds answer.readReady st.readfds
  let writefds ← selectIn layout nfds answer.writeReady st.writefds
  if answer.res ≤ 0 then return ((answer.res, none), fds, ⟨readfds, writefds⟩)
  let (res, fds) ← recount layout readfds writefds fds
  return ((res, none), fds, ⟨readfds, writefds⟩)

/-! ## The first loop in the bitmap layout -/

/-- Both buffers sized. -/
def PollStatics.Sized (st : PollStatics) : Prop := st.readfds.Sized ∧ st.writefds.Sized

/-- The entry asks for the events in `mask`. -/
def PollFd.asks (pf : PollFd) (mask : Nat) : Prop := pf.events &&& mask ≠ 0

instance (pf : PollFd) (mask : Nat) : Decidable (pf.asks mask) :=
  inferInstanceAs (Decidable (pf.events &&& mask ≠ 0))

/-- The statics as the first loop leaves them after the entries `done`: both buffers sized and
grown for the descriptor of every entry of `done`; the read set holds exactly the descriptors of
the entries that ask for `POLLIN`, the write set those that ask for `POLLOUT`. -/
structure Filled (done : List PollFd) (st : PollStatics) : Prop where
  sized : st.Sized
  grown : ∀ pf ∈ done, pf.fd.toNat / 8 + 32 ≤ st.readfds.alloc_bytes ∧
    pf.fd.toNat / 8 + 32 ≤ st.writefds.alloc_bytes
  reads : ∀ d : Nat, st.readfds.bits d = true ↔ ∃ pf ∈ done, pf.fd = d ∧ pf.asks POLLIN
  writes : ∀ d : Nat, st.writefds.bits d = true ↔ ∃ pf ∈ done, pf.fd = d ∧ pf.asks POLLOUT

/-- A buffer grown for some descriptor is not `NULL`, and holds its bytes. -/
theorem FdBuf.set_of_grown {buf : FdBuf} (sized : buf.Sized) (grown : 32 ≤ buf.alloc_bytes) :
    ∃ mem, buf.set = some mem ∧ mem.length = buf.alloc_bytes := by
  unfold FdBuf.Sized at sized
  split at sized
  · omega
  · next mem set => exact ⟨mem, set, sized.1⟩

/-- `FD_SET` into a bitmap buffer grown for the descriptor adds its bit and keeps the size. -/
theorem setIn_bitmap {buf : FdBuf} {fd : Nat} (sized : buf.Sized)
    (grown : fd / 8 + 32 ≤ buf.alloc_bytes) :
    ∃ buf', setIn bitmap fd buf = some buf' ∧ buf'.Sized ∧
      buf'.alloc_bytes = buf.alloc_bytes ∧ ∀ d, buf'.bits d = (buf.bits d || d == fd) := by
  obtain ⟨mem, set, length⟩ := FdBuf.set_of_grown sized (by omega)
  have inside : fd / 8 + 32 ≤ mem.length := by omega
  refine ⟨{ buf with set := some (mem.modify (· ||| BitVec.twoPow 8 (fd % 8)) (fd / 8)) }, ?_,
    ?_, rfl, fun d => ?_⟩
  · simp only [setIn, set]
    rw [show bitmap.FD_SET fd mem = _ from bitmapSet_of_grown inside]
    rfl
  · simp only [FdBuf.Sized, set] at sized ⊢
    simpa using sized
  · simp only [FdBuf.bits, set, Option.getD_some]
    exact bitOf_bitmapSet (bitmapSet_of_grown inside) d

/-- `if (asked) FD_SET(fd, buf->set);` into a bitmap buffer grown for the descriptor. -/
theorem setWhen_bitmap (asked : Prop) [Decidable asked] {buf : FdBuf} {fd : Nat}
    (sized : buf.Sized) (grown : fd / 8 + 32 ≤ buf.alloc_bytes) :
    ∃ buf', setWhen bitmap asked fd buf = some buf' ∧ buf'.Sized ∧
      buf'.alloc_bytes = buf.alloc_bytes ∧ ∀ d, buf'.bits d = (buf.bits d || d == fd && decide asked) := by
  by_cases ask : asked
  · obtain ⟨buf', set, sized', alloc, bits⟩ := setIn_bitmap sized grown
    exact ⟨buf', by simp [setWhen, ask, set], sized', alloc, by simpa [ask] using bits⟩
  · exact ⟨buf, by simp [setWhen, ask], sized, rfl, by simp [ask]⟩

/-- A set after an entry: the descriptors of the earlier entries that ask, and the entry's own when
it asks. -/
theorem bits_add_entry {before after : FdBuf} {done : List PollFd} {pf : PollFd} {mask : Nat}
    (nonneg : 0 ≤ pf.fd) (had : ∀ d : Nat, before.bits d = true ↔ ∃ q ∈ done, q.fd = d ∧ q.asks mask)
    (bits : ∀ d, after.bits d = (before.bits d || d == pf.fd.toNat && decide (pf.events &&& mask ≠ 0)))
    (d : Nat) : after.bits d = true ↔ ∃ q ∈ done ++ [pf], q.fd = d ∧ q.asks mask := by
  have same : (d == pf.fd.toNat) = decide (pf.fd = d) := by
    simp only [beq_eq_decide]
    congr 1
    exact propext ⟨fun _ => by omega, fun _ => by omega⟩
  simp only [bits, Bool.or_eq_true, had, same, Bool.and_eq_true, decide_eq_true_eq,
    List.mem_append, List.mem_singleton]
  constructor
  · rintro (⟨q, mem, fd, ask⟩ | ⟨fd, ask⟩)
    · exact ⟨q, Or.inl mem, fd, ask⟩
    · exact ⟨pf, Or.inr rfl, fd, ask⟩
  · rintro ⟨q, mem | rfl, fd, ask⟩
    · exact Or.inl ⟨q, mem, fd, ask⟩
    · exact Or.inr ⟨fd, ask⟩

/-- `resizeAt` of a sized buffer, as `fdbuf_resize_spec` says, and it succeeds when no
allocation fails. -/
theorem resizeAt_spec (allocOk : Nat → Bool) (buf : FdBuf) (fd n : Nat) (sized : buf.Sized)
    (small : fd ≤ INT_MAX) :
    ∃ ok buf' n', resizeAt allocOk buf fd n = some (ok, buf', n') ∧ buf'.Sized ∧
      (∀ d, buf'.bits d = buf.bits d) ∧ buf.alloc_bytes ≤ buf'.alloc_bytes ∧
      (ok = true → fd / 8 + 32 ≤ buf'.alloc_bytes) ∧ (ok = false → buf' = buf) ∧
      ((∀ k, allocOk k = true) → ok = true) := by
  obtain ⟨ok, buf', resize, sized', bits, le, iff, grown, same⟩ :=
    fdbuf_resize_spec buf fd (allocOk n) sized small
  exact ⟨ok, buf', if buf.alloc_bytes < fd / 8 + 32 then n + 1 else n,
    by simp [resizeAt, resize], sized', bits, le, fun ok => (grown ok).1, same,
    fun noFail => iff.mpr (Or.inr (noFail n))⟩

/-- One entry of the first loop in the bitmap layout, from statics filled for the entries before
it: either a buffer cannot grow and the loop stops with `ENOMEM`, the statics still sized, or the
loop goes on with statics filled for the entry too. -/
theorem fillSets_cons_bitmap (allocOk : Nat → Bool) (pf : PollFd) (fds : List PollFd)
    (fd_max n : Nat) (st : PollStatics) (done : List PollFd) (filled : Filled done st)
    (nonneg : 0 ≤ pf.fd) (small : pf.fd ≤ INT_MAX) :
    (∃ n' st', fillSets bitmap allocOk (pf :: fds) fd_max n st =
        some (some .ENOMEM, fd_max, n', st') ∧ st'.Sized ∧ ¬ ∀ k, allocOk k = true) ∨
      ∃ n' st', fillSets bitmap allocOk (pf :: fds) fd_max n st =
        fillSets bitmap allocOk fds (max fd_max pf.fd.toNat) n' st' ∧ Filled (done ++ [pf]) st' := by
  have fd_small : pf.fd.toNat ≤ INT_MAX := by unfold INT_MAX at small ⊢; omega
  obtain ⟨ok₁, readfds, n₁, resize₁, sized₁, bits₁, le₁, grown₁, same₁, noFail₁⟩ :=
    resizeAt_spec allocOk st.readfds pf.fd.toNat n filled.sized.1 fd_small
  simp only [fillSets, Int.not_lt.mpr nonneg, if_false, resize₁, Option.bind_eq_bind,
    Option.some_bind]
  cases ok₁
  · obtain rfl := same₁ rfl
    exact Or.inl ⟨n₁, { st with readfds := st.readfds }, rfl, filled.sized,
      fun noFail => by simpa using noFail₁ noFail⟩
  obtain ⟨ok₂, writefds, n₂, resize₂, sized₂, bits₂, le₂, grown₂, same₂, noFail₂⟩ :=
    resizeAt_spec allocOk st.writefds pf.fd.toNat n₁ filled.sized.2 fd_small
  simp only [Bool.not_true, Bool.false_eq_true, if_false, resize₂, Option.some_bind]
  cases ok₂
  · obtain rfl := same₂ rfl
    exact Or.inl ⟨n₂, ⟨readfds, st.writefds⟩, rfl, ⟨sized₁, filled.sized.2⟩,
      fun noFail => by simpa using noFail₂ noFail⟩
  obtain ⟨readfds', setR, sizedR, allocR, bitsR⟩ :=
    setWhen_bitmap (pf.events &&& POLLIN ≠ 0) sized₁ (grown₁ rfl)
  obtain ⟨writefds', setW, sizedW, allocW, bitsW⟩ :=
    setWhen_bitmap (pf.events &&& POLLOUT ≠ 0) sized₂ (grown₂ rfl)
  simp only [Bool.not_true, Bool.false_eq_true, if_false, setR, setW, Option.some_bind]
  refine Or.inr ⟨n₂, ⟨readfds', writefds'⟩, rfl, ⟨sizedR, sizedW⟩, fun q mem => ?_, fun d => ?_,
    fun d => ?_⟩
  · rcases List.mem_append.mp mem with mem | same
    · have := filled.grown q mem
      simp only at this ⊢
      omega
    · obtain rfl := List.mem_singleton.mp same
      have := grown₁ rfl
      have := grown₂ rfl
      simp only
      omega
  · exact bits_add_entry nonneg filled.reads (fun d => by rw [bitsR, bits₁]) d
  · exact bits_add_entry nonneg filled.writes (fun d => by rw [bitsW, bits₂]) d

/-- The largest of `fd_max` and the descriptors of the entries, as the first loop keeps it. -/
def maxFd (fd_max : Nat) (fds : List PollFd) : Nat := fds.foldl (fun m pf => max m pf.fd.toNat) fd_max

/-- **The first loop in the bitmap layout.** From statics filled for the entries `done`, the loop
over `fds` never faults and leaves the statics sized. When it ends without an error, the statics
are filled for `done` and `fds` and `fd_max` is the largest descriptor seen; it ends without an
error whenever no descriptor is negative and no allocation fails. -/
theorem fillSets_bitmap (allocOk : Nat → Bool) (fds : List PollFd)
    (small : ∀ pf ∈ fds, pf.fd ≤ INT_MAX) (done : List PollFd) (fd_max n : Nat)
    (st : PollStatics) (filled : Filled done st) :
    ∃ err fd_max' n' st', fillSets bitmap allocOk fds fd_max n st = some (err, fd_max', n', st') ∧
      st'.Sized ∧ (err = none → Filled (done ++ fds) st' ∧ fd_max' = maxFd fd_max fds) ∧
      ((∀ pf ∈ fds, 0 ≤ pf.fd) → (∀ k, allocOk k = true) → err = none) := by
  induction fds generalizing done fd_max n st with
  | nil => exact ⟨none, fd_max, n, st, rfl, filled.sized, fun _ => ⟨by simpa using filled, rfl⟩,
      fun _ _ => rfl⟩
  | cons pf fds ih =>
    by_cases neg : pf.fd < 0
    · exact ⟨some .EBADF, fd_max, n, st, by simp [fillSets, neg], filled.sized, by simp,
        fun nonneg _ => absurd (nonneg pf (List.mem_cons_self _ _)) (by omega)⟩
    rcases fillSets_cons_bitmap allocOk pf fds fd_max n st done filled (by omega)
        (small pf (List.mem_cons_self _ _)) with
      ⟨n', st', stop, sized, failing⟩ | ⟨n', st', next, filled'⟩
    · exact ⟨some .ENOMEM, fd_max, n', st', stop, sized, by simp,
        fun _ noFail => absurd noFail failing⟩
    · obtain ⟨err, fd_max', n'', st'', run, sized, done', ok⟩ :=
        ih (fun q mem => small q (List.mem_cons_of_mem _ mem)) (done ++ [pf]) _ n' st' filled'
      refine ⟨err, fd_max', n'', st'', next ▸ run, sized, fun none => ?_,
        fun nonneg noFail => ok (fun q mem => nonneg q (List.mem_cons_of_mem _ mem)) noFail⟩
      obtain ⟨filled'', max⟩ := done' none
      exact ⟨by simpa using filled'', by simpa [maxFd] using max⟩

theorem le_maxFd (fd_max : Nat) (fds : List PollFd) :
    fd_max ≤ maxFd fd_max fds ∧ ∀ pf ∈ fds, pf.fd.toNat ≤ maxFd fd_max fds := by
  induction fds generalizing fd_max with
  | nil => simp [maxFd]
  | cons pf fds ih =>
    obtain ⟨le, each⟩ := ih (max fd_max pf.fd.toNat)
    simp only [maxFd, List.foldl_cons, List.mem_cons, forall_eq_or_imp] at le each ⊢
    exact ⟨by omega, by omega, each⟩

theorem maxFd_eq (fd_max : Nat) (fds : List PollFd) :
    maxFd fd_max fds = fd_max ∨ ∃ pf ∈ fds, maxFd fd_max fds = pf.fd.toNat := by
  induction fds generalizing fd_max with
  | nil => simp [maxFd]
  | cons pf fds ih =>
    simp only [maxFd, List.foldl_cons] at ih ⊢
    rcases ih (max fd_max pf.fd.toNat) with eq | ⟨q, mem, eq⟩
    · rw [eq]
      rcases Nat.le_total fd_max pf.fd.toNat with le | le
      · exact Or.inr ⟨pf, List.mem_cons_self _ _, by omega⟩
      · exact Or.inl (by omega)
    · exact Or.inr ⟨q, List.mem_cons_of_mem _ mem, eq⟩

/-- With every descriptor below `INT_MAX`, so is the largest, and `fd_max + 1` does not
overflow. -/
theorem intSucc_maxFd {fds : List PollFd} (small : ∀ pf ∈ fds, pf.fd < INT_MAX) :
    intSucc (maxFd 0 fds) = some (maxFd 0 fds + 1) := by
  unfold intSucc
  rw [if_pos]
  rcases maxFd_eq 0 fds with zero | ⟨pf, mem, eq⟩
  · simp [zero, INT_MAX]
  · have := small pf mem
    unfold INT_MAX at this ⊢
    omega

/-! ## The second loop and the whole call in the bitmap layout -/

/-- `select` on a sized bitmap buffer grown for `fd_max`, or `NULL`. -/
theorem selectIn_bitmap (fd_max : Nat) (ready : Nat → Bool) {buf : FdBuf} (sized : buf.Sized)
    (grown : fd_max / 8 + 32 ≤ buf.alloc_bytes ∨ fd_max = 0) :
    ∃ buf', selectIn bitmap (fd_max + 1) ready buf = some buf' ∧ buf'.Sized ∧
      buf'.alloc_bytes = buf.alloc_bytes ∧
      ∀ d, buf'.bits d = (buf.bits d && (d < fd_max + 1 && ready d ||
        decide (8 * FDS_BYTES (fd_max + 1) ≤ d))) := by
  unfold FdBuf.Sized at sized
  rcases set : buf.set with _ | mem
  · refine ⟨buf, by simp [selectIn, set], ?_, rfl, fun d => by simp [FdBuf.bits, set]⟩
    simpa [FdBuf.Sized, set] using sized
  · simp only [set] at sized
    obtain ⟨mem', selected, length⟩ := bitmapSelect_of_grown fd_max ready
      (show fd_max / 8 + 32 ≤ mem.length by omega)
    refine ⟨{ buf with set := some mem' }, by simp [selectIn, set, bitmap, selected], ?_, rfl,
      fun d => ?_⟩
    · simpa [FdBuf.Sized, length] using sized
    · simpa [FdBuf.bits, set] using bitOf_bitmapSelect selected d

/-- `asked && FD_ISSET(fd, buf->set)` on a bitmap buffer grown for the descriptor. -/
theorem isSetWhen_bitmap (asked : Prop) [Decidable asked] {buf : FdBuf} {fd : Nat}
    (sized : buf.Sized) (grown : fd / 8 + 32 ≤ buf.alloc_bytes) :
    isSetWhen bitmap asked fd buf = some (decide asked && buf.bits fd) := by
  obtain ⟨mem, set, length⟩ := FdBuf.set_of_grown sized (by omega)
  by_cases ask : asked
  · simp [isSetWhen, ask, isSetIn, set, bitmap,
      bitmapIsSet_of_grown (show fd / 8 + 32 ≤ mem.length by omega), FdBuf.bits]
  · simp [isSetWhen, ask]

/-- The `revents` the second loop computes from two sets. -/
def setRevents (readfds writefds : FdBuf) (pf : PollFd) : Nat :=
  (if decide (pf.events &&& POLLIN ≠ 0) && readfds.bits pf.fd.toNat then POLLIN else 0) |||
    (if decide (pf.events &&& POLLOUT ≠ 0) && writefds.bits pf.fd.toNat then POLLOUT else 0)

/-- **The second loop in the bitmap layout.** On sets grown for every descriptor it never faults;
each entry gets the events it asks for that its descriptor has in the sets, and the count is the
number of entries that get some. -/
theorem recount_bitmap (readfds writefds : FdBuf) (sizedR : readfds.Sized)
    (sizedW : writefds.Sized) (fds : List PollFd)
    (grown : ∀ pf ∈ fds, pf.fd.toNat / 8 + 32 ≤ readfds.alloc_bytes ∧
      pf.fd.toNat / 8 + 32 ≤ writefds.alloc_bytes) :
    recount bitmap readfds writefds fds =
      some (fds.countP (fun pf => setRevents readfds writefds pf ≠ 0),
        fds.map fun pf => { pf with revents := setRevents readfds writefds pf }) := by
  induction fds with
  | nil => rfl
  | cons pf fds ih =>
    obtain ⟨grownR, grownW⟩ := grown pf (List.mem_cons_self _ _)
    rw [recount, isSetWhen_bitmap _ sizedR grownR, isSetWhen_bitmap _ sizedW grownW,
      ih (fun q mem => grown q (List.mem_cons_of_mem _ mem))]
    simp only [Option.bind_eq_bind, Option.some_bind]
    rw [← setRevents]
    by_cases silent : setRevents readfds writefds pf = 0 <;> simp [silent]

/-- **What `poll` reports** for an entry when `select` found the descriptors `readReady` ready
for reading and `writeReady` ready for writing: the events it asks for that hold. -/
def readyRevents (readReady writeReady : Nat → Bool) (pf : PollFd) : Nat :=
  (if pf.asks POLLIN ∧ readReady pf.fd.toNat = true then POLLIN else 0) |||
    (if pf.asks POLLOUT ∧ writeReady pf.fd.toNat = true then POLLOUT else 0)

/-- After `select` narrowed sets filled for `fds`, an entry's events read back from them are the
ones `select` found. -/
theorem setRevents_selected {fds : List PollFd} {st : PollStatics} (filled : Filled fds st)
    {fd_max : Nat} {readReady writeReady : Nat → Bool} {readfds writefds : FdBuf}
    (bitsR : ∀ d, readfds.bits d = (st.readfds.bits d && (d < fd_max + 1 && readReady d ||
      decide (8 * FDS_BYTES (fd_max + 1) ≤ d))))
    (bitsW : ∀ d, writefds.bits d = (st.writefds.bits d && (d < fd_max + 1 && writeReady d ||
      decide (8 * FDS_BYTES (fd_max + 1) ≤ d))))
    {pf : PollFd} (mem : pf ∈ fds) (nonneg : 0 ≤ pf.fd) (le : pf.fd.toNat ≤ fd_max) :
    setRevents readfds writefds pf = readyRevents readReady writeReady pf := by
  have inR : pf.asks POLLIN → st.readfds.bits pf.fd.toNat = true :=
    fun ask => (filled.reads _).mpr ⟨pf, mem, by omega, ask⟩
  have inW : pf.asks POLLOUT → st.writefds.bits pf.fd.toNat = true :=
    fun ask => (filled.writes _).mpr ⟨pf, mem, by omega, ask⟩
  have lt : pf.fd.toNat < fd_max + 1 := by omega
  have below : ¬ 8 * FDS_BYTES (fd_max + 1) ≤ pf.fd.toNat := by unfold FDS_BYTES; omega
  unfold setRevents readyRevents
  rw [bitsR, bitsW]
  by_cases askR : pf.asks POLLIN <;> by_cases askW : pf.asks POLLOUT <;>
    simp only [PollFd.asks] at askR askW <;> simp [askR, askW, inR, inW, lt, below, PollFd.asks]

/-- **After the first loop.** From statics filled for `fds`, whatever `select` answers, narrowing
both sets and the second loop never fault; the statics stay sized, and each entry with a
descriptor gets the events `select` found for it. -/
theorem select_recount_bitmap {fds : List PollFd} {st : PollStatics} (filled : Filled fds st)
    (readReady writeReady : Nat → Bool) :
    ∃ readfds writefds,
      selectIn bitmap (maxFd 0 fds + 1) readReady st.readfds = some readfds ∧
      selectIn bitmap (maxFd 0 fds + 1) writeReady st.writefds = some writefds ∧
      PollStatics.Sized ⟨readfds, writefds⟩ ∧
      recount bitmap readfds writefds fds =
        some (fds.countP (fun pf => setRevents readfds writefds pf ≠ 0),
          fds.map fun pf => { pf with revents := setRevents readfds writefds pf }) ∧
      ∀ pf ∈ fds, 0 ≤ pf.fd → setRevents readfds writefds pf = readyRevents readReady writeReady pf := by
  have grownMax : ∀ {buf : FdBuf}, (∀ pf ∈ fds, pf.fd.toNat / 8 + 32 ≤ buf.alloc_bytes) →
      maxFd 0 fds / 8 + 32 ≤ buf.alloc_bytes ∨ maxFd 0 fds = 0 := fun grown => by
    rcases maxFd_eq 0 fds with zero | ⟨pf, mem, eq⟩
    · exact Or.inr zero
    · exact Or.inl (eq ▸ grown pf mem)
  obtain ⟨readfds, selectR, sizedR, allocR, bitsR⟩ := selectIn_bitmap (maxFd 0 fds) readReady
    filled.sized.1 (grownMax fun pf mem => (filled.grown pf mem).1)
  obtain ⟨writefds, selectW, sizedW, allocW, bitsW⟩ := selectIn_bitmap (maxFd 0 fds) writeReady
    filled.sized.2 (grownMax fun pf mem => (filled.grown pf mem).2)
  refine ⟨readfds, writefds, selectR, selectW, ⟨sizedR, sizedW⟩,
    recount_bitmap readfds writefds sizedR sizedW fds fun pf mem => ?_,
    fun pf mem nonneg => setRevents_selected filled bitsR bitsW mem nonneg
      ((le_maxFd 0 fds).2 pf mem)⟩
  rw [allocR, allocW]
  exact filled.grown pf mem

/-- The statics as `fdbuf_zero` leaves them: filled for no entry. -/
theorem filled_zero {st : PollStatics} (sized : st.Sized) :
    ∃ readfds writefds, fdbuf_zero st.readfds = some readfds ∧
      fdbuf_zero st.writefds = some writefds ∧ Filled [] ⟨readfds, writefds⟩ := by
  obtain ⟨readfds, zeroR, sizedR, -, -, clearR⟩ := fdbuf_zero_spec st.readfds sized.1
  obtain ⟨writefds, zeroW, sizedW, -, -, clearW⟩ := fdbuf_zero_spec st.writefds sized.2
  exact ⟨readfds, writefds, zeroR, zeroW,
    ⟨⟨sizedR, sizedW⟩, by simp, by simp [clearR], by simp [clearW]⟩⟩

/-- A call in the bitmap layout from sized statics, with descriptors below `INT_MAX`, never
faults and leaves the statics sized, whatever the timeout, the allocator and `select` do. -/
theorem poll_bitmap_safe (allocOk : Nat → Bool) (select : SelectCall → SelectAnswer)
    (st : PollStatics) (sized : st.Sized) (fds : List PollFd)
    (small : ∀ pf ∈ fds, pf.fd < INT_MAX) (timeout_ms : Int) :
    ∃ ret fds' st', poll bitmap allocOk select st fds timeout_ms = some (ret, fds', st') ∧
      st'.Sized := by
  by_cases invalid : timeout_ms < -1
  · exact ⟨(-1, some .EINVAL), fds, st, by simp only [poll, Int.reduceNeg, invalid, ↓reduceIte, Option.pure_def], sized⟩
  obtain ⟨readfds, writefds, zeroR, zeroW, empty⟩ := filled_zero sized
  obtain ⟨err, fd_max, n, st', fill, sized', done, -⟩ :=
    fillSets_bitmap allocOk fds (fun pf mem => (small pf mem).le) [] 0 0 _ empty
  rcases err with _ | err
  · obtain ⟨filled, rfl⟩ := done rfl
    rw [List.nil_append] at filled
    let answer := select ⟨((maxFd 0 fds + 1 : Nat) : Int), st'.readfds.set, st'.writefds.set,
      selectTimeout timeout_ms⟩
    obtain ⟨readfds', writefds', selectR, selectW, sized'', recount, -⟩ :=
      select_recount_bitmap filled answer.readReady answer.writeReady
    by_cases quiet : answer.res ≤ 0
    · refine ⟨(answer.res, none), fds, _, ?_, sized''⟩
      simp only [poll, Int.reduceNeg, invalid, ↓reduceIte, Option.pure_def, zeroR, zeroW, Option.bind_eq_bind,
        Option.some_bind, fill, intSucc_maxFd small, selectR, selectW, quiet]
    · refine ⟨((fds.countP fun pf => setRevents readfds' writefds' pf ≠ 0 : Nat), none),
        fds.map fun pf => { pf with revents := setRevents readfds' writefds' pf }, _, ?_, sized''⟩
      simp only [poll, Int.reduceNeg, invalid, ↓reduceIte, Option.pure_def, zeroR, zeroW, Option.bind_eq_bind,
        Option.some_bind, fill, intSucc_maxFd small, selectR, selectW, quiet, recount, ne_eq,
        decide_not]
  · exact ⟨(-1, some err), fds, st', by simp only [poll, Int.reduceNeg, invalid, ↓reduceIte, Option.pure_def, zeroR, zeroW,
      Option.bind_eq_bind, Option.some_bind, fill], sized'⟩

/-- **A call in the bitmap layout.** From sized statics, with descriptors from `0` to below
`INT_MAX`, a valid timeout and an allocator that does not fail, `poll` hands `select` one more
than the largest descriptor, sets that hold exactly the descriptors whose entries ask for reading and for
writing, and the timeout in seconds and microseconds (none for `-1`). When `select` reports
nothing ready, or fails, `poll` returns its result and the entries as they came; otherwise each
entry gets the events it asked for that `select` found, and the result counts the entries that
got some. -/
theorem poll_bitmap_spec (allocOk : Nat → Bool) (noFail : ∀ k, allocOk k = true)
    (st : PollStatics) (sized : st.Sized) (fds : List PollFd)
    (range : ∀ pf ∈ fds, 0 ≤ pf.fd ∧ pf.fd < INT_MAX) (timeout_ms : Int) (valid : -1 ≤ timeout_ms) :
    ∃ call : SelectCall, call.nfds = maxFd 0 fds + 1 ∧
      (∀ d : Nat, bitOf (call.readfds.getD []) d = true ↔ ∃ pf ∈ fds, pf.fd = d ∧ pf.asks POLLIN) ∧
      (∀ d : Nat, bitOf (call.writefds.getD []) d = true ↔ ∃ pf ∈ fds, pf.fd = d ∧ pf.asks POLLOUT) ∧
      call.timeout = (if timeout_ms = -1 then none
        else some ⟨timeout_ms / 1000, timeout_ms % 1000 * 1000⟩) ∧
      ∀ select : SelectCall → SelectAnswer, ∃ st', st'.Sized ∧
        ((select call).res ≤ 0 →
          poll bitmap allocOk select st fds timeout_ms = some (((select call).res, none), fds, st')) ∧
        (0 < (select call).res → poll bitmap allocOk select st fds timeout_ms =
          some ((((fds.countP fun pf =>
              readyRevents (select call).readReady (select call).writeReady pf ≠ 0 : Nat) : Int), none),
            fds.map (fun pf =>
              { pf with revents := readyRevents (select call).readReady (select call).writeReady pf }),
            st')) := by
  have invalid : ¬ timeout_ms < -1 := by omega
  obtain ⟨readfds, writefds, zeroR, zeroW, empty⟩ := filled_zero sized
  obtain ⟨err, fd_max, n, st', fill, -, done, noErr⟩ :=
    fillSets_bitmap allocOk fds (fun pf mem => (range pf mem).2.le) [] 0 0 _ empty
  obtain rfl := noErr (fun pf mem => (range pf mem).1) noFail
  obtain ⟨filled, rfl⟩ := done rfl
  rw [List.nil_append] at filled
  refine ⟨⟨((maxFd 0 fds + 1 : Nat) : Int), st'.readfds.set, st'.writefds.set,
    selectTimeout timeout_ms⟩, Nat.cast_succ _,
    filled.reads, filled.writes, ?_, fun select => ?_⟩
  · by_cases forever : timeout_ms = -1
    · simp [selectTimeout, forever]
    · simp [selectTimeout, forever, show 0 ≤ timeout_ms by omega]
  let answer := select ⟨((maxFd 0 fds + 1 : Nat) : Int), st'.readfds.set, st'.writefds.set,
    selectTimeout timeout_ms⟩
  obtain ⟨readfds', writefds', selectR, selectW, sized', recount, found⟩ :=
    select_recount_bitmap filled answer.readReady answer.writeReady
  have nfds := intSucc_maxFd fun pf mem => (range pf mem).2
  refine ⟨_, sized', fun quiet => by simp only [poll, Int.reduceNeg, invalid, ↓reduceIte,
    Option.pure_def, zeroR, zeroW, Option.bind_eq_bind, Option.some_bind, fill, nfds, selectR,
    selectW, quiet], fun busy => ?_⟩
  have quiet : ¬ answer.res ≤ 0 := Int.not_le.mpr busy
  have same : ∀ pf ∈ fds, setRevents readfds' writefds' pf =
      readyRevents answer.readReady answer.writeReady pf := fun pf mem => found pf mem (range pf mem).1
  rw [List.countP_congr fun pf mem => by rw [same pf mem], List.map_congr_left fun pf mem => by
    rw [same pf mem]] at recount
  simp only [poll, Int.reduceNeg, invalid, ↓reduceIte, Option.pure_def, zeroR, zeroW,
    Option.bind_eq_bind, Option.some_bind, fill, nfds, selectR, selectW, quiet, recount, ne_eq,
    decide_not]

/-- One descriptor asking to read, from the statics of the program's start, without waiting. -/
theorem poll_bitmap_spec_one_reader :
    let fds : List PollFd := [⟨3, POLLIN, 0⟩]
    ∃ call : SelectCall, call.nfds = maxFd 0 fds + 1 ∧
      (∀ d : Nat, bitOf (call.readfds.getD []) d = true ↔ ∃ pf ∈ fds, pf.fd = d ∧ pf.asks POLLIN) ∧
      (∀ d : Nat, bitOf (call.writefds.getD []) d = true ↔ ∃ pf ∈ fds, pf.fd = d ∧ pf.asks POLLOUT) ∧
      call.timeout = (if (0 : Int) = -1 then none else some ⟨0 / 1000, 0 % 1000 * 1000⟩) ∧
      ∀ select : SelectCall → SelectAnswer, ∃ st', st'.Sized ∧
        ((select call).res ≤ 0 → poll bitmap (fun _ => true) select PollStatics.empty fds 0 =
          some (((select call).res, none), fds, st')) ∧
        (0 < (select call).res → poll bitmap (fun _ => true) select PollStatics.empty fds 0 =
          some ((((fds.countP fun pf =>
              readyRevents (select call).readReady (select call).writeReady pf ≠ 0 : Nat) : Int), none),
            fds.map (fun pf =>
              { pf with revents := readyRevents (select call).readReady (select call).writeReady pf }),
            st')) :=
  poll_bitmap_spec _ (fun _ => rfl) _ ⟨FdBuf.sized_empty, FdBuf.sized_empty⟩ _ (by decide) _
    (by decide)

set_option maxRecDepth 10000 in
/-- When `select` reports nothing ready, `poll` returns without writing any `revents`: an array
that comes back from a call with an event reported is returned by the next call that times out
with the event still in it, where that call found none. -/
theorem poll_keeps_stale_revents :
    let entries : List PollFd := [⟨3, POLLIN, 0⟩]
    let readable : SelectCall → SelectAnswer := fun _ => ⟨1, fun _ => true, fun _ => false⟩
    let timedOut : SelectCall → SelectAnswer := fun _ => ⟨0, fun _ => false, fun _ => false⟩
    ((poll bitmap (fun _ => true) readable PollStatics.empty entries 0).bind fun first =>
        (poll bitmap (fun _ => true) timedOut first.2.2 first.2.1 0).map fun second =>
          (first.1, first.2.1, second.1, second.2.1)) =
      some ((1, none), [⟨3, POLLIN, POLLIN⟩], (0, none), [⟨3, POLLIN, POLLIN⟩]) ∧
    readyRevents (fun _ => false) (fun _ => false) ⟨3, POLLIN, POLLIN⟩ = 0 := by
  decide

/-! ## The errors -/

/-- A resize that reports failure drew a failing allocation. -/
theorem resizeAt_fails {allocOk : Nat → Bool} {buf buf' : FdBuf} {fd n n' : Nat}
    (resized : resizeAt allocOk buf fd n = some (false, buf', n')) : allocOk n = false := by
  unfold resizeAt fdbuf_resize at resized
  by_cases grow : buf.alloc_bytes < fd / 8 + 32
  · cases ok : allocOk n
    · rfl
    · simp [grow, ok] at resized
  · simp [grow] at resized

/-- What one entry of the first loop can do: stop with `EBADF` at a negative descriptor, stop
with `ENOMEM` after a failing allocation, or go on to the next entry. -/
theorem fillSets_cons_cases {layout : FdSetLayout} {allocOk : Nat → Bool} {pf : PollFd}
    {fds : List PollFd} {fd_max n : Nat} {st : PollStatics}
    {r : Option Errno × Nat × Nat × PollStatics}
    (run : fillSets layout allocOk (pf :: fds) fd_max n st = some r) :
    (pf.fd < 0 ∧ r.1 = some .EBADF) ∨
      (0 ≤ pf.fd ∧ r.1 = some .ENOMEM ∧ ∃ k, allocOk k = false) ∨
      (0 ≤ pf.fd ∧ ∃ n' st', fillSets layout allocOk fds (max fd_max pf.fd.toNat) n' st' = some r) := by
  unfold fillSets at run
  by_cases neg : pf.fd < 0
  · simp only [neg, if_true, Option.some.injEq] at run
    exact .inl ⟨neg, by rw [← run]⟩
  have nonneg : 0 ≤ pf.fd := by omega
  simp only [neg, if_false, Option.bind_eq_bind] at run
  obtain ⟨⟨ok₁, readfds, n₁⟩, resize₁, run⟩ := Option.bind_eq_some.mp run
  cases ok₁
  · simp only [Bool.not_false, if_true, Option.pure_def, Option.some.injEq] at run
    exact .inr (.inl ⟨nonneg, by rw [← run], n, resizeAt_fails resize₁⟩)
  simp only [Bool.not_true, Bool.false_eq_true, if_false, Option.pure_def, Option.some_bind] at run
  obtain ⟨⟨ok₂, writefds, n₂⟩, resize₂, run⟩ := Option.bind_eq_some.mp run
  cases ok₂
  · simp only [Bool.not_false, if_true, Option.pure_def, Option.some.injEq] at run
    exact .inr (.inl ⟨nonneg, by rw [← run], n₁, resizeAt_fails resize₂⟩)
  simp only [Bool.not_true, Bool.false_eq_true, if_false, Option.pure_def, Option.some_bind] at run
  obtain ⟨readfds', -, run⟩ := Option.bind_eq_some.mp run
  obtain ⟨writefds', -, run⟩ := Option.bind_eq_some.mp run
  exact .inr (.inr ⟨nonneg, n₂, _, run⟩)

/-- The first loop stops with `EBADF` only at a negative descriptor and with `ENOMEM` only after a
failing allocation, and it ends without an error only when no descriptor is negative. -/
theorem fillSets_errors (layout : FdSetLayout) (allocOk : Nat → Bool) (fds : List PollFd) :
    ∀ {fd_max n : Nat} {st : PollStatics} {r : Option Errno × Nat × Nat × PollStatics},
      fillSets layout allocOk fds fd_max n st = some r →
      (r.1 = some .EBADF → ∃ pf ∈ fds, pf.fd < 0) ∧ (r.1 = some .ENOMEM → ∃ k, allocOk k = false) ∧
        r.1 ≠ some .EINVAL ∧ (r.1 = none → ∀ pf ∈ fds, 0 ≤ pf.fd) := by
  induction fds with
  | nil =>
    intro fd_max n st r run
    simp only [fillSets, Option.some.injEq] at run
    subst run
    simp
  | cons pf fds ih =>
    intro fd_max n st r run
    rcases fillSets_cons_cases run with ⟨neg, stop⟩ | ⟨-, stop, failing⟩ | ⟨nonneg, n', st', next⟩
    · simp only [stop, Option.some.injEq, reduceCtorEq, false_imp_iff, not_false_eq_true, and_true,
        true_and, ne_eq]
      exact fun _ => ⟨pf, List.mem_cons_self _ _, neg⟩
    · simp only [stop, Option.some.injEq, reduceCtorEq, false_imp_iff, not_false_eq_true, and_true,
        true_and, ne_eq]
      exact fun _ => failing
    · obtain ⟨badf, nomem, inval, ok⟩ := ih next
      refine ⟨fun stop => ?_, nomem, inval, fun none => ?_⟩
      · obtain ⟨q, mem, neg⟩ := badf stop
        exact ⟨q, List.mem_cons_of_mem _ mem, neg⟩
      · simpa [nonneg] using ok none

/-- What a call of `poll` can do: reject the timeout, stop in the first loop with the error it
reports, or get past the first loop and report no error. -/
theorem poll_cases {layout : FdSetLayout} {allocOk : Nat → Bool}
    {select : SelectCall → SelectAnswer} {st : PollStatics} {fds : List PollFd} {timeout_ms : Int}
    {r : (Int × Option Errno) × List PollFd × PollStatics}
    (run : poll layout allocOk select st fds timeout_ms = some r) :
    (timeout_ms < -1 ∧ r = ((-1, some .EINVAL), fds, st)) ∨
      (¬ timeout_ms < -1 ∧ ∃ readfds writefds fd_max n st' e, fdbuf_zero st.readfds = some readfds ∧
        fdbuf_zero st.writefds = some writefds ∧
        fillSets layout allocOk fds 0 0 ⟨readfds, writefds⟩ = some (some e, fd_max, n, st') ∧
        r = ((-1, some e), fds, st')) ∨
      (¬ timeout_ms < -1 ∧ ∃ readfds writefds fd_max n st', fdbuf_zero st.readfds = some readfds ∧
        fdbuf_zero st.writefds = some writefds ∧
        fillSets layout allocOk fds 0 0 ⟨readfds, writefds⟩ = some (none, fd_max, n, st') ∧
        r.1.2 = none) := by
  unfold poll at run
  by_cases invalid : timeout_ms < -1
  · simp only [invalid, if_true, Option.pure_def, Option.some.injEq] at run
    exact .inl ⟨invalid, run.symm⟩
  simp only [invalid, if_false, Option.bind_eq_bind, Option.pure_def, Option.some_bind] at run
  obtain ⟨readfds, zeroR, run⟩ := Option.bind_eq_some.mp run
  obtain ⟨writefds, zeroW, run⟩ := Option.bind_eq_some.mp run
  obtain ⟨⟨err, fd_max, n, st'⟩, fill, run⟩ := Option.bind_eq_some.mp run
  rcases err with _ | e
  · refine .inr (.inr ⟨invalid, readfds, writefds, fd_max, n, st', zeroR, zeroW, fill, ?_⟩)
    obtain ⟨nfds, -, run⟩ := Option.bind_eq_some.mp run
    obtain ⟨readfds', -, run⟩ := Option.bind_eq_some.mp run
    obtain ⟨writefds', -, run⟩ := Option.bind_eq_some.mp run
    split_ifs at run
    · simp only [Option.pure_def, Option.some.injEq] at run
      rw [← run]
    · obtain ⟨⟨res, fds'⟩, -, run⟩ := Option.bind_eq_some.mp run
      simp only [Option.pure_def, Option.some.injEq] at run
      rw [← run]
  · simp only [Option.pure_def, Option.some.injEq] at run
    exact .inr (.inl ⟨invalid, readfds, writefds, fd_max, n, st', e, zeroR, zeroW, fill, run.symm⟩)

/-- **The errors of `poll`.** A call in the bitmap layout from sized statics, with descriptors
below `INT_MAX`, returns, whatever the allocator and `select` do. It reports `EINVAL` exactly
for a timeout below `-1`, `EBADF` only for a negative descriptor and `ENOMEM` only after a failing
allocation; with a valid timeout and no failing allocation it reports `EBADF` exactly when some
descriptor is negative. With an error it returns `-1` and the entries as they came, before
`select`: the same call with any other `select` returns the same. -/
theorem poll_bitmap_errors (allocOk : Nat → Bool) (select : SelectCall → SelectAnswer)
    (st : PollStatics) (sized : st.Sized) (fds : List PollFd)
    (small : ∀ pf ∈ fds, pf.fd < INT_MAX) (timeout_ms : Int) :
    ∃ ret fds' st', poll bitmap allocOk select st fds timeout_ms = some (ret, fds', st') ∧
      (ret.2 = some .EINVAL ↔ timeout_ms < -1) ∧
      (ret.2 = some .EBADF → ∃ pf ∈ fds, pf.fd < 0) ∧
      (ret.2 = some .ENOMEM → ∃ k, allocOk k = false) ∧
      ((∀ k, allocOk k = true) → -1 ≤ timeout_ms →
        (ret.2 = some .EBADF ↔ ∃ pf ∈ fds, pf.fd < 0)) ∧
      (ret.2 ≠ none → ret.1 = -1 ∧ fds' = fds ∧
        ∀ select', poll bitmap allocOk select' st fds timeout_ms = some (ret, fds', st')) := by
  obtain ⟨ret, fds', st', run, -⟩ := poll_bitmap_safe allocOk select st sized fds small timeout_ms
  refine ⟨ret, fds', st', run, ?_⟩
  rcases poll_cases run with ⟨invalid, ⟨⟩⟩ | ⟨valid, readfds, writefds, fd_max, n, st'', e, zeroR,
    zeroW, fill, ⟨⟩⟩ | ⟨valid, readfds, writefds, fd_max, n, st'', zeroR, zeroW, fill, quiet⟩
  · refine ⟨by simp [invalid], by simp, by simp, fun _ valid => absurd invalid (by omega),
      fun _ => ⟨rfl, rfl, fun select' => ?_⟩⟩
    simp only [poll, invalid, if_true, Option.pure_def]
  · obtain ⟨badf, nomem, inval, -⟩ := fillSets_errors bitmap allocOk fds fill
    simp only at badf nomem inval
    refine ⟨by simp [valid, inval], badf, nomem, fun noFail _ => ⟨badf, fun _ => ?_⟩,
      fun _ => ⟨rfl, rfl, fun select' => ?_⟩⟩
    · cases e
      · exact absurd rfl inval
      · rfl
      · obtain ⟨k, failing⟩ := nomem rfl
        simp [noFail k] at failing
    · simp only [poll, valid, if_false, zeroR, zeroW, fill, Option.bind_eq_bind, Option.some_bind,
        Option.pure_def]
  · obtain ⟨-, -, -, ok⟩ := fillSets_errors bitmap allocOk fds fill
    have nonneg := ok rfl
    simp only at quiet
    simp only [quiet, reduceCtorEq, false_iff, iff_false, false_imp_iff, ne_eq, not_true_eq_false,
      true_and, and_true]
    exact ⟨valid, fun _ _ ⟨pf, mem, neg⟩ => absurd (nonneg pf mem) (by omega)⟩

/-- A negative descriptor, with a valid timeout and an allocator that does not fail: `-1` and
`EBADF`. -/
theorem poll_bitmap_errors_negative :
    ∃ fds' st', poll bitmap (fun _ => true) (fun _ => ⟨1, fun _ => true, fun _ => true⟩)
      PollStatics.empty [⟨-1, POLLIN, 0⟩] 0 = some ((-1, some .EBADF), fds', st') := by
  obtain ⟨ret, fds', st', run, -, -, -, badf, error⟩ :=
    poll_bitmap_errors (fun _ => true) (fun _ => ⟨1, fun _ => true, fun _ => true⟩)
      PollStatics.empty ⟨FdBuf.sized_empty, FdBuf.sized_empty⟩ [⟨-1, POLLIN, 0⟩] (by decide) 0
  have reported : ret.2 = some .EBADF :=
    (badf (fun _ => rfl) (by decide)).mpr ⟨_, List.mem_singleton_self _, by decide⟩
  have same : ret = (-1, some .EBADF) := Prod.ext (error (by simp [reported])).1 reported
  exact ⟨fds', st', same ▸ run⟩

/-! ## Every history in the bitmap layout -/

/-- The statics after a history of calls from the program's start, each call with descriptors
below `INT_MAX` and returning whatever it returned, an error included. -/
inductive PollReachable (layout : FdSetLayout) : PollStatics → Prop
  | start : PollReachable layout PollStatics.empty
  | call {st st' : PollStatics} {ret : Int × Option Errno} {fds fds' : List PollFd}
      (allocOk : Nat → Bool) (select : SelectCall → SelectAnswer) (timeout_ms : Int)
      (before : PollReachable layout st) (small : ∀ pf ∈ fds, pf.fd < INT_MAX)
      (returned : poll layout allocOk select st fds timeout_ms = some (ret, fds', st')) :
      PollReachable layout st'

/-- Every history in the bitmap layout leaves the statics sized. -/
theorem PollReachable.sized {st : PollStatics} (reached : PollReachable bitmap st) : st.Sized := by
  induction reached with
  | start => exact ⟨FdBuf.sized_empty, FdBuf.sized_empty⟩
  | call allocOk select timeout_ms _ small returned sized =>
    obtain ⟨_, _, _, again, sized'⟩ := poll_bitmap_safe allocOk select _ sized _ small timeout_ms
    simp only [returned, Option.some.injEq, Prod.mk.injEq] at again
    exact again.2.2 ▸ sized'

/-- **No fault in the bitmap layout, over every history.** After any history of calls, a call
with descriptors below `INT_MAX` stays inside both buffers and computes `fd_max + 1` without
overflow, whatever its entries,
timeout, allocator and `select` answer, and leaves the statics sized for the next. -/
theorem poll_bitmap_never_faults {st : PollStatics} (reached : PollReachable bitmap st)
    (allocOk : Nat → Bool) (select : SelectCall → SelectAnswer) (fds : List PollFd)
    (small : ∀ pf ∈ fds, pf.fd < INT_MAX) (timeout_ms : Int) :
    ∃ ret fds' st', poll bitmap allocOk select st fds timeout_ms = some (ret, fds', st') ∧
      PollReachable bitmap st' := by
  obtain ⟨ret, fds', st', returned, -⟩ :=
    poll_bitmap_safe allocOk select st reached.sized fds small timeout_ms
  exact ⟨ret, fds', st', returned, .call allocOk select timeout_ms reached small returned⟩

/-- A call from the program's start with one descriptor, which `select` finds readable. -/
theorem poll_bitmap_never_faults_first_call :
    ∃ ret fds' st', poll bitmap (fun _ => true) (fun _ => ⟨1, fun _ => true, fun _ => false⟩)
        PollStatics.empty [⟨3, POLLIN, 0⟩] 0 = some (ret, fds', st') ∧ PollReachable bitmap st' :=
  poll_bitmap_never_faults .start _ _ _ (by decide) _

end Libusual.Socket
