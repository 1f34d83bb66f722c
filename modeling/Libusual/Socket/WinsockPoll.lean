import Libusual.Socket.Winsock

/-!
# `poll` in the Winsock layout, below the capacity of its buffers

A Winsock `fd_set` is a count and an array of socket handles, so what matters for the buffers of
the `poll` emulation is how many sockets a set holds, not their numbers. `handlesOf` is what the
first loop of `poll` puts into a set: the descriptor of every entry that asks, each once, in the
order of its first entry, as `FD_SET` appends a socket the set does not hold yet.

`winsockLayout` is a set holding some handles followed by any bytes: after `select` the slots
past the count keep the handles it dropped. `FD_ISSET` finds exactly the held handles
(`winsockIsSet_layout`), `FD_SET` adds a socket as `addHandle` does while the next slot fits
(`winsockSet_addHandle`), and `select` keeps the ready handles in order (`winsockSelect_bytes`).

The first loop keeps each buffer equal to the Winsock bytes of the sockets of the entries seen so
far (`WinsockFilled`). So while each set holds fewer than `256 / handle` sockets, which is what
the smallest buffer `fdbuf_resize` hands out has room for, a call behaves as in the bitmap layout:
`select` gets the sockets asked for, and every entry the events it asked for that `select` found
(`poll_winsock_spec`). `poll_winsock_overrun` is the other side of that bound.
-/

set_option autoImplicit false

namespace Libusual.Socket

/-! ## The sockets a set holds -/

/-- `FD_SET` on the sockets a Winsock set holds: a socket not held yet goes last. -/
def addHandle (hs : List Nat) (fd : Nat) : List Nat := if fd ∈ hs then hs else hs ++ [fd]

/-- The sockets the first loop of `poll` puts into the set for the events in `mask`: the
descriptor of each entry that asks, once, in the order of its first entry. -/
def handlesOf (mask : Nat) (fds : List PollFd) : List Nat :=
  fds.foldl (fun hs pf => if pf.asks mask then addHandle hs pf.fd.toNat else hs) []

/-- The sockets a Winsock set holds: its first `fd_count` handles, none for `NULL`; `none` when
reading them runs past the buffer. -/
def winsockHandles (handle : Nat) : Option (List (BitVec 8)) → Option (List Nat)
  | none => some []
  | some mem => do
    let count := leValue (← load mem 0 4)
    (List.range count).mapM fun i => (load mem (handle * (i + 1)) handle).map leValue

/-- A Winsock set holding the handles `hs`, followed by the bytes `rest`. -/
def winsockLayout (handle : Nat) (hs : List Nat) (rest : List (BitVec 8)) : List (BitVec 8) :=
  leBytes 4 hs.length ++ List.replicate (handle - 4) 0#8 ++ hs.flatMap (leBytes handle) ++ rest

theorem winsockBytes_eq_layout (handle size : Nat) (hs : List Nat) :
    winsockBytes handle size hs =
      winsockLayout handle hs (List.replicate (size - handle * (hs.length + 1)) 0#8) := rfl

theorem mem_addHandle {hs : List Nat} {fd x : Nat} : x ∈ addHandle hs fd ↔ x ∈ hs ∨ x = fd := by
  unfold addHandle
  split_ifs with held
  · exact ⟨Or.inl, fun mem => mem.elim id fun same => same ▸ held⟩
  · simp

theorem length_addHandle_le (hs : List Nat) (fd : Nat) : hs.length ≤ (addHandle hs fd).length := by
  unfold addHandle
  split_ifs <;> simp

theorem handlesOf_append_single (mask : Nat) (done : List PollFd) (pf : PollFd) :
    handlesOf mask (done ++ [pf]) =
      if pf.events &&& mask ≠ 0 then addHandle (handlesOf mask done) pf.fd.toNat
      else handlesOf mask done := by
  simp only [handlesOf, List.foldl_append, List.foldl_cons, List.foldl_nil]
  rfl

/-- A set only grows along the entries. -/
theorem length_handlesOf_le_append (mask : Nat) (done fds : List PollFd) :
    (handlesOf mask done).length ≤ (handlesOf mask (done ++ fds)).length := by
  induction fds using List.reverseRecOn with
  | nil => rw [List.append_nil]
  | append_singleton fds pf ih =>
    rw [← List.append_assoc, handlesOf_append_single]
    split_ifs
    · exact ih.trans (length_addHandle_le _ _)
    · exact ih

theorem mem_handlesOf {mask : Nat} {fds : List PollFd} {x : Nat} :
    x ∈ handlesOf mask fds ↔ ∃ pf ∈ fds, pf.asks mask ∧ pf.fd.toNat = x := by
  induction fds using List.reverseRecOn with
  | nil => simp [handlesOf]
  | append_singleton fds pf ih =>
    rw [handlesOf_append_single]
    split_ifs with ask
    · simp only [mem_addHandle, ih, List.mem_append, List.mem_singleton]
      constructor
      · rintro (⟨q, mem, asks, rfl⟩ | rfl)
        exacts [⟨q, .inl mem, asks, rfl⟩, ⟨pf, .inr rfl, ask, rfl⟩]
      · rintro ⟨q, mem | rfl, asks, rfl⟩
        exacts [.inl ⟨q, mem, asks, rfl⟩, .inr rfl]
    · simp only [ih, List.mem_append, List.mem_singleton]
      constructor
      · rintro ⟨q, mem, asks, rfl⟩
        exact ⟨q, .inl mem, asks, rfl⟩
      · rintro ⟨q, mem | rfl, asks, rfl⟩
        exacts [⟨q, mem, asks, rfl⟩, absurd asks ask]

/-! ## Reading a set -/

/-- A read inside the first part of a buffer does not see the rest. -/
theorem load_append_of_le {pre rest : List (BitVec 8)} {off n : Nat} (inside : off + n ≤ pre.length) :
    load (pre ++ rest) off n = load pre off n := by
  rw [load, load, if_pos inside, if_pos (by rw [List.length_append]; omega),
    List.drop_append_of_le_length (by omega), List.take_append_of_le_length (by simp; omega)]

/-- A count of at most `FD_SETSIZE`, read back. -/
theorem count_of_le {n : Nat} (few : n ≤ FD_SETSIZE) : leValue (leBytes 4 n) = n := by
  rw [leValue_leBytes, Nat.mod_eq_of_lt (Nat.lt_of_le_of_lt few (by decide))]

theorem leValue_leBytes_of_lt {handle x : Nat} (small : x < 256 ^ handle) :
    leValue (leBytes handle x) = x := by
  rw [leValue_leBytes, Nat.mod_eq_of_lt small]

section Layout

variable {handle : Nat} {hs : List Nat} (rest : List (BitVec 8)) (wide : 4 ≤ handle)

/-- The set without what follows its handles: the bytes of a set that is full. -/
theorem winsockLayout_eq_bytes :
    winsockLayout handle hs rest = winsockBytes handle (handle * (hs.length + 1)) hs ++ rest := by
  simp [winsockBytes_eq_layout, winsockLayout]

include wide

theorem load_count_layout : load (winsockLayout handle hs rest) 0 4 = some (leBytes 4 hs.length) := by
  have first : handle ≤ handle * (hs.length + 1) := Nat.le_mul_of_pos_right _ (Nat.succ_pos _)
  rw [winsockLayout_eq_bytes, load_append_of_le (by rw [winsockBytes_length wide le_rfl]; omega),
    load_count wide le_rfl]

theorem load_slot_layout (i : Nat) (lt : i < hs.length) :
    load (winsockLayout handle hs rest) (handle * (i + 1)) handle = some (leBytes handle hs[i]) := by
  have slot : handle * (i + 1) + handle ≤ handle * (hs.length + 1) := by
    rw [← Nat.mul_succ]
    exact Nat.mul_le_mul_left _ (by omega)
  rw [winsockLayout_eq_bytes, load_append_of_le (by rw [winsockBytes_length wide le_rfl]; omega),
    load_slot wide le_rfl i lt]

variable (small : ∀ x ∈ hs, x < 256 ^ handle)

include small

/-- Looking for a socket over some slots of the held handles finds it exactly when one of them
holds it. -/
theorem winsockFind_layout (fd : Nat) (slots : List Nat) (inside : ∀ i ∈ slots, i < hs.length) :
    winsockFind handle fd (winsockLayout handle hs rest) slots =
      some (decide (∃ i ∈ slots, hs[i]? = some fd)) := by
  induction slots with
  | nil => simp [winsockFind]
  | cons i slots ih =>
    have lt := inside i (List.mem_cons_self _ _)
    simp only [winsockFind, load_slot_layout rest wide i lt, Option.bind_eq_bind, Option.some_bind,
      leValue_leBytes_of_lt (small _ (List.getElem_mem lt)),
      ih fun j mem => inside j (List.mem_cons_of_mem _ mem)]
    by_cases found : hs[i] = fd <;> simp [found, List.getElem?_eq_getElem lt]

/-- Looking for a socket over the slots of the count finds it exactly when the set holds it. -/
theorem winsockFind_range (fd : Nat) :
    winsockFind handle fd (winsockLayout handle hs rest) (List.range hs.length) =
      some (decide (fd ∈ hs)) := by
  rw [winsockFind_layout rest wide small fd _ fun i mem => List.mem_range.mp mem]
  simp only [Option.some.injEq, decide_eq_decide, List.mem_range]
  exact ⟨fun ⟨i, _, found⟩ => List.mem_iff_getElem?.mpr ⟨i, found⟩, fun mem =>
    let ⟨i, found⟩ := List.mem_iff_getElem?.mp mem
    ⟨i, (List.getElem?_eq_some_iff.mp found).1, found⟩⟩

/-- `FD_ISSET`: whether the set holds the socket. -/
theorem winsockIsSet_layout (few : hs.length ≤ FD_SETSIZE) (fd : Nat) :
    winsockIsSet handle fd (winsockLayout handle hs rest) = some (decide (fd ∈ hs)) := by
  simp only [winsockIsSet, load_count_layout rest wide, Option.bind_eq_bind, Option.some_bind,
    count_of_le few, winsockFind_range rest wide small]

/-- The handles of the first `n` slots. -/
theorem mapM_slots (n : Nat) (le : n ≤ hs.length) :
    (List.range n).mapM (fun i => (load (winsockLayout handle hs rest) (handle * (i + 1)) handle).map
      leValue) = some (hs.take n) := by
  induction n with
  | zero => rfl
  | succ n ih =>
    have lt : n < hs.length := by omega
    rw [List.range_succ, List.mapM_append, ih (by omega)]
    simp only [List.mapM_cons, List.mapM_nil, load_slot_layout rest wide n lt, Option.map_some',
      leValue_leBytes_of_lt (small _ (List.getElem_mem lt)), Option.bind_eq_bind, Option.some_bind, Option.pure_def, List.take_succ,
      List.getElem?_eq_getElem lt, Option.toList_some]

/-- The sockets a set holds, read back. -/
theorem winsockHandles_layout (few : hs.length ≤ FD_SETSIZE) :
    winsockHandles handle (some (winsockLayout handle hs rest)) = some hs := by
  rw [winsockHandles, load_count_layout rest wide, Option.bind_eq_bind, Option.some_bind,
    count_of_le few, mapM_slots rest wide small _ le_rfl, List.take_length]

end Layout

/-! ## Writing a set -/

/-- Writing `bytes` right after the first part of a buffer. -/
theorem store_after {pre post bytes : List (BitVec 8)} {off : Nat} (len : pre.length = off)
    (fits : bytes.length ≤ post.length) :
    store (pre ++ post) off bytes = some (pre ++ bytes ++ post.drop bytes.length) := by
  subst len
  rw [store, if_pos (by simp; omega), List.take_left, List.drop_append]

/-- **`FD_SET` on a set with room for the socket.** It adds the socket as `addHandle` does. -/
theorem winsockSet_addHandle {handle size : Nat} {hs : List Nat} {fd : Nat} (wide : 4 ≤ handle)
    (small : ∀ x ∈ fd :: hs, x < 256 ^ handle) (few : (addHandle hs fd).length ≤ FD_SETSIZE)
    (room : handle * ((addHandle hs fd).length + 1) ≤ size) :
    winsockSet handle fd (winsockBytes handle size hs) =
      some (winsockBytes handle size (addHandle hs fd)) := by
  unfold addHandle at few room ⊢
  split_ifs at few room ⊢ with held
  · rw [winsockBytes_eq_layout]
    simp only [winsockSet, load_count_layout _ wide, Option.bind_eq_bind, Option.some_bind,
      count_of_le few, winsockFind_range _ wide fun x mem => small x (List.mem_cons_of_mem _ mem),
      held, decide_True, if_true]
    rfl
  · rw [List.length_append, List.length_singleton] at few room
    rw [winsockSet_fresh wide (le_trans (Nat.mul_le_mul_left _ (by omega)) room) few small held,
      if_pos room]

theorem length_winsockLayout {handle : Nat} (hs : List Nat) (rest : List (BitVec 8))
    (wide : 4 ≤ handle) :
    (winsockLayout handle hs rest).length = handle * (hs.length + 1) + rest.length := by
  simp only [winsockLayout, List.length_append, leBytes_length, List.length_replicate,
    flatMap_leBytes_length, Nat.mul_succ]
  omega

/-- **`select` on a set.** It writes back the ready handles, in order, and their count; the slots
after them keep what they held. -/
theorem winsockSelect_bytes {handle size : Nat} {hs : List Nat} (wide : 4 ≤ handle)
    (fits : handle * (hs.length + 1) ≤ size) (small : ∀ x ∈ hs, x < 256 ^ handle)
    (few : hs.length ≤ FD_SETSIZE) (nfds : Nat) (ready : Nat → Bool) :
    ∃ rest, winsockSelect handle nfds ready (winsockBytes handle size hs) =
      some (winsockLayout handle (hs.filter ready) rest) ∧
      (winsockLayout handle (hs.filter ready) rest).length = size := by
  let handles := hs.flatMap (leBytes handle) ++ List.replicate (size - handle * (hs.length + 1)) 0#8
  have kept : handle * (hs.filter ready).length ≤ handles.length := by
    have := Nat.mul_le_mul_left handle (List.length_filter_le ready hs)
    simp only [handles, List.length_append, flatMap_leBytes_length]
    omega
  refine ⟨handles.drop (handle * (hs.filter ready).length), ?_, ?_⟩
  · rw [winsockBytes_eq_layout]
    simp only [winsockSelect, load_count_layout _ wide, Option.bind_eq_bind, Option.some_bind,
      count_of_le few, mapM_slots _ wide small _ le_rfl, List.take_length]
    rw [show winsockLayout handle hs _ = leBytes 4 hs.length ++ List.replicate (handle - 4) 0#8 ++
        handles by simp only [winsockLayout, handles, List.append_assoc],
      store_after (header_length wide _) (by rwa [flatMap_leBytes_length]), Option.some_bind,
      ← List.nil_append (_ ++ _ ++ _), List.append_assoc (leBytes 4 _), List.append_assoc (leBytes 4 _),
      store_after List.length_nil (by simp), leBytes_length 4 (List.filter ready hs).length,
      List.drop_left' (leBytes_length 4 _), flatMap_leBytes_length]
    simp only [winsockLayout, List.nil_append, List.append_assoc]
  · rw [length_winsockLayout _ _ wide, List.length_drop]
    have := Nat.mul_le_mul_left handle (List.length_filter_le ready hs)
    simp only [handles, List.length_append, flatMap_leBytes_length, List.length_replicate]
    simp only [Nat.mul_succ] at fits ⊢
    omega

/-! ## The first loop -/

/-- A descriptor up to `INT_MAX` fits a handle of four bytes or more. -/
theorem lt_handle_of_le {handle x : Nat} (wide : 4 ≤ handle) (le : x ≤ INT_MAX) : x < 256 ^ handle :=
  calc x ≤ INT_MAX := le
    _ < 256 ^ 4 := by decide
    _ ≤ 256 ^ handle := Nat.pow_le_pow_right (by decide) wide

/-- **What `fdbuf_resize` writes.** With the allocation it asks for, a sized buffer ends with its
old bytes followed by zeros up to its new size, at least `fd / 8 + 32`. -/
theorem fdbuf_resize_zeros (buf : FdBuf) (fd : Nat) (sized : buf.Sized) (small : fd ≤ INT_MAX) :
    ∃ buf', fdbuf_resize buf fd true = some (true, buf') ∧ buf'.Sized ∧
      buf.alloc_bytes ≤ buf'.alloc_bytes ∧
      buf'.set = some (buf.set.getD [] ++ List.replicate (buf'.alloc_bytes - buf.alloc_bytes) 0#8) := by
  obtain ⟨ok, buf', resize, sized', -, le, iff, grown, -⟩ := fdbuf_resize_spec buf fd true sized small
  obtain rfl : ok = true := iff.mpr (Or.inr rfl)
  refine ⟨buf', resize, sized', le, ?_⟩
  have old : (buf.set.getD []).length = buf.alloc_bytes := by
    unfold FdBuf.Sized at sized
    split at sized <;> simp_all
  by_cases grow : buf.alloc_bytes < fd / 8 + 32
  · simp only [fdbuf_resize, grow, if_true] at resize
    obtain ⟨p, stored, same⟩ := Option.map_eq_some'.mp resize
    cases same
    simp only at le ⊢
    generalize doubling (fd / 8 + 32) (fd / 8 + 32) 256 = alloc at stored le ⊢
    generalize buf.set.getD [] = bytes at old stored ⊢
    rw [List.take_of_length_le (by omega), ← old, store_after rfl (by simp), List.drop_replicate,
      List.length_replicate, Nat.sub_self, List.replicate_zero, List.append_nil] at stored
    rw [← stored, old]
  · simp only [fdbuf_resize, grow, if_false, Option.some.injEq, Prod.mk.injEq, true_and] at resize
    subst resize
    obtain ⟨mem, set⟩ := Option.isSome_iff_exists.mp (grown rfl).2
    simp [set]

/-- A static buffer of `poll` holding the sockets `hs` in the Winsock layout: `NULL` holding none,
or the bytes of the set. -/
def WinsockHeld (handle : Nat) (buf : FdBuf) (hs : List Nat) : Prop :=
  match buf.set with
  | none => hs = []
  | some mem => mem = winsockBytes handle buf.alloc_bytes hs

/-- Fewer sockets than a buffer of 256 bytes has slots for, with the count. -/
theorem room_of_lt {handle n size : Nat} (lt : n < 256 / handle) (big : 256 ≤ size) :
    handle * (n + 1) ≤ size :=
  calc handle * (n + 1) ≤ handle * (256 / handle) := Nat.mul_le_mul_left _ lt
    _ ≤ 256 := Nat.mul_div_le 256 handle
    _ ≤ size := big

theorem few_of_lt {handle n : Nat} (wide : 4 ≤ handle) (lt : n < 256 / handle) : n ≤ FD_SETSIZE := by
  have : 256 / handle ≤ 64 := Nat.div_le_of_le_mul (by omega)
  unfold FD_SETSIZE
  omega

theorem winsockBytes_append_zeros {handle size : Nat} {hs : List Nat}
    (fits : handle * (hs.length + 1) ≤ size) (k : Nat) :
    winsockBytes handle size hs ++ List.replicate k 0#8 = winsockBytes handle (size + k) hs := by
  rw [winsockBytes, winsockBytes, List.append_assoc, List.append_replicate_replicate,
    show size + k - handle * (hs.length + 1) = size - handle * (hs.length + 1) + k by omega]

/-- `fdbuf_zero`: the empty set. -/
theorem fdbuf_zero_held {handle : Nat} (wide : 4 ≤ handle) (room : handle ≤ 256) (buf : FdBuf)
    (sized : buf.Sized) : ∃ buf', fdbuf_zero buf = some buf' ∧ buf'.Sized ∧ WinsockHeld handle buf' [] := by
  unfold FdBuf.Sized at sized
  rcases set : buf.set with _ | mem <;> simp only [set] at sized
  · exact ⟨buf, by simp [fdbuf_zero, set], by simpa [FdBuf.Sized, set] using sized,
      by simp [WinsockHeld, set]⟩
  · refine ⟨{ buf with set := some (List.replicate buf.alloc_bytes 0#8) }, ?_, ?_,
      (winsockBytes_nil wide (by omega)).symm⟩
    · simp [fdbuf_zero, set, ← sized.1, store_zeros]
    · simpa [FdBuf.Sized] using sized.2

/-- `fdbuf_resize` of a buffer holding `hs`, with an allocator that does not fail: it still holds
them. -/
theorem resizeAt_held {handle : Nat} (wide : 4 ≤ handle) (allocOk : Nat → Bool)
    (noFail : ∀ k, allocOk k = true) {buf : FdBuf} {hs : List Nat} (sized : buf.Sized)
    (held : WinsockHeld handle buf hs) (fits : handle * (hs.length + 1) ≤ 256) {fd : Nat}
    (small : fd ≤ INT_MAX) (n : Nat) :
    ∃ buf' n', resizeAt allocOk buf fd n = some (true, buf', n') ∧ buf'.Sized ∧
      buf'.set = some (winsockBytes handle buf'.alloc_bytes hs) := by
  obtain ⟨buf', resize, sized', le, set'⟩ := fdbuf_resize_zeros buf fd sized small
  refine ⟨buf', if buf.alloc_bytes < fd / 8 + 32 then n + 1 else n,
    by simp [resizeAt, noFail, resize], sized', ?_⟩
  have big : 256 ≤ buf'.alloc_bytes := by
    simp only [FdBuf.Sized, set'] at sized'
    exact sized'.2.1
  rw [set']
  unfold WinsockHeld at held
  unfold FdBuf.Sized at sized
  rcases set : buf.set with _ | mem <;> simp only [set] at held sized
  · subst held
    rw [List.length_nil, Nat.zero_add, Nat.mul_one] at fits
    simp [sized, winsockBytes_nil wide (by omega : handle ≤ buf'.alloc_bytes)]
  · rw [Option.getD_some, held, winsockBytes_append_zeros (by omega), Nat.add_sub_cancel' le]

/-- `if (asked) FD_SET(fd, buf->set);` into a buffer holding `hs`, with room for the socket when
it is asked for. -/
theorem setWhen_held {handle : Nat} (wide : 4 ≤ handle) (asked : Prop) [Decidable asked]
    {buf : FdBuf} {hs : List Nat} {fd : Nat} (set : buf.set = some (winsockBytes handle buf.alloc_bytes hs))
    (small : ∀ x ∈ fd :: hs, x < 256 ^ handle) (few : asked → (addHandle hs fd).length ≤ FD_SETSIZE)
    (room : asked → handle * ((addHandle hs fd).length + 1) ≤ buf.alloc_bytes) :
    setWhen (winsock handle) asked fd buf =
      some { buf with set := some (winsockBytes handle buf.alloc_bytes (if asked then addHandle hs fd else hs)) } := by
  by_cases ask : asked
  · simp [setWhen, ask, setIn, set, winsock, winsockSet_addHandle wide small (few ask) (room ask)]
  · simp only [setWhen, ask, if_false, ← set]

/-- The statics as the first loop leaves them after the entries `done`, in the Winsock layout:
both buffers sized, allocated once an entry has been seen, the read set holding the sockets of the
entries that ask for reading and the write set those of the entries that ask for writing. -/
structure WinsockFilled (handle : Nat) (done : List PollFd) (st : PollStatics) : Prop where
  sized : st.Sized
  reads : WinsockHeld handle st.readfds (handlesOf POLLIN done)
  writes : WinsockHeld handle st.writefds (handlesOf POLLOUT done)
  allocated : done ≠ [] → st.readfds.set.isSome ∧ st.writefds.set.isSome

/-- A buffer resized and then written by `setWhen_held` is sized and holds the new sockets. -/
theorem held_of_set {handle : Nat} (wide : 4 ≤ handle) {buf : FdBuf} {hs : List Nat}
    (sized : buf.Sized) (fits : handle * (hs.length + 1) ≤ buf.alloc_bytes) :
    FdBuf.Sized { buf with set := some (winsockBytes handle buf.alloc_bytes hs) } ∧
      WinsockHeld handle { buf with set := some (winsockBytes handle buf.alloc_bytes hs) } hs := by
  unfold FdBuf.Sized at sized ⊢
  refine ⟨?_, rfl⟩
  split at sized <;> simp_all [winsockBytes_length wide fits]

/-- **One entry of the first loop in the Winsock layout.** From statics filled for the entries
before it, with room in both sets for its socket, the loop goes on with statics filled for the
entry too. -/
theorem fillSets_cons_held {handle : Nat} (wide : handle = 4 ∨ handle = 8) (allocOk : Nat → Bool)
    (noFail : ∀ k, allocOk k = true) (pf : PollFd) (fds : List PollFd) (fd_max n : Nat)
    (st : PollStatics) (done : List PollFd) (filled : WinsockFilled handle done st)
    (before : ∀ q ∈ done, q.fd ≤ INT_MAX) (range : 0 ≤ pf.fd ∧ pf.fd ≤ INT_MAX)
    (roomR : (handlesOf POLLIN (done ++ [pf])).length < 256 / handle)
    (roomW : (handlesOf POLLOUT (done ++ [pf])).length < 256 / handle) :
    ∃ n' st', fillSets (winsock handle) allocOk (pf :: fds) fd_max n st =
        fillSets (winsock handle) allocOk fds (max fd_max pf.fd.toNat) n' st' ∧
      WinsockFilled handle (done ++ [pf]) st' := by
  have wide4 : 4 ≤ handle := by omega
  have fd_small : pf.fd.toNat ≤ INT_MAX := by unfold INT_MAX at range ⊢; omega
  have small (mask : Nat) : ∀ x ∈ pf.fd.toNat :: handlesOf mask done, x < 256 ^ handle := by
    intro x mem
    refine lt_handle_of_le wide4 ?_
    rcases List.mem_cons.mp mem with rfl | mem
    · exact fd_small
    · obtain ⟨q, inDone, -, rfl⟩ := mem_handlesOf.mp mem
      have := before q inDone
      unfold INT_MAX at this ⊢
      omega
  have fits (mask : Nat) (room : (handlesOf mask (done ++ [pf])).length < 256 / handle) :
      handle * ((handlesOf mask done).length + 1) ≤ 256 :=
    room_of_lt (lt_of_le_of_lt (length_handlesOf_le_append mask done [pf]) room) le_rfl
  obtain ⟨readfds, n₁, resizeR, sizedR, setR⟩ :=
    resizeAt_held wide4 allocOk noFail filled.sized.1 filled.reads (fits _ roomR) fd_small n
  obtain ⟨writefds, n₂, resizeW, sizedW, setW⟩ :=
    resizeAt_held wide4 allocOk noFail filled.sized.2 filled.writes (fits _ roomW) fd_small n₁
  have big {buf : FdBuf} {mem : List (BitVec 8)} (sized : buf.Sized) (set : buf.set = some mem) :
      256 ≤ buf.alloc_bytes := by
    simp only [FdBuf.Sized, set] at sized
    exact sized.2.1
  have grow (mask : Nat) (room : (handlesOf mask (done ++ [pf])).length < 256 / handle) {size : Nat}
      (big : 256 ≤ size) : pf.events &&& mask ≠ 0 →
        (addHandle (handlesOf mask done) pf.fd.toNat).length ≤ FD_SETSIZE ∧
          handle * ((addHandle (handlesOf mask done) pf.fd.toNat).length + 1) ≤ size := fun ask => by
    rw [handlesOf_append_single, if_pos ask] at room
    exact ⟨few_of_lt wide4 room, room_of_lt room big⟩
  have setR' := setWhen_held wide4 (pf.events &&& POLLIN ≠ 0) setR (small _)
    (fun ask => (grow _ roomR (big sizedR setR) ask).1) (fun ask => (grow _ roomR (big sizedR setR) ask).2)
  have setW' := setWhen_held wide4 (pf.events &&& POLLOUT ≠ 0) setW (small _)
    (fun ask => (grow _ roomW (big sizedW setW) ask).1) (fun ask => (grow _ roomW (big sizedW setW) ask).2)
  rw [← handlesOf_append_single] at setR' setW'
  obtain ⟨sizedR', heldR⟩ := held_of_set wide4 sizedR (room_of_lt roomR (big sizedR setR))
  obtain ⟨sizedW', heldW⟩ := held_of_set wide4 sizedW (room_of_lt roomW (big sizedW setW))
  refine ⟨n₂, ⟨_, _⟩, ?_, ⟨sizedR', sizedW'⟩, heldR, heldW, fun _ => ⟨rfl, rfl⟩⟩
  simp only [fillSets, Int.not_lt.mpr range.1, if_false, resizeR, resizeW, Option.bind_eq_bind,
    Option.some_bind, Bool.not_true, Bool.false_eq_true, setR', setW', Option.pure_def]

/-- **The first loop in the Winsock layout.** From statics filled for `done`, with room in both
sets for the sockets of all the entries, the loop runs to its end without an error and leaves
the statics filled for every entry. -/
theorem fillSets_held {handle : Nat} (wide : handle = 4 ∨ handle = 8) (allocOk : Nat → Bool)
    (noFail : ∀ k, allocOk k = true) (fds : List PollFd)
    (range : ∀ pf ∈ fds, 0 ≤ pf.fd ∧ pf.fd ≤ INT_MAX) (done : List PollFd)
    (before : ∀ q ∈ done, q.fd ≤ INT_MAX)
    (roomR : (handlesOf POLLIN (done ++ fds)).length < 256 / handle)
    (roomW : (handlesOf POLLOUT (done ++ fds)).length < 256 / handle) (fd_max n : Nat)
    (st : PollStatics) (filled : WinsockFilled handle done st) :
    ∃ n' st', fillSets (winsock handle) allocOk fds fd_max n st =
        some (none, maxFd fd_max fds, n', st') ∧ WinsockFilled handle (done ++ fds) st' := by
  induction fds generalizing done fd_max n st with
  | nil => exact ⟨n, st, rfl, by simpa using filled⟩
  | cons pf fds ih =>
    rw [← List.singleton_append, ← List.append_assoc] at roomR roomW ⊢
    have range' := range pf (List.mem_cons_self _ _)
    obtain ⟨n', st', step, filled'⟩ := fillSets_cons_held wide allocOk noFail pf fds fd_max n st
      done filled before range' (lt_of_le_of_lt (length_handlesOf_le_append _ _ _) roomR)
      (lt_of_le_of_lt (length_handlesOf_le_append _ _ _) roomW)
    obtain ⟨n'', st'', rest, filled''⟩ := ih (fun q mem => range q (List.mem_cons_of_mem _ mem))
      (done ++ [pf]) (fun q mem => (List.mem_append.mp mem).elim (before q)
        fun last => List.mem_singleton.mp last ▸ range'.2) roomR roomW _ n' st' filled'
    exact ⟨n'', st'', step.trans rest, filled''⟩

/-- The sockets a filled buffer holds, read back. -/
theorem winsockHandles_held {handle : Nat} (wide : 4 ≤ handle) {buf : FdBuf} {hs : List Nat}
    (held : WinsockHeld handle buf hs) (small : ∀ x ∈ hs, x < 256 ^ handle)
    (few : hs.length ≤ FD_SETSIZE) : winsockHandles handle buf.set = some hs := by
  unfold WinsockHeld at held
  split at held
  · next set => rw [set, held]; rfl
  · next set => rw [set, held, winsockBytes_eq_layout, winsockHandles_layout _ wide small few]

/-- `select` on a buffer holding `hs`: `NULL` stays `NULL`; in a set, `FD_ISSET` then finds
exactly the held sockets `select` found ready. -/
theorem selectIn_held {handle : Nat} (wide : 4 ≤ handle) {buf : FdBuf} {hs : List Nat}
    (sized : buf.Sized) (held : WinsockHeld handle buf hs) (small : ∀ x ∈ hs, x < 256 ^ handle)
    (room : hs.length < 256 / handle) (nfds : Nat) (ready : Nat → Bool) :
    ∃ buf', selectIn (winsock handle) nfds ready buf = some buf' ∧ buf'.Sized ∧
      (buf.set.isSome → ∀ fd, isSetIn (winsock handle) fd buf' = some (decide (fd ∈ hs) && ready fd)) := by
  unfold WinsockHeld at held
  unfold FdBuf.Sized at sized
  rcases set : buf.set with _ | mem <;> simp only [set] at held sized
  · exact ⟨buf, by simp [selectIn, set], by simpa [FdBuf.Sized, set] using sized, by simp⟩
  · subst held
    have few := few_of_lt wide room
    obtain ⟨rest, selected, length⟩ := winsockSelect_bytes wide (room_of_lt room sized.2.1)
      small few nfds ready
    refine ⟨{ buf with set := some (winsockLayout handle (hs.filter ready) rest) },
      by simp [selectIn, set, winsock, selected], by simpa [FdBuf.Sized, length] using sized.2,
      fun _ fd => ?_⟩
    show winsockIsSet handle fd (winsockLayout handle (hs.filter ready) rest) = _
    rw [winsockIsSet_layout rest wide
      (fun x mem => small x (List.mem_filter.mp mem).1) ((List.length_filter_le _ _).trans few)]
    simp [List.mem_filter]

/-! ## The second loop and the whole call -/

/-- `asked && FD_ISSET(fd, buf->set)`, when `FD_ISSET` reports `ready` wherever the entry asks. -/
theorem isSetWhen_asked (layout : FdSetLayout) (pf : PollFd) (mask : Nat) (buf : FdBuf)
    (ready : Nat → Bool) (found : pf.asks mask → isSetIn layout pf.fd.toNat buf = some (ready pf.fd.toNat)) :
    isSetWhen layout (pf.events &&& mask ≠ 0) pf.fd.toNat buf =
      some (decide (pf.asks mask) && ready pf.fd.toNat) := by
  by_cases ask : pf.asks mask
  · rw [isSetWhen, if_pos (show pf.events &&& mask ≠ 0 from ask), found ask]
    simp [ask]
  · rw [isSetWhen, if_neg (show ¬(pf.events &&& mask ≠ 0) from ask)]
    simp [ask]

/-- **The second loop, in any layout.** When `FD_ISSET` reports, for each entry that asks for
reading, whether `select` found its descriptor ready for reading, and likewise for writing, every
entry gets the events it asked for that `select` found, and the count is the number of entries
that get some. -/
theorem recount_ready (layout : FdSetLayout) (readfds writefds : FdBuf)
    (readReady writeReady : Nat → Bool) (fds : List PollFd)
    (reads : ∀ pf ∈ fds, pf.asks POLLIN →
      isSetIn layout pf.fd.toNat readfds = some (readReady pf.fd.toNat))
    (writes : ∀ pf ∈ fds, pf.asks POLLOUT →
      isSetIn layout pf.fd.toNat writefds = some (writeReady pf.fd.toNat)) :
    recount layout readfds writefds fds =
      some (fds.countP fun pf => readyRevents readReady writeReady pf ≠ 0,
        fds.map fun pf => { pf with revents := readyRevents readReady writeReady pf }) := by
  induction fds with
  | nil => rfl
  | cons pf fds ih =>
    rw [recount, isSetWhen_asked layout pf POLLIN readfds readReady (reads pf (List.mem_cons_self _ _)),
      isSetWhen_asked layout pf POLLOUT writefds writeReady (writes pf (List.mem_cons_self _ _)),
      ih (fun q mem => reads q (List.mem_cons_of_mem _ mem))
        (fun q mem => writes q (List.mem_cons_of_mem _ mem))]
    have revents : ((if (decide (pf.asks POLLIN) && readReady pf.fd.toNat) = true then POLLIN else 0) |||
        if (decide (pf.asks POLLOUT) && writeReady pf.fd.toNat) = true then POLLOUT else 0) =
          readyRevents readReady writeReady pf := by
      simp [readyRevents]
    simp only [Option.bind_eq_bind, Option.some_bind, revents, Option.pure_def]
    by_cases silent : readyRevents readReady writeReady pf = 0 <;> simp [silent]

/-- The statics as `fdbuf_zero` leaves them: filled for no entry. -/
theorem winsockFilled_zero {handle : Nat} (wide : handle = 4 ∨ handle = 8) {st : PollStatics}
    (sized : st.Sized) :
    ∃ readfds writefds, fdbuf_zero st.readfds = some readfds ∧
      fdbuf_zero st.writefds = some writefds ∧ WinsockFilled handle [] ⟨readfds, writefds⟩ := by
  have wide4 : 4 ≤ handle := by omega
  obtain ⟨readfds, zeroR, sizedR, heldR⟩ := fdbuf_zero_held wide4 (by omega) st.readfds sized.1
  obtain ⟨writefds, zeroW, sizedW, heldW⟩ := fdbuf_zero_held wide4 (by omega) st.writefds sized.2
  exact ⟨readfds, writefds, zeroR, zeroW, ⟨sizedR, sizedW⟩, heldR, heldW, fun none => (none rfl).elim⟩

/-- **A call in the Winsock layout, below capacity.** From sized statics, with descriptors from
`0` to below `INT_MAX`, a valid timeout, an allocator that does not fail, and fewer than `256 / handle`
sockets asked for in each set, `poll` hands `select` one more than the largest descriptor, sets
holding the socket of each entry that asks for reading and for writing, each once, and the timeout
in seconds and microseconds (none for `-1`). When `select` reports nothing ready, or fails, `poll`
returns its result and the entries as they came; otherwise each entry gets the events it asked
for that `select` found, and the result counts the entries that got some: what it does in the
bitmap layout. -/
theorem poll_winsock_spec (handle : Nat) (wide : handle = 4 ∨ handle = 8) (allocOk : Nat → Bool)
    (noFail : ∀ k, allocOk k = true) (st : PollStatics) (sized : st.Sized) (fds : List PollFd)
    (range : ∀ pf ∈ fds, 0 ≤ pf.fd ∧ pf.fd < INT_MAX)
    (roomR : (handlesOf POLLIN fds).length < 256 / handle)
    (roomW : (handlesOf POLLOUT fds).length < 256 / handle) (timeout_ms : Int)
    (valid : -1 ≤ timeout_ms) :
    ∃ call : SelectCall, call.nfds = maxFd 0 fds + 1 ∧
      winsockHandles handle call.readfds = some (handlesOf POLLIN fds) ∧
      winsockHandles handle call.writefds = some (handlesOf POLLOUT fds) ∧
      call.timeout = (if timeout_ms = -1 then none
        else some ⟨timeout_ms / 1000, timeout_ms % 1000 * 1000⟩) ∧
      ∀ select : SelectCall → SelectAnswer, ∃ st', st'.Sized ∧
        ((select call).res ≤ 0 → poll (winsock handle) allocOk select st fds timeout_ms =
          some (((select call).res, none), fds, st')) ∧
        (0 < (select call).res → poll (winsock handle) allocOk select st fds timeout_ms =
          some ((((fds.countP fun pf =>
              readyRevents (select call).readReady (select call).writeReady pf ≠ 0 : Nat) : Int), none),
            fds.map (fun pf =>
              { pf with revents := readyRevents (select call).readReady (select call).writeReady pf }),
            st')) := by
  have wide4 : 4 ≤ handle := by omega
  have invalid : ¬ timeout_ms < -1 := by omega
  obtain ⟨readfds, writefds, zeroR, zeroW, empty⟩ := winsockFilled_zero wide sized
  obtain ⟨n, st', fill, filled⟩ := fillSets_held wide allocOk noFail fds
    (fun pf mem => ⟨(range pf mem).1, (range pf mem).2.le⟩) []
    (fun _ absent => absurd absent (List.not_mem_nil _)) roomR roomW 0 0 _ empty
  rw [List.nil_append] at filled
  have small (mask : Nat) : ∀ x ∈ handlesOf mask fds, x < 256 ^ handle := fun x mem => by
    obtain ⟨q, inFds, -, rfl⟩ := mem_handlesOf.mp mem
    have := (range q inFds).2
    exact lt_handle_of_le wide4 (by unfold INT_MAX at this ⊢; omega)
  have nfds := intSucc_maxFd fun pf mem => (range pf mem).2
  refine ⟨⟨((maxFd 0 fds + 1 : Nat) : Int), st'.readfds.set, st'.writefds.set,
    selectTimeout timeout_ms⟩, Nat.cast_succ _,
    winsockHandles_held wide4 filled.reads (small _) (few_of_lt wide4 roomR),
    winsockHandles_held wide4 filled.writes (small _) (few_of_lt wide4 roomW), ?_,
    fun select => ?_⟩
  · by_cases forever : timeout_ms = -1
    · simp [selectTimeout, forever]
    · simp [selectTimeout, forever, show 0 ≤ timeout_ms by omega]
  let answer := select ⟨((maxFd 0 fds + 1 : Nat) : Int), st'.readfds.set, st'.writefds.set,
    selectTimeout timeout_ms⟩
  obtain ⟨readfds', selectR, sizedR, foundR⟩ := selectIn_held wide4 filled.sized.1 filled.reads
    (small _) roomR (maxFd 0 fds + 1) answer.readReady
  obtain ⟨writefds', selectW, sizedW, foundW⟩ := selectIn_held wide4 filled.sized.2 filled.writes
    (small _) roomW (maxFd 0 fds + 1) answer.writeReady
  have recount := recount_ready (winsock handle) readfds' writefds' answer.readReady
    answer.writeReady fds
    (fun pf mem ask => by
      rw [foundR (filled.allocated (List.ne_nil_of_mem mem)).1,
        decide_eq_true (mem_handlesOf.mpr ⟨pf, mem, ask, rfl⟩), Bool.true_and])
    (fun pf mem ask => by
      rw [foundW (filled.allocated (List.ne_nil_of_mem mem)).2,
        decide_eq_true (mem_handlesOf.mpr ⟨pf, mem, ask, rfl⟩), Bool.true_and])
  refine ⟨⟨readfds', writefds'⟩, ⟨sizedR, sizedW⟩, fun quiet => by simp only [poll, Int.reduceNeg,
    invalid, ↓reduceIte, Option.pure_def, zeroR, zeroW, Option.bind_eq_bind, Option.some_bind, fill,
    nfds, selectR, selectW, quiet], fun busy => ?_⟩
  have quiet : ¬ answer.res ≤ 0 := Int.not_le.mpr busy
  simp only [poll, Int.reduceNeg, invalid, ↓reduceIte, Option.pure_def, zeroR, zeroW,
    Option.bind_eq_bind, Option.some_bind, fill, nfds, selectR, selectW, quiet, recount, ne_eq,
    decide_not]

/-- Thirty-one sockets asking to read, the most the 256 bytes hold with the 8-byte handles of
64-bit Windows, from the program's start, without waiting. -/
theorem poll_winsock_spec_thirty_one :
    let fds : List PollFd := (List.range 31).map fun (i : Nat) => ⟨4 * i + 4, POLLIN, 0⟩
    ∃ call : SelectCall, call.nfds = maxFd 0 fds + 1 ∧
      winsockHandles 8 call.readfds = some (handlesOf POLLIN fds) ∧
      winsockHandles 8 call.writefds = some (handlesOf POLLOUT fds) ∧
      call.timeout = (if (0 : Int) = -1 then none else some ⟨0 / 1000, 0 % 1000 * 1000⟩) ∧
      ∀ select : SelectCall → SelectAnswer, ∃ st', st'.Sized ∧
        ((select call).res ≤ 0 → poll (winsock 8) (fun _ => true) select PollStatics.empty fds 0 =
          some (((select call).res, none), fds, st')) ∧
        (0 < (select call).res → poll (winsock 8) (fun _ => true) select PollStatics.empty fds 0 =
          some ((((fds.countP fun pf =>
              readyRevents (select call).readReady (select call).writeReady pf ≠ 0 : Nat) : Int), none),
            fds.map (fun pf =>
              { pf with revents := readyRevents (select call).readReady (select call).writeReady pf }),
            st')) :=
  poll_winsock_spec 8 (Or.inr rfl) _ (fun _ => rfl) _ ⟨FdBuf.sized_empty, FdBuf.sized_empty⟩ _
    (by decide) (by decide) (by decide) _ (by decide)

end Libusual.Socket
