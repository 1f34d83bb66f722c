import Libusual.Socket.Poll

/-!
# The Winsock layout overruns the buffers of the `poll` emulation

`fdbuf_resize` sizes a buffer by the descriptor number: `fd / 8 + 32` bytes, at least 256, the
space a bitmap `fd_set` needs. Winsock's `fd_set` is a count and an array of up to `FD_SETSIZE`
socket handles, and `FD_SET` appends each socket not yet in the set, so the space it uses grows
with the number of sockets and not with their values. 256 bytes hold the count and
`256 / handle - 1` handles of `handle` bytes.

`winsockBytes` is the buffer of a set holding some handles. `FD_SET` of a socket not in the set
appends it while the slot fits and faults on a slot past the buffer (`winsockSet_fresh`). The
first loop of `poll` does that for each entry (`fillSets_winsock`), so a first call asking to read
from `256 / handle` distinct small sockets faults (`poll_winsock_overrun`): at the 32nd socket
with the 8-byte handles of 64-bit Windows, at the 64th with the 4-byte ones of 32-bit Windows.
-/

set_option autoImplicit false

namespace Libusual.Socket

/-! ## Little-endian fields -/

@[simp]
theorem leBytes_length (width value : Nat) : (leBytes width value).length = width := by
  induction width generalizing value with
  | zero => rfl
  | succ width ih => simp only [leBytes, List.length_cons, ih]

theorem leBytes_zero (width : Nat) : leBytes width 0 = List.replicate width 0#8 := by
  induction width with
  | zero => rfl
  | succ width ih => simp only [leBytes, Nat.zero_div, ih, List.replicate_succ]

theorem leValue_leBytes (width value : Nat) :
    leValue (leBytes width value) = value % 256 ^ width := by
  induction width generalizing value with
  | zero => simp only [leBytes, leValue, Nat.pow_zero, Nat.mod_one]
  | succ width ih =>
    have split : value % 256 ^ (width + 1) = value % 256 + 256 * (value / 256 % 256 ^ width) := by
      rw [Nat.pow_succ', Nat.mod_mul]
    rw [leBytes, leValue, ih, BitVec.toNat_ofNat, split]

@[simp]
theorem flatMap_leBytes_length (width : Nat) (hs : List Nat) :
    (hs.flatMap (leBytes width)).length = width * hs.length := by
  induction hs with
  | nil => rfl
  | cons x hs ih => simp only [List.flatMap_cons, List.length_append, leBytes_length, ih,
      List.length_cons, Nat.mul_succ]; omega

/-! ## A set holding some handles -/

/-- The `size` bytes of a Winsock set holding the handles `hs`: the count, padded to the
alignment of a handle, the handles in order, and zeros. -/
def winsockBytes (handle size : Nat) (hs : List Nat) : List (BitVec 8) :=
  leBytes 4 hs.length ++ List.replicate (handle - 4) 0#8 ++ hs.flatMap (leBytes handle) ++
    List.replicate (size - handle * (hs.length + 1)) 0#8

/-- Writing the new count over the first four bytes. -/
theorem store_count (handle size fd : Nat) (hs : List Nat) :
    store (leBytes 4 hs.length ++ List.replicate (handle - 4) 0#8 ++
        (hs ++ [fd]).flatMap (leBytes handle) ++
        List.replicate (size - handle * (hs.length + 2)) 0#8) 0 (leBytes 4 (hs.length + 1)) =
      some (winsockBytes handle size (hs ++ [fd])) := by
  have inside : 0 + (leBytes 4 (hs.length + 1)).length ≤ (leBytes 4 hs.length ++
      List.replicate (handle - 4) 0#8 ++ (hs ++ [fd]).flatMap (leBytes handle) ++
      List.replicate (size - handle * (hs.length + 2)) 0#8).length := by
    simp only [List.length_append, leBytes_length, List.length_replicate]
    omega
  rw [store, if_pos inside]
  simp only [List.take_zero, List.nil_append, leBytes_length, Nat.zero_add, List.append_assoc,
    List.drop_left' (leBytes_length 4 _), winsockBytes, List.length_append, List.length_singleton]

section Layout

variable {handle size : Nat} {hs : List Nat} (wide : 4 ≤ handle)
  (fits : handle * (hs.length + 1) ≤ size)

include wide

theorem header_length (count : Nat) :
    (leBytes 4 count ++ List.replicate (handle - 4) 0#8).length = handle := by
  simp only [List.length_append, leBytes_length, List.length_replicate]
  omega

/-- A zeroed buffer is the empty set. -/
theorem winsockBytes_nil (room : handle ≤ size) :
    winsockBytes handle size [] = List.replicate size 0#8 := by
  simp only [winsockBytes, List.length_nil, leBytes_zero, List.flatMap_nil, List.append_nil,
    Nat.zero_add, Nat.mul_one, List.append_replicate_replicate]
  congr 1
  omega

include fits

theorem winsockBytes_length : (winsockBytes handle size hs).length = size := by
  simp only [winsockBytes, List.length_append, leBytes_length, List.length_replicate,
    flatMap_leBytes_length]
  rw [Nat.mul_succ] at fits ⊢
  omega

/-- The count, read from the first four bytes. -/
theorem load_count : load (winsockBytes handle size hs) 0 4 = some (leBytes 4 hs.length) := by
  have inside : 0 + 4 ≤ (winsockBytes handle size hs).length := by
    rw [winsockBytes_length wide fits]
    rw [Nat.mul_succ] at fits
    omega
  rw [load, if_pos inside, List.drop_zero, winsockBytes]
  simp only [List.append_assoc]
  exact congrArg some (List.take_left' (leBytes_length 4 _))

/-- The `i`-th handle, read from its slot. -/
theorem load_slot (i : Nat) (lt : i < hs.length) :
    load (winsockBytes handle size hs) (handle * (i + 1)) handle = some (leBytes handle hs[i]) := by
  have inside : handle * (i + 1) + handle ≤ (winsockBytes handle size hs).length := by
    rw [winsockBytes_length wide fits]
    have : handle * (i + 2) ≤ handle * (hs.length + 1) := Nat.mul_le_mul_left _ (by omega)
    rw [Nat.mul_succ] at this
    omega
  have flat : hs.flatMap (leBytes handle) = (hs.take i).flatMap (leBytes handle) ++
      (leBytes handle hs[i] ++ (hs.drop (i + 1)).flatMap (leBytes handle)) := by
    conv => lhs; rw [← List.take_append_drop i hs, List.drop_eq_getElem_cons lt]
    rw [List.flatMap_append, List.flatMap_cons]
  have before : (leBytes 4 hs.length ++ (List.replicate (handle - 4) 0#8 ++
      (hs.take i).flatMap (leBytes handle))).length = handle * (i + 1) := by
    rw [← List.append_assoc, List.length_append, header_length wide, flatMap_leBytes_length,
      List.length_take, Nat.min_eq_left (Nat.le_of_lt lt), Nat.mul_succ, Nat.add_comm]
  rw [load, if_pos inside, winsockBytes, flat]
  simp only [List.append_assoc]
  rw [← List.append_assoc (List.replicate _ _) ((hs.take i).flatMap _),
    ← List.append_assoc (leBytes 4 _), List.drop_left' before,
    List.take_left' (leBytes_length _ _)]

/-- Looking for a socket the set does not hold, over slots of handles in the set. -/
theorem winsockFind_fresh {fd : Nat} (small : ∀ x ∈ fd :: hs, x < 256 ^ handle) (fresh : fd ∉ hs)
    (slots : List Nat) (inside : ∀ i ∈ slots, i < hs.length) :
    winsockFind handle fd (winsockBytes handle size hs) slots = some false := by
  induction slots with
  | nil => rfl
  | cons i slots ih =>
    have lt := inside i (List.mem_cons_self _ _)
    have differ : leValue (leBytes handle hs[i]) ≠ fd := by
      rw [leValue_leBytes, Nat.mod_eq_of_lt (small _ (List.mem_cons_of_mem _ (List.getElem_mem lt)))]
      exact fun same => fresh (same ▸ List.getElem_mem lt)
    simp only [winsockFind, load_slot wide fits i lt, Option.bind_eq_bind, Option.some_bind,
      differ, if_false]
    exact ih fun j mem => inside j (List.mem_cons_of_mem _ mem)

/-- Writing a handle into the slot after the last one: inside the buffer when the slot fits, and
a fault otherwise. -/
theorem store_slot (fd : Nat) :
    store (winsockBytes handle size hs) (handle * (hs.length + 1)) (leBytes handle fd) =
      if handle * (hs.length + 2) ≤ size then
        some (leBytes 4 hs.length ++ List.replicate (handle - 4) 0#8 ++
          (hs ++ [fd]).flatMap (leBytes handle) ++
          List.replicate (size - handle * (hs.length + 2)) 0#8)
      else none := by
  have next : handle * (hs.length + 1) + handle = handle * (hs.length + 2) := by
    rw [Nat.mul_succ handle (hs.length + 1)]
  have used : (leBytes 4 hs.length ++ List.replicate (handle - 4) 0#8 ++
      hs.flatMap (leBytes handle)).length = handle * (hs.length + 1) := by
    rw [List.length_append, header_length wide, flatMap_leBytes_length, Nat.mul_succ,
      Nat.add_comm]
  simp only [store, winsockBytes_length wide fits, leBytes_length, next]
  split_ifs with room
  · rw [winsockBytes, List.take_left' used, ← next, ← used, List.drop_append, List.drop_replicate,
      List.flatMap_append, List.flatMap_singleton, used, next]
    simp only [List.append_assoc, Nat.sub_sub, next]
  · rfl

/-- **`FD_SET` of a socket the set does not hold.** It goes into the slot after the last handle
when that slot lies inside the buffer; otherwise the write faults, though the set has room for
`FD_SETSIZE` sockets. -/
theorem winsockSet_fresh {fd : Nat} (few : hs.length < FD_SETSIZE)
    (small : ∀ x ∈ fd :: hs, x < 256 ^ handle) (fresh : fd ∉ hs) :
    winsockSet handle fd (winsockBytes handle size hs) =
      if handle * (hs.length + 2) ≤ size then some (winsockBytes handle size (hs ++ [fd]))
      else none := by
  have count : leValue (leBytes 4 hs.length) = hs.length := by
    rw [leValue_leBytes, Nat.mod_eq_of_lt]
    unfold FD_SETSIZE at few
    omega
  simp only [winsockSet, load_count wide fits, Option.bind_eq_bind, Option.some_bind, count,
    winsockFind_fresh wide fits small fresh _ fun i mem => List.mem_range.mp mem,
    Bool.false_eq_true, if_false, few, if_true, store_slot wide fits]
  split_ifs with room
  · simp only [Option.some_bind, store_count handle size fd hs]
    rfl
  · rfl

end Layout

/-! ## The first call of `poll` -/

/-- A static buffer while the first loop adds sockets for reading: not yet allocated and holding
none, or 256 bytes holding the handles `hs`. -/
def WinsockHolds (handle : Nat) (buf : FdBuf) (hs : List Nat) : Prop :=
  buf = FdBuf.empty ∧ hs = [] ∨ buf = ⟨some (winsockBytes handle 256 hs), 256⟩

/-- For a descriptor below 1800 the doubling stops at once, at 256 bytes. -/
theorem doubling_small {fd : Nat} (small : fd < 1800) :
    doubling (fd / 8 + 32) (fd / 8 + 32) 256 = 256 := by
  rw [show fd / 8 + 32 = fd / 8 + 31 + 1 from rfl, doubling, if_neg (by omega)]

/-- `fdbuf_resize` for a descriptor below 1800 leaves a 256-byte buffer as it is and allocates
256 zero bytes, the empty set, in place of `NULL`. -/
theorem resizeAt_winsock {handle : Nat} (wide : 4 ≤ handle) (allocOk : Nat → Bool)
    (noFail : ∀ k, allocOk k = true) {buf : FdBuf} {hs : List Nat} (holds : WinsockHolds handle buf hs)
    (fits : handle * (hs.length + 1) ≤ 256) {fd : Nat} (small : fd < 1800) (n : Nat) :
    ∃ n', resizeAt allocOk buf fd n = some (true, ⟨some (winsockBytes handle 256 hs), 256⟩, n') := by
  rcases holds with ⟨rfl, rfl⟩ | rfl
  · refine ⟨n + 1, ?_⟩
    rw [List.length_nil, Nat.zero_add, Nat.mul_one] at fits
    have zeroed := store_zeros (List.replicate 256 0#8)
    rw [List.length_replicate] at zeroed
    simp only [resizeAt, fdbuf_resize, FdBuf.empty, doubling_small small, noFail, if_true,
      show 0 < fd / 8 + 32 by omega, Option.getD_none, List.take_nil, List.length_nil,
      Nat.sub_zero, List.nil_append, zeroed, winsockBytes_nil wide fits, Option.map_some']
  · exact ⟨n, by simp [resizeAt, fdbuf_resize, show ¬ 256 < fd / 8 + 32 by omega]⟩

/-- **The first loop in the Winsock layout.** Reading from small distinct sockets, from buffers
holding `hs` for reading and nothing for writing, the loop faults once the sockets added reach
`256 / handle`, before it runs out of entries. -/
theorem fillSets_winsock {handle : Nat} (wide : handle = 4 ∨ handle = 8) (allocOk : Nat → Bool)
    (noFail : ∀ k, allocOk k = true) (fds : List PollFd)
    (range : ∀ pf ∈ fds, 0 ≤ pf.fd ∧ pf.fd < 1800 ∧ pf.events = POLLIN) (hs : List Nat)
    (seen : ∀ x ∈ hs, x < 1800) (distinct : (hs ++ fds.map fun pf => pf.fd.toNat).Nodup)
    (below : hs.length < 256 / handle) (many : 256 / handle ≤ hs.length + fds.length)
    (st : PollStatics) (reads : WinsockHolds handle st.readfds hs)
    (writes : WinsockHolds handle st.writefds []) (fd_max n : Nat) :
    fillSets (winsock handle) allocOk fds fd_max n st = none := by
  induction fds generalizing hs st fd_max n with
  | nil => simp only [List.length_nil, Nat.add_zero] at many; omega
  | cons pf fds ih =>
    obtain ⟨nonneg, small, events⟩ := range pf (List.mem_cons_self _ _)
    have wide4 : 4 ≤ handle := by omega
    have fits : handle * (hs.length + 1) ≤ 256 := by rcases wide with rfl | rfl <;> omega
    have fd_small : pf.fd.toNat < 1800 := by omega
    obtain ⟨n₁, resize₁⟩ := resizeAt_winsock wide4 allocOk noFail reads fits fd_small n
    obtain ⟨n₂, resize₂⟩ := resizeAt_winsock wide4 allocOk noFail writes
      (by rw [List.length_nil]; omega) fd_small n₁
    have fresh : pf.fd.toNat ∉ hs := fun mem =>
      List.pairwise_append.mp distinct |>.2.2 _ mem _ (List.mem_cons_self _ _) rfl
    have set := winsockSet_fresh wide4 fits (by unfold FD_SETSIZE; rcases wide with rfl | rfl <;> omega)
      (fun x mem => by
        have small_x : x < 1800 := by
          rcases List.mem_cons.mp mem with rfl | mem
          exacts [fd_small, seen x mem]
        rcases wide with rfl | rfl <;> omega) fresh
    have asksIn : POLLIN &&& POLLIN ≠ 0 := by decide
    have asksOut : ¬ POLLIN &&& POLLOUT ≠ 0 := by decide
    simp only [fillSets, Int.not_lt.mpr nonneg, if_false, resize₁, resize₂, Option.bind_eq_bind,
      Option.some_bind, Bool.not_true, Bool.false_eq_true, setWhen, setIn, events, winsock, set,
      asksOut, if_false, Option.pure_def]
    rw [if_pos asksIn]
    by_cases room : handle * (hs.length + 2) ≤ 256
    · simp only [room, if_true, Option.map_some', Option.some_bind]
      refine ih (fun q mem => range q (List.mem_cons_of_mem _ mem)) (hs ++ [pf.fd.toNat])
        (fun x mem => (List.mem_append.mp mem).elim (seen x)
          fun last => List.mem_singleton.mp last ▸ fd_small)
        (by simpa only [List.append_assoc, List.singleton_append, List.map_cons] using distinct)
        (by rw [List.length_append, List.length_singleton]; rcases wide with rfl | rfl <;> omega)
        (by simp only [List.length_append, List.length_singleton, List.length_cons] at many ⊢
            omega)
        _ (Or.inr rfl) (Or.inr rfl) _ _
    · simp only [room, if_false, Option.map_none', Option.none_bind]

/-- **`poll` overruns its read buffer in the Winsock layout.** A first call asking to read from
`256 / handle` distinct sockets below 1800 faults while it fills the read set, whatever the
timeout and `select`: the 256 bytes `fdbuf_resize` sizes for such descriptors hold the count and
`256 / handle - 1` handles, and `FD_SET` writes the next handle past them. -/
theorem poll_winsock_overrun (handle : Nat) (wide : handle = 4 ∨ handle = 8)
    (allocOk : Nat → Bool) (noFail : ∀ k, allocOk k = true) (select : SelectCall → SelectAnswer)
    (fds : List PollFd) (range : ∀ pf ∈ fds, 0 ≤ pf.fd ∧ pf.fd < 1800 ∧ pf.events = POLLIN)
    (distinct : (fds.map fun pf => pf.fd).Nodup) (many : 256 / handle ≤ fds.length)
    (timeout_ms : Int) (valid : -1 ≤ timeout_ms) :
    poll (winsock handle) allocOk select PollStatics.empty fds timeout_ms = none := by
  have distinct' : (([] : List Nat) ++ fds.map fun pf => pf.fd.toNat).Nodup := by
    rw [List.nil_append, List.Nodup, List.pairwise_map]
    rw [List.Nodup, List.pairwise_map] at distinct
    exact distinct.imp_of_mem fun mem₁ mem₂ differ same =>
      differ (by have := (range _ mem₁).1; have := (range _ mem₂).1; omega)
  have fill := fillSets_winsock wide allocOk noFail fds range []
    (fun _ absent => absurd absent (List.not_mem_nil _)) distinct'
    (by rcases wide with rfl | rfl <;> decide) (by rwa [List.length_nil, Nat.zero_add])
    PollStatics.empty (Or.inl ⟨rfl, rfl⟩) (Or.inl ⟨rfl, rfl⟩) 0 0
  simp only [PollStatics.empty, FdBuf.empty] at fill
  simp [poll, show ¬ timeout_ms < -1 by omega, PollStatics.empty, FdBuf.empty, fdbuf_zero, fill]

/-- Thirty-two sockets, handles 4 to 128 as Windows hands them out, with the 8-byte handles of
64-bit Windows. -/
theorem poll_winsock_overrun_thirty_two :
    poll (winsock 8) (fun _ => true) (fun _ => ⟨0, fun _ => false, fun _ => false⟩)
      PollStatics.empty ((List.range 32).map fun (i : Nat) => ⟨4 * i + 4, POLLIN, 0⟩) (-1) = none :=
  poll_winsock_overrun 8 (Or.inr rfl) _ (fun _ => rfl) _ _ (by decide) (by decide) (by decide) _
    (by decide)

end Libusual.Socket
