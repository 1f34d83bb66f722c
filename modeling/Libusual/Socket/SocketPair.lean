import Libusual.Socket.Addr

/-!
# `win32_socketpair`

Windows has no `socketpair`, so `socket.c` builds one over TCP: a listening socket bound to the
loopback address, a second socket connected to it, and the connection accepted on the first.
`getsockname` on both ends checks the address lengths, and that the accepted peer is the socket
that connected. Any failure jumps to `failed:`, which sets `errno` and closes every socket opened
so far.

Winsock is an oracle: call number `k` fails exactly when `fails k`, after which `WSAGetLastError`
returns `wsaError k`, and a call that writes an address back writes the length `addrLen k` and the
port `addrPort k`. The state keeps the ledger of open sockets.

The call hands out a pair exactly when its arguments are valid, Winsock's eight calls succeed, the
three addresses written back have the length of a `sockaddr_in`, and the connecting end has the
accepted peer's port (`win32_socketpair_result`). On every path the sockets the call opens are
either all closed again, when it fails, or exactly the two handed back in `sv`, with the listener
closed (`win32_socketpair_ledger`). After a failure
`errno` is Winsock's error when the failing call returned `-1`, and `EFAULT` otherwise. A failed
`socket()` for the connecting end, or a failed `accept()`, leaves in `res` the `0` of the call
before it, so their Winsock error is lost (`win32_socketpair_efault`).
-/

set_option autoImplicit false

namespace Libusual.Socket

/-- What `errno` holds after `win32_socketpair` fails: a code of the C runtime, or a Winsock error
copied from `WSAGetLastError`. -/
inductive WinErrno where
  | EINVAL
  | EFAULT
  | wsa (code : Nat)
  deriving DecidableEq, Repr

/-- Winsock and the C runtime as `win32_socketpair` sees them. -/
structure Net where
  /-- The ledger: every socket that is open. -/
  live : Multiset Nat
  /-- The handle the next socket gets. -/
  next : Nat
  /-- The number of the next call into Winsock. -/
  calls : Nat
  /-- Call `k` fails exactly when `fails k`. -/
  fails : Nat → Bool
  /-- The error `WSAGetLastError` reports after call `k` failed. -/
  wsaError : Nat → Nat
  /-- The address length call `k` writes back. -/
  addrLen : Nat → Nat
  /-- The port call `k` writes back. -/
  addrPort : Nat → Nat
  /-- What `WSAGetLastError` returns. -/
  lastError : Nat
  errno : WinErrno

/-- Computations against Winsock. -/
abbrev NetM := StateM Net

/-- Every open socket has a handle below `next`. -/
def Net.Numbered (n : Net) : Prop := ∀ s ∈ n.live, s < n.next

/-! ## Winsock -/

/-- One call into Winsock: its number when it succeeds; a failure sets `WSAGetLastError`. -/
def wsaCall : NetM (Option Nat) := fun n =>
  if n.fails n.calls then (none, { n with calls := n.calls + 1, lastError := n.wsaError n.calls })
  else (some n.calls, { n with calls := n.calls + 1 })

/-- A new socket, entered in the ledger. -/
def openSocket : NetM Int := fun n => (n.next, { n with live := n.next ::ₘ n.live, next := n.next + 1 })

/-- `socket()`: a new socket, or `-1`. -/
def socket : NetM Int := do
  match ← wsaCall with
  | none => return -1
  | some _ => openSocket

/-- `bind`, `listen` and `connect`: `0`, or `-1` when Winsock fails. -/
def wsaStatus : NetM Int := do
  return if (← wsaCall).isSome then 0 else -1

/-- The address length and port call `k` writes back. -/
def addrOut (k : Nat) : NetM (Nat × Nat) := fun n => ((n.addrLen k, n.addrPort k), n)

/-- `getsockname(s, &sa, &slen)`: `0` and the length and port written back, or `-1`. -/
def getsockname : NetM (Int × Option (Nat × Nat)) := do
  match ← wsaCall with
  | none => return (-1, none)
  | some k => return (0, some (← addrOut k))

/-- `accept(list, &sa, &slen)`: a new socket and the peer's length and port, or `-1`. -/
def accept : NetM (Int × Option (Nat × Nat)) := do
  match ← wsaCall with
  | none => return (-1, none)
  | some k =>
    let out ← addrOut k
    return (← openSocket, some out)

/-- `closesocket`. -/
def closesocket (s : Int) : NetM Unit := modify fun n => { n with live := n.live.erase s.toNat }

/-- `sizeof(struct sockaddr_in)`. -/
def SOCKADDR_IN_LEN : Nat := 16

/-! ## The function -/

/-- The `failed:` label: `errno` from `res`, and every socket opened so far closed. -/
def socketpairFailed (res list s1 s2 : Int) : NetM (Int × Option (Int × Int)) := do
  modify fun n => { n with errno := if res = -1 then .wsa n.lastError else .EFAULT }
  if list ≠ -1 then closesocket list
  if s1 ≠ -1 then closesocket s1
  if s2 ≠ -1 then closesocket s2
  return (-1, none)

/-- From `getsockname(s1, ...)` on, once `accept` has given `s2` and the peer's port `port2`: the
sanity check, then the listener closed and the pair handed out. -/
def checkPair (list s1 s2 : Int) (slen port2 : Nat) : NetM (Int × Option (Int × Int)) := do
  -- getsockname(s1, &sa1, &slen)
  let (res, sa1) ← getsockname
  let slen := (sa1.map Prod.fst).getD slen
  if res = -1 ∨ slen ≠ SOCKADDR_IN_LEN then return ← socketpairFailed res list s1 s2
  if sa1.map Prod.snd ≠ some port2 then return ← socketpairFailed res list s1 s2
  closesocket list
  return (0, some (s1, s2))

/-- From `accept(list, ...)` on. -/
def acceptPair (list s1 res : Int) (slen : Nat) : NetM (Int × Option (Int × Int)) := do
  let (s2, sa2) ← accept
  let slen := (sa2.map Prod.fst).getD slen
  if s2 = -1 ∨ slen ≠ SOCKADDR_IN_LEN then return ← socketpairFailed res list s1 s2
  checkPair list s1 s2 slen ((sa2.map Prod.snd).getD 0)

/-- From `socket()` for the connecting end on. -/
def connectPair (list res : Int) (slen : Nat) : NetM (Int × Option (Int × Int)) := do
  let s1 ← socket
  if s1 = -1 then return ← socketpairFailed res list s1 (-1)
  -- connect(s1, &sa1)
  let res ← wsaStatus
  if res = -1 then return ← socketpairFailed res list s1 (-1)
  acceptPair list s1 res slen

/-- From `bind` on, once the listening socket is open. -/
def listenPair (list : Int) : NetM (Int × Option (Int × Int)) := do
  -- bind(list, &sa1)
  let res ← wsaStatus
  if res = -1 then return ← socketpairFailed res list (-1) (-1)
  -- listen(list, 1)
  let res ← wsaStatus
  if res = -1 then return ← socketpairFailed res list (-1) (-1)
  -- getsockname(list, &sa1, &slen)
  let (res, sa1) ← getsockname
  let slen := (sa1.map Prod.fst).getD SOCKADDR_IN_LEN
  if res = -1 ∨ slen ≠ SOCKADDR_IN_LEN then return ← socketpairFailed res list (-1) (-1)
  connectPair list res slen

/-- `win32_socketpair(d, typ, proto, sv)`, `sv` saying whether `sv` is not `NULL`: the result, and
what `sv[0]` and `sv[1]` receive. The labels of the C function fall through from one block to the
next: `listenPair`, `connectPair`, `acceptPair` and `checkPair`. -/
def win32_socketpair (d proto : Int) (sv : Bool) : NetM (Int × Option (Int × Int)) := do
  if (d ≠ AF_INET ∧ d ≠ AF_UNIX) ∨ proto ≠ 0 ∨ !sv then
    modify fun n => { n with errno := .EINVAL }
    return (-1, none)
  let list ← socket
  if list = -1 then return (-1, none)
  listenPair list

/-! ## What each call does -/

@[simp] theorem wsaCall_run (n : Net) :
    wsaCall.run n =
      if n.fails n.calls then (none, { n with calls := n.calls + 1, lastError := n.wsaError n.calls })
      else (some n.calls, { n with calls := n.calls + 1 }) := rfl

@[simp] theorem openSocket_run (n : Net) :
    openSocket.run n = ((n.next : Int), { n with live := n.next ::ₘ n.live, next := n.next + 1 }) :=
  rfl

@[simp] theorem addrOut_run (k : Nat) (n : Net) : (addrOut k).run n = ((n.addrLen k, n.addrPort k), n) :=
  rfl

@[simp] theorem closesocket_run (s : Int) (n : Net) :
    (closesocket s).run n = ((), { n with live := n.live.erase s.toNat }) := rfl

@[simp] theorem socket_run (n : Net) :
    socket.run n =
      if n.fails n.calls then (-1, { n with calls := n.calls + 1, lastError := n.wsaError n.calls })
      else ((n.next : Int),
        { n with calls := n.calls + 1, next := n.next + 1, live := n.next ::ₘ n.live }) := by
  unfold socket
  split_ifs with f <;> simp [f]

@[simp] theorem wsaStatus_run (n : Net) :
    wsaStatus.run n =
      if n.fails n.calls then (-1, { n with calls := n.calls + 1, lastError := n.wsaError n.calls })
      else (0, { n with calls := n.calls + 1 }) := by
  unfold wsaStatus
  split_ifs with f <;> simp [f]

@[simp] theorem getsockname_run (n : Net) :
    getsockname.run n =
      if n.fails n.calls then
        ((-1, none), { n with calls := n.calls + 1, lastError := n.wsaError n.calls })
      else ((0, some (n.addrLen n.calls, n.addrPort n.calls)), { n with calls := n.calls + 1 }) := by
  unfold getsockname
  split_ifs with f <;> simp [f]

@[simp] theorem accept_run (n : Net) :
    accept.run n =
      if n.fails n.calls then
        ((-1, none), { n with calls := n.calls + 1, lastError := n.wsaError n.calls })
      else (((n.next : Int), some (n.addrLen n.calls, n.addrPort n.calls)),
        { n with calls := n.calls + 1, next := n.next + 1, live := n.next ::ₘ n.live }) := by
  unfold accept
  split_ifs with f <;> simp [f]

/-! ## The ledger -/

/-- The ledger `live` with the socket a local holds: nothing more for `-1`. -/
def held (s : Int) (live : Multiset Nat) : Multiset Nat := if s = -1 then live else s.toNat ::ₘ live

@[simp] theorem held_none (live : Multiset Nat) : held (-1) live = live := rfl

@[simp] theorem held_some (k : Nat) (live : Multiset Nat) : held k live = k ::ₘ live := by
  simp [held, show (k : Int) ≠ -1 by omega]

/-- The ledger `live` once the socket a local holds is closed: nothing changes for `-1`. -/
def unheld (s : Int) (live : Multiset Nat) : Multiset Nat :=
  if s = -1 then live else live.erase s.toNat

@[simp] theorem unheld_held (s : Int) (live : Multiset Nat) : unheld s (held s live) = live := by
  by_cases h : s = -1 <;> simp [unheld, held, h]

/-- `failed:` sets `errno` and closes the sockets the locals hold. -/
theorem socketpairFailed_eq (res list s1 s2 : Int) (m : Net) :
    (socketpairFailed res list s1 s2).run m =
      ((-1, none), { m with
        errno := if res = -1 then .wsa m.lastError else .EFAULT
        live := unheld s2 (unheld s1 (unheld list m.live)) }) := by
  unfold socketpairFailed unheld
  by_cases c1 : list = -1 <;> by_cases c2 : s1 = -1 <;> by_cases c3 : s2 = -1 <;>
    simp only [c1, c2, c3, ne_eq, not_true_eq_false, not_false_eq_true, if_true, if_false] <;> rfl

/-- `failed:` returns `-1`, with every socket the locals hold closed again. -/
theorem socketpairFailed_ledger (res list s1 s2 : Int) (m : Net) (base : Multiset Nat)
    (live : m.live = held list (held s1 (held s2 base))) :
    Prod.map id Net.live ((socketpairFailed res list s1 s2).run m) = ((-1, none), base) := by
  simp [socketpairFailed_eq, live]

/-! Each block from `bind` on, stated as what it returns and which sockets it leaves open, with the
ledger `base` under the sockets the locals hold: the pair and `base` when the rest of the calls go
as the code needs, and `base` alone otherwise. -/

theorem checkPair_ledger (l a b : Nat) (slen port2 : Nat) (m : Net) (base : Multiset Nat)
    (live : m.live = l ::ₘ a ::ₘ b ::ₘ base) :
    Prod.map id Net.live ((checkPair l a b slen port2).run m) =
      if m.fails m.calls = false ∧ m.addrLen m.calls = SOCKADDR_IN_LEN ∧ m.addrPort m.calls = port2
      then ((0, some ((a : Int), (b : Int))), a ::ₘ b ::ₘ base) else ((-1, none), base) := by
  have failed (res : Int) (m' : Net) (same : m'.live = m.live) :=
    socketpairFailed_ledger res l a b m' base (by simpa [same] using live)
  simp only [checkPair, bind_pure_comp, pure_bind, StateT.run_bind, getsockname_run, Id.bind_eq]
  by_cases f : m.fails m.calls
  · simpa [f] using failed (-1) _ rfl
  by_cases len : m.addrLen m.calls = SOCKADDR_IN_LEN
  · by_cases port : m.addrPort m.calls = port2
    · simp [f, len, port, live]
    · simpa [f, len, port] using failed 0 _ rfl
  · simpa [f, len] using failed 0 _ rfl

theorem cons_rotate (b l a : Nat) (s : Multiset Nat) : b ::ₘ l ::ₘ a ::ₘ s = l ::ₘ a ::ₘ b ::ₘ s := by
  rw [Multiset.cons_swap b l, Multiset.cons_swap b a]

theorem acceptPair_ledger (l a : Nat) (res : Int) (slen : Nat) (m : Net) (base : Multiset Nat)
    (live : m.live = l ::ₘ a ::ₘ base) :
    Prod.map id Net.live ((acceptPair l a res slen).run m) =
      if m.fails m.calls = false ∧ m.addrLen m.calls = SOCKADDR_IN_LEN ∧
          m.fails (m.calls + 1) = false ∧ m.addrLen (m.calls + 1) = SOCKADDR_IN_LEN ∧
          m.addrPort (m.calls + 1) = m.addrPort m.calls
      then ((0, some ((a : Int), (m.next : Int))), a ::ₘ m.next ::ₘ base) else ((-1, none), base) := by
  simp only [acceptPair, StateT.run_bind, accept_run, Id.bind_eq]
  by_cases f : m.fails m.calls
  · simpa [f] using socketpairFailed_ledger (-1) l a (-1) _ base (by simpa using live)
  have rot : m.next ::ₘ m.live = l ::ₘ a ::ₘ m.next ::ₘ base := by rw [live, cons_rotate]
  by_cases len : m.addrLen m.calls = SOCKADDR_IN_LEN
  · simp only [f, len, Bool.false_eq_true, ↓reduceIte, Option.map_some', Option.getD_some, ne_eq,
      not_true_eq_false, or_false]
    refine Eq.trans (checkPair_ledger _ _ _ _ _ _ base rot) ?_
    simp
  · simpa [f, len] using socketpairFailed_ledger _ l a m.next _ base (by simpa using rot)

theorem connectPair_ledger (l : Nat) (res : Int) (slen : Nat) (m : Net) (base : Multiset Nat)
    (live : m.live = l ::ₘ base) :
    Prod.map id Net.live ((connectPair l res slen).run m) =
      if m.fails m.calls = false ∧ m.fails (m.calls + 1) = false ∧
          m.fails (m.calls + 2) = false ∧ m.addrLen (m.calls + 2) = SOCKADDR_IN_LEN ∧
          m.fails (m.calls + 3) = false ∧ m.addrLen (m.calls + 3) = SOCKADDR_IN_LEN ∧
          m.addrPort (m.calls + 3) = m.addrPort (m.calls + 2)
      then ((0, some ((m.next : Int), ((m.next + 1 : Nat) : Int))), m.next ::ₘ (m.next + 1) ::ₘ base)
      else ((-1, none), base) := by
  simp only [connectPair, StateT.run_bind, socket_run, Id.bind_eq]
  by_cases f : m.fails m.calls
  · simpa [f] using socketpairFailed_ledger res l (-1) (-1) _ base (by simpa using live)
  have swap : m.next ::ₘ m.live = l ::ₘ m.next ::ₘ base := by rw [live, Multiset.cons_swap]
  by_cases g : m.fails (m.calls + 1)
  · simpa [f, g] using socketpairFailed_ledger (-1) l m.next (-1) _ base (by simpa using swap)
  · simp [f, g]
    refine Eq.trans (acceptPair_ledger _ _ _ _ _ base swap) ?_
    simp [Nat.add_assoc]

theorem listenPair_ledger (l : Nat) (m : Net) (base : Multiset Nat) (live : m.live = l ::ₘ base) :
    Prod.map id Net.live ((listenPair l).run m) =
      if m.fails m.calls = false ∧ m.fails (m.calls + 1) = false ∧
          m.fails (m.calls + 2) = false ∧ m.addrLen (m.calls + 2) = SOCKADDR_IN_LEN ∧
          m.fails (m.calls + 3) = false ∧ m.fails (m.calls + 4) = false ∧
          m.fails (m.calls + 5) = false ∧ m.addrLen (m.calls + 5) = SOCKADDR_IN_LEN ∧
          m.fails (m.calls + 6) = false ∧ m.addrLen (m.calls + 6) = SOCKADDR_IN_LEN ∧
          m.addrPort (m.calls + 6) = m.addrPort (m.calls + 5)
      then ((0, some ((m.next : Int), ((m.next + 1 : Nat) : Int))), m.next ::ₘ (m.next + 1) ::ₘ base)
      else ((-1, none), base) := by
  have failed (res : Int) (m' : Net) (same : m'.live = m.live) :=
    socketpairFailed_ledger res l (-1) (-1) m' base (by simpa [same] using live)
  simp only [listenPair, bind_pure, pure_bind, StateT.run_bind, wsaStatus_run, Id.bind_eq]
  by_cases f : m.fails m.calls
  · simpa [f] using failed (-1) _ rfl
  simp only [f, Bool.false_eq_true, ↓reduceIte, zero_eq_neg, one_ne_zero, bind_pure, pure_bind,
    StateT.run_bind, wsaStatus_run, getsockname_run, Id.bind_eq]
  by_cases g : m.fails (m.calls + 1)
  · simpa [g] using failed (-1) _ rfl
  by_cases h : m.fails (m.calls + 1 + 1)
  · simpa [g, h] using failed (-1) _ rfl
  by_cases len : m.addrLen (m.calls + 1 + 1) = SOCKADDR_IN_LEN
  · simp [g, h, len]
    refine Eq.trans (connectPair_ledger _ _ _ _ base live) ?_
    simp [Nat.add_assoc]
  · simpa [g, h, len] using failed 0 _ rfl

/-- What `win32_socketpair` may do to the ledger: hand out two new sockets and keep nothing else
open, or fail with every socket it opened closed again. -/
def PairLedger (n : Net) : (Int × Option (Int × Int)) × Net → Prop
  | ((ret, sv), n') =>
    (ret = 0 ∧ ∃ s1 s2 : Nat, sv = some ((s1 : Int), (s2 : Int)) ∧ s1 ≠ s2 ∧ s1 ∉ n.live ∧
        s2 ∉ n.live ∧ n'.live = s1 ::ₘ s2 ::ₘ n.live) ∨
      (ret = -1 ∧ sv = none ∧ n'.live = n.live)

/-- Two new sockets handed out and left open over the ledger, or nothing left open, is what
`PairLedger` allows. -/
theorem PairLedger.of_ledger {n : Net} (numbered : n.Numbered) {s1 s2 : Nat}
    (order : n.next ≤ s1 ∧ s1 < s2) {ok : Prop} [Decidable ok] {r : (Int × Option (Int × Int)) × Net}
    (ledger : Prod.map id Net.live r =
      if ok then ((0, some ((s1 : Int), (s2 : Int))), s1 ::ₘ s2 ::ₘ n.live) else ((-1, none), n.live)) :
    PairLedger n r := by
  rcases r with ⟨⟨ret, sv⟩, n'⟩
  have fresh (s : Nat) (above : n.next ≤ s) : s ∉ n.live := fun mem => by
    have := numbered _ mem; omega
  split_ifs at ledger <;> simp only [Prod.map, id, Prod.mk.injEq] at ledger
  · exact .inl ⟨ledger.1.1, s1, s2, ledger.1.2, by omega, fresh _ order.1, fresh _ (by omega), ledger.2⟩
  · exact .inr ⟨ledger.1.1, ledger.1.2, ledger.2⟩

/-- Every path of `win32_socketpair` leaves the ledger as it found it, or with exactly the two
sockets it hands back in `sv` added: the listener is closed on success, and on a failure every
socket the call opened is closed again. -/
theorem win32_socketpair_ledger (d proto : Int) (sv : Bool) (n : Net) (numbered : n.Numbered) :
    PairLedger n ((win32_socketpair d proto sv).run n) := by
  unfold win32_socketpair
  split_ifs with bad
  · simp [PairLedger]
  by_cases f : n.fails n.calls
  · simp [f, PairLedger]
  · simp [f]
    exact .of_ledger numbered ⟨Nat.le_succ _, Nat.lt_succ_self _⟩ (listenPair_ledger _ _ n.live rfl)

/-- A Winsock where every call succeeds, with no socket open before. -/
theorem win32_socketpair_ledger_calm :
    Net.Numbered ⟨0, 0, 0, fun _ => false, fun _ => 0, fun _ => SOCKADDR_IN_LEN, fun _ => 0, 0, .EINVAL⟩ ∧
      PairLedger ⟨0, 0, 0, fun _ => false, fun _ => 0, fun _ => SOCKADDR_IN_LEN, fun _ => 0, 0, .EINVAL⟩
        ((win32_socketpair AF_INET 0 true).run
          ⟨0, 0, 0, fun _ => false, fun _ => 0, fun _ => SOCKADDR_IN_LEN, fun _ => 0, 0, .EINVAL⟩) :=
  ⟨fun _ mem => absurd mem (Multiset.not_mem_zero _),
    win32_socketpair_ledger _ _ _ _ fun _ mem => absurd mem (Multiset.not_mem_zero _)⟩

/-! ## What `win32_socketpair` returns -/

/-- What Winsock does when `win32_socketpair` hands out a pair: the eight calls from the listener's
`socket()` to `getsockname` on the connecting end succeed, the three addresses written back have
the length of a `sockaddr_in`, and the connecting end has the port of the accepted peer. -/
@[mk_iff]
structure Net.PairReady (n : Net) : Prop where
  succeed : ∀ j < 8, n.fails (n.calls + j) = false
  listenerLen : n.addrLen (n.calls + 3) = SOCKADDR_IN_LEN
  peerLen : n.addrLen (n.calls + 6) = SOCKADDR_IN_LEN
  nameLen : n.addrLen (n.calls + 7) = SOCKADDR_IN_LEN
  samePort : n.addrPort (n.calls + 7) = n.addrPort (n.calls + 6)

instance (n : Net) : Decidable n.PairReady := decidable_of_iff _ (Net.pairReady_iff n).symm

/-- The conditions of `PairReady`, call by call. -/
theorem Net.pairReady_iff_calls (n : Net) : n.PairReady ↔
    n.fails n.calls = false ∧ n.fails (n.calls + 1) = false ∧ n.fails (n.calls + 2) = false ∧
      n.fails (n.calls + 3) = false ∧ n.addrLen (n.calls + 3) = SOCKADDR_IN_LEN ∧
      n.fails (n.calls + 4) = false ∧ n.fails (n.calls + 5) = false ∧
      n.fails (n.calls + 6) = false ∧ n.addrLen (n.calls + 6) = SOCKADDR_IN_LEN ∧
      n.fails (n.calls + 7) = false ∧ n.addrLen (n.calls + 7) = SOCKADDR_IN_LEN ∧
      n.addrPort (n.calls + 7) = n.addrPort (n.calls + 6) := by
  constructor
  · rintro ⟨succeed, l3, l6, l7, port⟩
    exact ⟨succeed 0 (by decide), succeed 1 (by decide), succeed 2 (by decide),
      succeed 3 (by decide), l3, succeed 4 (by decide), succeed 5 (by decide),
      succeed 6 (by decide), l6, succeed 7 (by decide), l7, port⟩
  · rintro ⟨f0, f1, f2, f3, l3, f4, f5, f6, l6, f7, l7, port⟩
    refine ⟨fun j lt => ?_, l3, l6, l7, port⟩
    interval_cases j <;> assumption

/-- **What `win32_socketpair` returns and leaves open.** It hands out a pair exactly when the
arguments are valid and Winsock does what `PairReady` says; the pair is then the connecting socket
and the accepted one, the two opened after the listener, and they are all that is left open besides
what was open before. On every other path it returns `-1`, leaves `sv` alone and closes every socket
it opened. -/
theorem win32_socketpair_result (d proto : Int) (sv : Bool) (n : Net) :
    Prod.map id Net.live ((win32_socketpair d proto sv).run n) =
      if (d = AF_INET ∨ d = AF_UNIX) ∧ proto = 0 ∧ sv = true ∧ n.PairReady
      then ((0, some (((n.next + 1 : Nat) : Int), ((n.next + 2 : Nat) : Int))),
        (n.next + 1) ::ₘ (n.next + 2) ::ₘ n.live)
      else ((-1, none), n.live) := by
  unfold win32_socketpair
  by_cases bad : (d ≠ AF_INET ∧ d ≠ AF_UNIX) ∨ proto ≠ 0 ∨ !sv
  · have invalid : ¬((d = AF_INET ∨ d = AF_UNIX) ∧ proto = 0 ∧ sv = true ∧ n.PairReady) := by
      rintro ⟨family, rfl, rfl, -⟩
      rcases family with rfl | rfl <;> simp at bad
    rw [if_pos bad, if_neg invalid]
    rfl
  have valid : (d = AF_INET ∨ d = AF_UNIX) ∧ proto = 0 ∧ sv = true := by
    simp only [not_or, not_and_or, ne_eq, not_not, Bool.not_eq_true', Bool.not_eq_false] at bad
    exact ⟨bad.1, bad.2⟩
  rw [if_neg bad]
  simp only [valid, true_and]
  by_cases f : n.fails n.calls
  · simp [f, Net.pairReady_iff_calls]
  · simp [f]
    refine Eq.trans (listenPair_ledger _ _ n.live rfl) ?_
    simp [f, Net.pairReady_iff_calls, Nat.add_assoc]

/-! ## `errno` -/

/-- The calls before `socket()` for the connecting end all succeed. -/
theorem win32_socketpair_connect (d proto : Int) (n : Net)
    (args : ¬((d ≠ AF_INET ∧ d ≠ AF_UNIX) ∨ proto ≠ 0 ∨ !true))
    (ok : ∀ j < 4, n.fails (n.calls + j) = false) (named : n.addrLen (n.calls + 3) = SOCKADDR_IN_LEN) :
    (win32_socketpair d proto true).run n =
      (connectPair n.next 0 SOCKADDR_IN_LEN).run
        { n with calls := n.calls + 4, next := n.next + 1, live := n.next ::ₘ n.live } := by
  have f0 : n.fails n.calls = false := ok 0 (by decide)
  have f1 : n.fails (n.calls + 1) = false := ok 1 (by decide)
  have f2 : n.fails (n.calls + 1 + 1) = false := ok 2 (by decide)
  have f3 : n.fails (n.calls + 1 + 1 + 1) = false := ok 3 (by decide)
  unfold win32_socketpair
  rw [if_neg args]
  simp [listenPair, f0, f1, f2, f3, named]

/-- `socket()` for the connecting end and `connect` succeed. -/
theorem connectPair_accept (l : Nat) (res : Int) (slen : Nat) (m : Net)
    (f : m.fails m.calls = false) (g : m.fails (m.calls + 1) = false) :
    (connectPair l res slen).run m =
      (acceptPair l m.next 0 slen).run
        { m with calls := m.calls + 2, next := m.next + 1, live := m.next ::ₘ m.live } := by
  simp [connectPair, f, g]

/-- When the `socket()` for the connecting end (call 4) or the `accept()` (call 6) is the call
that fails, `res` still holds the `0` of the call before it, and `errno` is `EFAULT`, whatever
Winsock's error was. -/
theorem win32_socketpair_efault (d proto : Int) (n : Net) (k : Nat)
    (valid : (d = AF_INET ∨ d = AF_UNIX) ∧ proto = 0) (which : k = 4 ∨ k = 6)
    (before : ∀ j < k, n.fails (n.calls + j) = false)
    (named : n.addrLen (n.calls + 3) = SOCKADDR_IN_LEN) (fails : n.fails (n.calls + k) = true) :
    ((win32_socketpair d proto true).run n).1 = (-1, none) ∧
      ((win32_socketpair d proto true).run n).2.errno = .EFAULT := by
  have args : ¬((d ≠ AF_INET ∧ d ≠ AF_UNIX) ∨ proto ≠ 0 ∨ !true) := by
    rcases valid with ⟨rfl | rfl, rfl⟩ <;> decide
  rw [win32_socketpair_connect d proto n args (fun j lt => before j (by omega)) named]
  rcases which with rfl | rfl
  · simp [connectPair, fails, socketpairFailed_eq]
  · rw [connectPair_accept _ _ _ _ (before 4 (by decide)) (before 5 (by decide))]
    simp [acceptPair, show n.calls + 4 + 2 = n.calls + 6 by omega, fails, socketpairFailed_eq]

/-- A Winsock where the `accept()` fails with `WSAECONNRESET`. -/
example :
    ((win32_socketpair AF_INET 0 true).run
        ⟨0, 0, 0, fun k => k == 6, fun _ => 10054, fun _ => SOCKADDR_IN_LEN, fun _ => 0, 0, .EINVAL⟩).1 =
        (-1, none) ∧
      ((win32_socketpair AF_INET 0 true).run
        ⟨0, 0, 0, fun k => k == 6, fun _ => 10054, fun _ => SOCKADDR_IN_LEN, fun _ => 0, 0, .EINVAL⟩).2.errno =
        .EFAULT := by
  decide

end Libusual.Socket
