import Mathlib

/-!
# Socket options

`socket_set_nonblocking` reads the file status flags with `fcntl(F_GETFL)`, turns `O_NONBLOCK` on
or off and writes them back; `socket_setup` asks for `SO_NOSIGPIPE` where the platform has it,
marks the descriptor close-on-exec and sets the blocking mode; `socket_set_keepalive` turns
`SO_KEEPALIVE` on or off and passes the timings through whichever of the TCP options, or the
Windows `SIO_KEEPALIVE_VALS`, the platform has; `getpeereid` asks for the credentials of the peer
of a Unix socket.

The kernel is a record of what these calls read and write, and an oracle: call number `k` fails
with `errno` `e` exactly when `refuses k = some e`. `Platform` says which of the options the
preprocessor saw.

`socket_set_nonblocking` changes the `O_NONBLOCK` bit and no other bit of the flags, and only when
both calls succeed (`socket_set_nonblocking_spec`). `socket_setup` succeeds exactly when the
kernel accepts every call, and then the socket is close-on-exec, in the mode asked for, and has
`SO_NOSIGPIPE` where the platform has it (`socket_setup_spec`). On Windows the timings reach
`SIO_KEEPALIVE_VALS` in milliseconds, five minutes and fifteen seconds standing in for a zero,
converted to the `ULONG` fields of `struct tcp_keepalive`, so modulo `2^32`; a time past
`INT_MAX / 1000` seconds overflows the `int` product first (`socket_set_keepalive_windows`).
Its four TCP blocks are one loop over the timings the platform has and the caller gave
(`runBlocks_loop`): elsewhere turning keepalive on succeeds exactly when the kernel accepts
`SO_KEEPALIVE` and accepts, or refuses with `ENOPROTOOPT`, each of them
(`socket_set_keepalive_timings`). On every platform its result is decided by the kernel's answers
to `SO_KEEPALIVE`, to each timing in turn and to `WSAIoctl`, and by whether a Windows timing
overflows (`socket_set_keepalive_result`). `getpeereid` writes the credentials exactly when the
kernel hands them over, and with `getpeerucred` it can write them and still return `-1`
(`getpeereid_spec`).
-/

set_option autoImplicit false

namespace Libusual.Socket

/-- The socket options `socket.c` sets. -/
inductive SockOpt where
  | SO_NOSIGPIPE
  | SO_KEEPALIVE
  | TCP_KEEPALIVE
  | TCP_KEEPIDLE
  | TCP_KEEPINTVL
  | TCP_KEEPCNT
  deriving DecidableEq, Repr

/-- Which of the options the platform defines. -/
structure Platform where
  SO_NOSIGPIPE : Bool
  TCP_KEEPALIVE : Bool
  TCP_KEEPIDLE : Bool
  TCP_KEEPINTVL : Bool
  TCP_KEEPCNT : Bool
  SIO_KEEPALIVE_VALS : Bool
  SO_PEERCRED : Bool
  HAVE_GETPEERUCRED : Bool
  deriving DecidableEq, Repr

/-- What the kernel keeps for the socket, and how it answers. -/
structure Kern where
  /-- The file status flags, `F_GETFL`. -/
  statusFlags : BitVec 32
  /-- The descriptor flags, `F_GETFD`. -/
  fdFlags : BitVec 32
  /-- The value each socket option was last set to. -/
  sockopt : SockOpt → Option Int
  /-- The `ULONG` fields `onoff`, `keepalivetime` and `keepaliveinterval` last given to
  `SIO_KEEPALIVE_VALS`. -/
  keepaliveVals : Option (BitVec 32 × BitVec 32 × BitVec 32)
  /-- The user and group of the peer. -/
  peer : Int × Int
  /-- The number of the next call. -/
  calls : Nat
  /-- Call `k` fails with `errno` `e` exactly when `refuses k = some e`. -/
  refuses : Nat → Option Nat
  errno : Nat

/-- Computations against the kernel. -/
abbrev KernM := StateM Kern

/-- `O_NONBLOCK`, as Linux numbers it. -/
def O_NONBLOCK : BitVec 32 := 0o4000#32

/-- `FD_CLOEXEC`. -/
def FD_CLOEXEC : BitVec 32 := 1#32

/-- `ENOPROTOOPT`, as Linux numbers it. -/
def ENOPROTOOPT : Nat := 92

/-- `ENOSYS`, as Linux numbers it. -/
def ENOSYS : Nat := 38

/-- `INT_MAX`. -/
def intMax : Int := 2 ^ 31 - 1

/-! ## The calls -/

/-- One call: whether the kernel accepts it; a refusal sets `errno`. -/
def sysCall : KernM Bool := fun k =>
  match k.refuses k.calls with
  | none => (true, { k with calls := k.calls + 1 })
  | some e => (false, { k with calls := k.calls + 1, errno := e })

/-- `fcntl(fd, F_GETFL, 0)`: the flags as an `int`, or `-1`. -/
def fcntlGetfl : KernM Int := do
  if ← sysCall then return (← get).statusFlags.toInt else return -1

/-- `fcntl(fd, F_SETFL, flags)`: `0`, or `-1`. -/
def fcntlSetfl (flags : BitVec 32) : KernM Int := do
  if ← sysCall then
    modify fun k => { k with statusFlags := flags }
    return 0
  else return -1

/-- `fcntl(fd, F_SETFD, flags)`: `0`, or `-1`. -/
def fcntlSetfd (flags : BitVec 32) : KernM Int := do
  if ← sysCall then
    modify fun k => { k with fdFlags := flags }
    return 0
  else return -1

/-- `setsockopt(fd, level, opt, &val, sizeof(val))`: `0`, or `-1`. -/
def setsockopt (opt : SockOpt) (val : Int) : KernM Int := do
  if ← sysCall then
    modify fun k => { k with sockopt := Function.update k.sockopt opt (some val) }
    return 0
  else return -1

/-- `WSAIoctl(fd, SIO_KEEPALIVE_VALS, &vals, ...)`: `0`, or an error. -/
def wsaIoctl (vals : BitVec 32 × BitVec 32 × BitVec 32) : KernM Int := do
  if ← sysCall then
    modify fun k => { k with keepaliveVals := some vals }
    return 0
  else return -1

/-- `getsockopt(fd, SOL_SOCKET, SO_PEERCRED, ...)`, or `getpeerucred` and `ucred_geteuid`,
`ucred_getegid`: `0` and the peer's user and group, or `-1`. -/
def peerCred : KernM (Int × Option (Int × Int)) := do
  if ← sysCall then return (0, some (← get).peer) else return (-1, none)

/-! ## The functions -/

/-- `socket_set_nonblocking(fd, non_block)`. -/
def socket_set_nonblocking (non_block : Bool) : KernM Bool := do
  let flags ← fcntlGetfl
  if flags < 0 then return false
  -- the `int` as its 32 bits
  let flags := BitVec.ofInt 32 flags
  let flags := if non_block then flags ||| O_NONBLOCK else flags &&& ~~~O_NONBLOCK
  if (← fcntlSetfl flags) < 0 then return false
  return true

/-- `socket_setup(sock, non_block)`. -/
def socket_setup (plat : Platform) (non_block : Bool) : KernM Bool := do
  if plat.SO_NOSIGPIPE then
    if (← setsockopt .SO_NOSIGPIPE 1) < 0 then return false
  if (← fcntlSetfd FD_CLOEXEC) < 0 then return false
  if !(← socket_set_nonblocking non_block) then return false
  return true

/-- One TCP timing of `socket_set_keepalive`, when the platform has the option and the caller
gave a value: `false` when the call failed for another reason than `ENOPROTOOPT`. -/
def keepaliveOption (given : Bool) (opt : SockOpt) (val : Int) : KernM Bool := do
  if given then
    let res ← setsockopt opt val
    if res < 0 ∧ (← get).errno ≠ ENOPROTOOPT then return false
  return true

/-- `keepidle * 1000` in `int`: `none` when the product overflows. -/
def intMs (seconds : Int) : Option Int :=
  if -intMax - 1 ≤ seconds * 1000 ∧ seconds * 1000 ≤ intMax then some (seconds * 1000) else none

/-- The Windows block of `socket_set_keepalive`: `none` for an overflow. -/
def keepaliveVals (keepidle keepintvl : Int) : KernM (Option Bool) := do
  let keepidle := if keepidle = 0 then 5 * 60 else keepidle
  let keepintvl := if keepintvl = 0 then 15 else keepintvl
  match intMs keepidle, intMs keepintvl with
  | some time, some interval =>
    -- `vals.keepalivetime = keepidle * 1000`: the `int` converted to a `ULONG`
    return some ((← wsaIoctl (1, BitVec.ofInt 32 time, BitVec.ofInt 32 interval)) = 0)
  | _, _ => return none

/-- `socket_set_keepalive(fd, onoff, keepidle, keepintvl, keepcnt)`: `none` for the overflow of
the Windows block. -/
def socket_set_keepalive (plat : Platform) (onoff keepidle keepintvl keepcnt : Int) :
    KernM (Option Bool) := do
  if onoff = 0 then return some ((← setsockopt .SO_KEEPALIVE 0) = 0)
  if (← setsockopt .SO_KEEPALIVE 1) < 0 then return some false
  if !(← keepaliveOption (plat.TCP_KEEPALIVE && keepidle ≠ 0) .TCP_KEEPALIVE keepidle) then
    return some false
  if !(← keepaliveOption (plat.TCP_KEEPIDLE && keepidle ≠ 0) .TCP_KEEPIDLE keepidle) then
    return some false
  if !(← keepaliveOption (plat.TCP_KEEPINTVL && keepintvl ≠ 0) .TCP_KEEPINTVL keepintvl) then
    return some false
  if !(← keepaliveOption (plat.TCP_KEEPCNT && keepcnt > 0) .TCP_KEEPCNT keepcnt) then
    return some false
  if plat.SIO_KEEPALIVE_VALS && (keepidle ≠ 0 || keepintvl ≠ 0) then
    return ← keepaliveVals keepidle keepintvl
  return some true

/-- `getpeereid(fd, uid_p, gid_p)`: the result, and what `*uid_p` and `*gid_p` receive. -/
def getpeereid (plat : Platform) : KernM (Int × Option (Int × Int)) := do
  if plat.SO_PEERCRED then
    let (res, cred) ← peerCred
    if res ≥ 0 then return (0, cred)
    return (-1, none)
  else if plat.HAVE_GETPEERUCRED then
    let (res, cred) ← peerCred
    if res ≥ 0 then
      match cred with
      | some (uid, gid) => return (if uid ≥ 0 ∧ gid ≥ 0 then 0 else -1, some (uid, gid))
      | none => return (-1, none)
    return (-1, none)
  else
    modify fun k => { k with errno := ENOSYS }
    return (-1, none)

/-! ## What each call does -/

@[simp] theorem sysCall_accepts {k : Kern} (accepts : k.refuses k.calls = none) :
    sysCall.run k = (true, { k with calls := k.calls + 1 }) := by
  simp [sysCall, StateT.run, accepts]

@[simp] theorem sysCall_refuses {k : Kern} {e : Nat} (refuses : k.refuses k.calls = some e) :
    sysCall.run k = (false, { k with calls := k.calls + 1, errno := e }) := by
  simp [sysCall, StateT.run, refuses]

theorem peerCred_run (k : Kern) : peerCred.run k =
    match k.refuses k.calls with
    | none => ((0, some k.peer), { k with calls := k.calls + 1 })
    | some e => ((-1, none), { k with calls := k.calls + 1, errno := e }) := by
  cases h : k.refuses k.calls <;> simp [peerCred, h]

/-- An `int` read back as its 32 bits is the word it came from. -/
theorem ofInt_toInt (x : BitVec 32) : BitVec.ofInt 32 x.toInt = x := by
  rw [← BitVec.toInt_inj, BitVec.toInt_ofInt, BitVec.toInt_eq_toNat_bmod, Int.bmod_bmod]

theorem O_NONBLOCK_eq : O_NONBLOCK = BitVec.twoPow 32 11 := by decide

/-- Setting or clearing `O_NONBLOCK` touches bit 11 and keeps every other bit. -/
theorem getLsbD_nonblock (flags : BitVec 32) (non_block : Bool) (i : Nat) :
    (if non_block then flags ||| O_NONBLOCK else flags &&& ~~~O_NONBLOCK).getLsbD i =
      if i = 11 then non_block else flags.getLsbD i := by
  rw [O_NONBLOCK_eq]
  by_cases big : 32 ≤ i
  · have : flags.getLsbD i = false := BitVec.getLsbD_ge flags i big
    cases non_block <;>
      simp [BitVec.getLsbD_twoPow, this, show i ≠ 11 by omega, show (11 : Nat) ≠ i by omega,
        show ¬ i < 32 by omega]
  · by_cases eleven : i = 11
    · subst eleven
      cases non_block <;> simp [BitVec.getLsbD_twoPow]
    · cases non_block <;>
        simp [BitVec.getLsbD_twoPow, eleven, show i < 32 by omega, Ne.symm eleven]

/-- `socket_set_nonblocking` succeeds exactly when both `fcntl` calls do, and then it has set
`O_NONBLOCK` as asked and kept every other flag; a failure leaves the flags as they were, and the
descriptor flags and the socket options are never touched. -/
theorem socket_set_nonblocking_spec (non_block : Bool) (k : Kern) :
    let r := (socket_set_nonblocking non_block).run k
    r.2.fdFlags = k.fdFlags ∧ r.2.sockopt = k.sockopt ∧
      (∀ i, r.2.statusFlags.getLsbD i =
        if r.1 ∧ i = 11 then non_block else k.statusFlags.getLsbD i) ∧
      (r.1 = true ↔
        k.refuses k.calls = none ∧ 0 ≤ k.statusFlags.toInt ∧ k.refuses (k.calls + 1) = none) := by
  intro r
  cases h0 : k.refuses k.calls with
  | some e =>
    simp only [r, socket_set_nonblocking, fcntlGetfl, bind_pure_comp, map_pure, pure_bind, bind_assoc,
      StateT.run_bind, sysCall_refuses h0, Id.bind_eq, if_false, Bool.false_eq_true, StateT.run_pure, Id.pure_eq]
    simp
  | none =>
    simp only [r, socket_set_nonblocking, fcntlGetfl, fcntlSetfl, bind_pure_comp, map_pure, pure_bind,
      bind_assoc, StateT.run_bind, sysCall_accepts h0, Id.bind_eq, if_true, StateT.run_map, StateT.run_get,
      Id.pure_eq, Id.map_eq, h0, true_and]
    by_cases neg : k.statusFlags.toInt < 0
    · simp [neg]
    cases h1 : k.refuses (k.calls + 1) with
    | some e => simp [neg, h1]
    | none =>
      simp [neg, h1, ofInt_toInt]
      exact ⟨getLsbD_nonblock _ _, Int.not_lt.1 neg⟩

/-- What `socket_set_nonblocking` leaves when it is the last call of a caller. -/
theorem nonblocking_last (non_block : Bool) (k : Kern) :
    StateT.run (if ((socket_set_nonblocking non_block).run k).1 = false then pure false else pure true)
        ((socket_set_nonblocking non_block).run k).2 = (socket_set_nonblocking non_block).run k := by
  rcases (socket_set_nonblocking non_block).run k with ⟨_ | _, k'⟩ <;> rfl

/-- `socket_setup` succeeds exactly when the kernel accepts each of its calls and the flags it
reads are not negative; then the descriptor is close-on-exec, `O_NONBLOCK` is as asked with every
other status flag kept, and `SO_NOSIGPIPE` is on where the platform has it. -/
theorem socket_setup_spec (plat : Platform) (non_block : Bool) (k : Kern) :
    let r := (socket_setup plat non_block).run k
    (r.1 = true ↔ (∀ j < (if plat.SO_NOSIGPIPE then 4 else 3), k.refuses (k.calls + j) = none) ∧
        0 ≤ k.statusFlags.toInt) ∧
      (r.1 = true → r.2.fdFlags = FD_CLOEXEC ∧
        (∀ i, r.2.statusFlags.getLsbD i = if i = 11 then non_block else k.statusFlags.getLsbD i) ∧
        (plat.SO_NOSIGPIPE → r.2.sockopt .SO_NOSIGPIPE = some 1)) := by
  intro r
  have calls (n c : Nat) : (∀ j < n + 1, k.refuses (c + j) = none) ↔
      k.refuses c = none ∧ ∀ j < n, k.refuses (c + 1 + j) = none :=
    ⟨fun all => ⟨all 0 (by omega), fun j lt => by simpa [Nat.add_right_comm] using all (j + 1) (by omega)⟩,
      fun ⟨first, rest⟩ j lt => by
        cases j with
        | zero => exact first
        | succ j => simpa [Nat.add_right_comm] using rest j (by omega)⟩
  cases nosigpipe : plat.SO_NOSIGPIPE
  · rw [if_neg (by simp), calls 2, calls 1, calls 0]
    simp only [r, socket_setup, nosigpipe, Bool.false_eq_true, ↓reduceIte, fcntlSetfd, bind_pure_comp,
      map_pure, pure_bind, bind_assoc, StateT.run_bind, Id.bind_eq, Nat.not_lt_zero, false_imp_iff,
      imp_true_iff, and_true]
    cases h0 : k.refuses k.calls with
    | some e => simp [h0]
    | none =>
      simp [h0, nonblocking_last]
      obtain ⟨fd, -, bits, ok⟩ := socket_set_nonblocking_spec non_block
        { k with calls := k.calls + 1, fdFlags := FD_CLOEXEC }
      generalize (socket_set_nonblocking non_block).run _ = r' at fd bits ok ⊢
      rcases r' with ⟨b, k'⟩
      simp only at fd bits ok ⊢
      exact ⟨ok.trans ⟨fun ⟨a, b, c⟩ => ⟨⟨a, c⟩, b⟩, fun ⟨⟨a, c⟩, b⟩ => ⟨a, b, c⟩⟩, fun hb => ⟨fd, fun i => by simp [bits, hb]⟩⟩
  · rw [if_pos rfl, calls 3, calls 2, calls 1, calls 0]
    simp only [r, socket_setup, nosigpipe, ↓reduceIte, setsockopt, fcntlSetfd, bind_pure_comp,
      map_pure, pure_bind, bind_assoc, StateT.run_bind, Id.bind_eq, Nat.not_lt_zero, false_imp_iff,
      imp_true_iff, and_true]
    cases h0 : k.refuses k.calls with
    | some e => simp [h0]
    | none =>
      cases h1 : k.refuses (k.calls + 1) with
      | some e => simp [h0, h1]
      | none =>
        simp [h0, h1, nonblocking_last]
        obtain ⟨fd, opts, bits, ok⟩ := socket_set_nonblocking_spec non_block { k with
          sockopt := Function.update k.sockopt .SO_NOSIGPIPE (some 1), calls := k.calls + 1 + 1,
          fdFlags := FD_CLOEXEC }
        generalize (socket_set_nonblocking non_block).run _ = r' at fd opts bits ok ⊢
        rcases r' with ⟨b, k'⟩
        simp only at fd opts bits ok ⊢
        exact ⟨ok.trans ⟨fun ⟨a, b, c⟩ => ⟨⟨a, c⟩, b⟩, fun ⟨⟨a, c⟩, b⟩ => ⟨a, b, c⟩⟩, fun hb => ⟨fd, fun i => by simp [bits, hb], by simp [opts]⟩⟩

/-- The kernel after one TCP timing of `socket_set_keepalive` it accepted. -/
def Kern.setOpt (k : Kern) (given : Bool) (opt : SockOpt) (val : Int) : Kern :=
  if given then { k with calls := k.calls + 1, sockopt := Function.update k.sockopt opt (some val) }
  else k

@[simp] theorem Kern.refuses_setOpt (k : Kern) (given : Bool) (opt : SockOpt) (val : Int) :
    (k.setOpt given opt val).refuses = k.refuses := by
  cases given <;> rfl

@[simp] theorem Kern.keepaliveVals_setOpt (k : Kern) (given : Bool) (opt : SockOpt) (val : Int) :
    (k.setOpt given opt val).keepaliveVals = k.keepaliveVals := by
  cases given <;> rfl

theorem keepaliveOption_accepting (given : Bool) (opt : SockOpt) (val : Int) (k : Kern)
    (accepts : ∀ j, k.refuses j = none) :
    (keepaliveOption given opt val).run k = (true, k.setOpt given opt val) := by
  cases given <;> simp [keepaliveOption, setsockopt, Kern.setOpt, accepts]

/-- With a kernel that accepts every call, `socket_set_keepalive` turning keepalive on sets each
TCP timing the platform has and the caller gave, then runs the Windows block where there is one. -/
theorem socket_set_keepalive_accepting (plat : Platform) (k : Kern)
    (onoff keepidle keepintvl keepcnt : Int) (enabled : onoff ≠ 0)
    (accepts : ∀ j, k.refuses j = none) :
    (socket_set_keepalive plat onoff keepidle keepintvl keepcnt).run k =
      let k' := ((({ k with
          calls := k.calls + 1
          sockopt := Function.update k.sockopt .SO_KEEPALIVE (some 1) }.setOpt
            (plat.TCP_KEEPALIVE && keepidle ≠ 0) .TCP_KEEPALIVE keepidle).setOpt
            (plat.TCP_KEEPIDLE && keepidle ≠ 0) .TCP_KEEPIDLE keepidle).setOpt
            (plat.TCP_KEEPINTVL && keepintvl ≠ 0) .TCP_KEEPINTVL keepintvl).setOpt
            (plat.TCP_KEEPCNT && keepcnt > 0) .TCP_KEEPCNT keepcnt
      if plat.SIO_KEEPALIVE_VALS && (keepidle ≠ 0 || keepintvl ≠ 0) then
        (keepaliveVals keepidle keepintvl).run k'
      else (some true, k') := by
  simp [socket_set_keepalive, keepaliveOption_accepting, setsockopt, accepts, enabled]
  split_ifs <;> rfl

/-- The Windows block against a kernel that accepts `WSAIoctl`. -/
theorem keepaliveVals_accepting (keepidle keepintvl : Int) (k : Kern)
    (accepts : k.refuses k.calls = none) :
    (keepaliveVals keepidle keepintvl).run k =
      match intMs (if keepidle = 0 then 5 * 60 else keepidle),
          intMs (if keepintvl = 0 then 15 else keepintvl) with
      | some time, some interval =>
        (some true, { k with
          calls := k.calls + 1
          keepaliveVals := some (1, BitVec.ofInt 32 time, BitVec.ofInt 32 interval) })
      | _, _ => (none, k) := by
  simp only [keepaliveVals]
  generalize intMs _ = idle, intMs _ = intvl
  rcases idle with _ | _ <;> rcases intvl with _ | _ <;> simp [wsaIoctl, accepts]

/-- What the Windows block returns: `none` when a timing overflows, and otherwise whether the
kernel accepts `WSAIoctl`. -/
theorem keepaliveVals_result (keepidle keepintvl : Int) (k : Kern) :
    ((keepaliveVals keepidle keepintvl).run k).1 =
      if (intMs (if keepidle = 0 then 5 * 60 else keepidle)).isSome ∧
          (intMs (if keepintvl = 0 then 15 else keepintvl)).isSome
      then some (decide (k.refuses k.calls = none)) else none := by
  simp only [keepaliveVals]
  generalize intMs _ = idle, intMs _ = intvl
  rcases idle with _ | _ <;> rcases intvl with _ | _ <;> cases h : k.refuses k.calls <;>
    simp [wsaIoctl, h]

/-- On Windows, with keepalive turned on and a timing given, the timings reach
`SIO_KEEPALIVE_VALS` in milliseconds, five minutes and fifteen seconds standing in for a zero, as
`ULONG`s, so modulo `2^32`; a product past `INT_MAX` overflows, which is undefined behaviour,
`none`. -/
theorem socket_set_keepalive_windows (plat : Platform) (k : Kern)
    (onoff keepidle keepintvl keepcnt : Int) (windows : plat.SIO_KEEPALIVE_VALS = true)
    (enabled : onoff ≠ 0) (given : keepidle ≠ 0 ∨ keepintvl ≠ 0)
    (accepts : ∀ j, k.refuses j = none) :
    let r := (socket_set_keepalive plat onoff keepidle keepintvl keepcnt).run k
    let time := (if keepidle = 0 then 5 * 60 else keepidle) * 1000
    let interval := (if keepintvl = 0 then 15 else keepintvl) * 1000
    if -intMax - 1 ≤ time ∧ time ≤ intMax ∧ -intMax - 1 ≤ interval ∧ interval ≤ intMax then
      r.1 = some true ∧
        r.2.keepaliveVals = some (1, BitVec.ofInt 32 time, BitVec.ofInt 32 interval)
    else r.1 = none := by
  have block : (plat.SIO_KEEPALIVE_VALS && (keepidle ≠ 0 || keepintvl ≠ 0)) = true := by
    simpa [windows] using given
  simp only [socket_set_keepalive_accepting plat k _ _ _ _ enabled accepts, block, if_true]
  rw [keepaliveVals_accepting _ _ _ (by simp [accepts])]
  generalize (if keepidle = 0 then 5 * 60 else keepidle) = idle
  generalize (if keepintvl = 0 then 15 else keepintvl) = intvl
  unfold intMs
  by_cases fits : -intMax - 1 ≤ idle * 1000 ∧ idle * 1000 ≤ intMax <;>
    by_cases fits' : -intMax - 1 ≤ intvl * 1000 ∧ intvl * 1000 ≤ intMax <;>
    simp only [fits, fits', true_and, and_true, and_false, if_true, if_false]

/-- A negative idle time of five seconds and no interval: `WSAIoctl` gets `2^32 - 5000`
milliseconds and the fifteen seconds of the default. -/
example :
    let r := (socket_set_keepalive ⟨false, false, false, false, false, true, false, false⟩ 1 (-5) 0
      0).run ⟨0, 0, fun _ => none, none, (0, 0), 0, fun _ => none, 0⟩
    r.1 = some true ∧ r.2.keepaliveVals = some (1, 4294962296#32, 15000#32) := by
  decide

/-! ## The TCP timings as a loop -/

/-- The four TCP blocks of `socket_set_keepalive`: whether it runs each, the option and the value. -/
def keepaliveBlocks (plat : Platform) (keepidle keepintvl keepcnt : Int) :
    List (Bool × SockOpt × Int) :=
  [(plat.TCP_KEEPALIVE && keepidle ≠ 0, .TCP_KEEPALIVE, keepidle),
    (plat.TCP_KEEPIDLE && keepidle ≠ 0, .TCP_KEEPIDLE, keepidle),
    (plat.TCP_KEEPINTVL && keepintvl ≠ 0, .TCP_KEEPINTVL, keepintvl),
    (plat.TCP_KEEPCNT && keepcnt > 0, .TCP_KEEPCNT, keepcnt)]

/-- The timings of the blocks that run, in order. -/
def timingsOf (blocks : List (Bool × SockOpt × Int)) : List (SockOpt × Int) :=
  blocks.filterMap fun (given, opt, val) => if given then some (opt, val) else none

/-- Blocks run one after the other; the first that fails ends the call with `false`. -/
def runBlocks : List (Bool × SockOpt × Int) → KernM (Option Bool) → KernM (Option Bool)
  | [], cont => cont
  | (given, opt, val) :: blocks, cont => do
    if !(← keepaliveOption given opt val) then return some false
    runBlocks blocks cont

/-- The timings tried one after the other, stopping at the first that fails. -/
def keepaliveLoop : List (SockOpt × Int) → KernM Bool
  | [] => pure true
  | (opt, val) :: timings => do
    if !(← keepaliveOption true opt val) then return false
    keepaliveLoop timings

/-- With keepalive turned on, the four TCP blocks run as `runBlocks`. -/
theorem socket_set_keepalive_blocks (plat : Platform) (onoff keepidle keepintvl keepcnt : Int)
    (enabled : onoff ≠ 0) :
    socket_set_keepalive plat onoff keepidle keepintvl keepcnt = (do
      if (← setsockopt .SO_KEEPALIVE 1) < 0 then return some false
      runBlocks (keepaliveBlocks plat keepidle keepintvl keepcnt) (do
        if plat.SIO_KEEPALIVE_VALS && (keepidle ≠ 0 || keepintvl ≠ 0) then
          return ← keepaliveVals keepidle keepintvl
        return some true)) := by
  simp only [socket_set_keepalive, enabled, if_false, keepaliveBlocks, runBlocks]
  rfl

/-- The blocks are the loop over the timings they give. -/
theorem runBlocks_loop (blocks : List (Bool × SockOpt × Int)) (cont : KernM (Option Bool)) :
    runBlocks blocks cont = (do
      if !(← keepaliveLoop (timingsOf blocks)) then return some false
      cont) := by
  induction blocks with
  | nil => simp [runBlocks, timingsOf, keepaliveLoop]
  | cons block blocks ih =>
    rcases block with ⟨_ | _, opt, val⟩
    · simp [runBlocks, timingsOf, keepaliveOption, ih]
    · simp only [runBlocks, timingsOf, List.filterMap_cons, if_true, keepaliveLoop, bind_assoc, ih]
      congr 1
      funext b
      cases b <;> simp [timingsOf]

/-- One TCP timing the caller gave: the kernel accepts it and it is set, or refuses it and the
call goes on only for `ENOPROTOOPT`. -/
theorem keepaliveOption_run (opt : SockOpt) (val : Int) (k : Kern) :
    (keepaliveOption true opt val).run k =
      match k.refuses k.calls with
      | none => (true, { k with calls := k.calls + 1,
                                sockopt := Function.update k.sockopt opt (some val) })
      | some e => (decide (e = ENOPROTOOPT), { k with calls := k.calls + 1, errno := e }) := by
  simp only [keepaliveOption, if_true, setsockopt, bind_pure_comp, map_pure, bind_assoc, StateT.run_bind,
    Id.bind_eq]
  cases h : k.refuses k.calls with
  | none => simp [h]
  | some e => by_cases same : e = ENOPROTOOPT <;> simp [h, same]

/-- **The TCP timings, one after the other.** The loop succeeds exactly when the kernel accepts
each timing or refuses it with `ENOPROTOOPT`. It touches no option it does not try, and on success
each timing the kernel accepted is set. -/
theorem keepaliveLoop_spec (timings : List (SockOpt × Int)) (k : Kern) :
    let r := (keepaliveLoop timings).run k
    (r.1 = true ↔ ∀ i < timings.length, (k.refuses (k.calls + i)).all (· = ENOPROTOOPT)) ∧
      (∀ opt, opt ∉ timings.map Prod.fst → r.2.sockopt opt = k.sockopt opt) ∧
      (r.1 = true → (timings.map Prod.fst).Nodup → ∀ i (lt : i < timings.length),
        k.refuses (k.calls + i) = none → r.2.sockopt timings[i].1 = some timings[i].2) := by
  induction timings generalizing k with
  | nil => simp [keepaliveLoop]
  | cons timing timings ih =>
    rcases timing with ⟨opt, val⟩
    have shift : (∀ i < timings.length + 1, (k.refuses (k.calls + i)).all (· = ENOPROTOOPT)) ↔
        (k.refuses k.calls).all (· = ENOPROTOOPT) ∧
          ∀ i < timings.length, (k.refuses (k.calls + 1 + i)).all (· = ENOPROTOOPT) := by
      simp only [Nat.forall_lt_succ_left, Nat.add_zero, Nat.add_right_comm _ 1]
      rfl
    intro r
    cases h : k.refuses k.calls with
    | none =>
      let k₁ : Kern := { k with calls := k.calls + 1,
                                sockopt := Function.update k.sockopt opt (some val) }
      have run : r = (keepaliveLoop timings).run k₁ := by
        simp [r, keepaliveLoop, keepaliveOption_run, h, k₁]
      obtain ⟨ok, frame, set⟩ := ih k₁
      rw [run]
      refine ⟨?_, ?_, ?_⟩
      · rw [ok, List.length_cons, shift]
        simp [h, k₁]
      · intro o notIn
        rw [frame o fun mem => notIn (List.mem_cons_of_mem _ mem)]
        exact Function.update_noteq (by rintro rfl; exact notIn (List.mem_cons_self _ _)) _ _
      · intro success nodup i lt accepted
        obtain ⟨notIn, nodup⟩ := List.nodup_cons.mp nodup
        cases i with
        | zero =>
          rw [List.getElem_cons_zero, frame _ notIn]
          simp [k₁]
        | succ i =>
          rw [List.getElem_cons_succ]
          exact set success nodup i (by simpa using lt)
            (by simpa [k₁, Nat.add_right_comm _ 1] using accepted)
    | some e =>
      let k₁ : Kern := { k with calls := k.calls + 1, errno := e }
      by_cases same : e = ENOPROTOOPT
      · have run : r = (keepaliveLoop timings).run k₁ := by
          simp [r, keepaliveLoop, keepaliveOption_run, h, same, k₁]
        obtain ⟨ok, frame, set⟩ := ih k₁
        rw [run]
        refine ⟨?_, fun o notIn => frame o fun mem => notIn (List.mem_cons_of_mem _ mem), ?_⟩
        · rw [ok, List.length_cons, shift]
          simp [h, k₁, same]
        · intro success nodup i lt accepted
          cases i with
          | zero => simp [h] at accepted
          | succ i =>
            rw [List.getElem_cons_succ]
            exact set success (List.nodup_cons.mp nodup).2 i (by simpa using lt)
              (by simpa [k₁, Nat.add_right_comm _ 1] using accepted)
      · have run : r = (false, k₁) := by
          simp [r, keepaliveLoop, keepaliveOption_run, h, same, k₁]
        rw [run]
        refine ⟨?_, fun _ _ => rfl, fun fail => absurd fail Bool.false_ne_true⟩
        rw [List.length_cons, shift]
        simp [h, same]

/-- The loop never changes how the kernel answers, and when it succeeds it has made one call per
timing. -/
theorem keepaliveLoop_calls (timings : List (SockOpt × Int)) (k : Kern) :
    ((keepaliveLoop timings).run k).2.refuses = k.refuses ∧
      (((keepaliveLoop timings).run k).1 = true →
        ((keepaliveLoop timings).run k).2.calls = k.calls + timings.length) := by
  induction timings generalizing k with
  | nil => simp [keepaliveLoop]
  | cons timing timings ih =>
    rcases timing with ⟨opt, val⟩
    cases h : k.refuses k.calls with
    | none =>
      obtain ⟨refuses, calls⟩ :=
        ih { k with calls := k.calls + 1, sockopt := Function.update k.sockopt opt (some val) }
      simp only [keepaliveLoop, StateT.run_bind, keepaliveOption_run, h, Id.bind_eq, pure_bind, Bool.not_true,
        Bool.false_eq_true, if_false]
      exact ⟨refuses, fun ok => by rw [calls ok]; simp; omega⟩
    | some e =>
      by_cases same : e = ENOPROTOOPT
      · subst same
        obtain ⟨refuses, calls⟩ := ih { k with calls := k.calls + 1, errno := ENOPROTOOPT }
        simp only [keepaliveLoop, StateT.run_bind, keepaliveOption_run, h, Id.bind_eq, pure_bind, decide_True,
          Bool.not_true, Bool.false_eq_true, if_false]
        exact ⟨refuses, fun ok => by rw [calls ok]; simp; omega⟩
      · simp [keepaliveLoop, keepaliveOption_run, h, same]

theorem timingsOf_sublist (blocks : List (Bool × SockOpt × Int)) :
    ((timingsOf blocks).map Prod.fst).Sublist (blocks.map fun block => block.2.1) := by
  induction blocks with
  | nil => exact List.Sublist.slnil
  | cons block blocks ih =>
    rcases block with ⟨_ | _, opt, val⟩
    · exact ih.cons _
    · exact ih.cons₂ _

/-- The TCP timings name each TCP option at most once, and never `SO_KEEPALIVE`. -/
theorem timings_nodup (plat : Platform) (keepidle keepintvl keepcnt : Int) :
    ((timingsOf (keepaliveBlocks plat keepidle keepintvl keepcnt)).map Prod.fst).Nodup ∧
      SockOpt.SO_KEEPALIVE ∉ (timingsOf (keepaliveBlocks plat keepidle keepintvl keepcnt)).map Prod.fst := by
  have sub := timingsOf_sublist (keepaliveBlocks plat keepidle keepintvl keepcnt)
  simp only [keepaliveBlocks, List.map_cons, List.map_nil] at sub
  exact ⟨sub.nodup (by decide), fun mem => absurd (sub.subset mem) (by decide)⟩

/-- **Turning keepalive on, without `SIO_KEEPALIVE_VALS`.** It succeeds exactly when the kernel
accepts `SO_KEEPALIVE` and then accepts, or refuses with `ENOPROTOOPT`, each TCP timing the
platform has and the caller gave, in the order of the source; it never overflows, and on success
`SO_KEEPALIVE` and every timing the kernel accepted are set. -/
theorem socket_set_keepalive_timings (plat : Platform) (k : Kern)
    (onoff keepidle keepintvl keepcnt : Int) (enabled : onoff ≠ 0)
    (unix : plat.SIO_KEEPALIVE_VALS = false) :
    let r := (socket_set_keepalive plat onoff keepidle keepintvl keepcnt).run k
    let timings := timingsOf (keepaliveBlocks plat keepidle keepintvl keepcnt)
    (r.1 = some true ↔ k.refuses k.calls = none ∧
        ∀ i < timings.length, (k.refuses (k.calls + 1 + i)).all (· = ENOPROTOOPT)) ∧
      r.1 ≠ none ∧
      (r.1 = some true → r.2.sockopt .SO_KEEPALIVE = some 1 ∧
        ∀ i (lt : i < timings.length), k.refuses (k.calls + 1 + i) = none →
          r.2.sockopt timings[i].1 = some timings[i].2) := by
  intro r timings
  obtain ⟨nodup, notKeepalive⟩ := timings_nodup plat keepidle keepintvl keepcnt
  cases h0 : k.refuses k.calls with
  | some e =>
    have run : r = (some false, { k with calls := k.calls + 1, errno := e }) := by
      simp [r, socket_set_keepalive_blocks _ _ _ _ _ enabled, runBlocks_loop, setsockopt, h0]
    simp [run]
  | none =>
    let k₁ : Kern := { k with calls := k.calls + 1,
                              sockopt := Function.update k.sockopt .SO_KEEPALIVE (some 1) }
    obtain ⟨ok, frame, set⟩ := keepaliveLoop_spec timings k₁
    have run : r = (some ((keepaliveLoop timings).run k₁).1, ((keepaliveLoop timings).run k₁).2) := by
      simp [r, socket_set_keepalive_blocks _ _ _ _ _ enabled, runBlocks_loop, setsockopt, h0, unix, k₁]
      rcases (keepaliveLoop timings).run k₁ with ⟨_ | _, k'⟩ <;> rfl
    rw [run]
    refine ⟨?_, by simp, fun success => ⟨?_, fun i lt accepted =>
      set (Option.some.inj success) nodup i lt accepted⟩⟩
    · rw [Option.some.injEq, ok]
      exact (and_iff_right rfl).symm
    · rw [frame _ notKeepalive]
      simp [k₁]

/-- Linux, with a kernel that has no `TCP_KEEPCNT`: keepalive is still turned on. -/
theorem socket_set_keepalive_timings_enoprotoopt :
    ((socket_set_keepalive ⟨false, false, true, true, true, false, true, false⟩ 1 60 10 5).run
      ⟨0, 0, fun _ => none, none, (0, 0), 0, fun c => if c = 3 then some ENOPROTOOPT else none, 0⟩).1 =
        some true :=
  (socket_set_keepalive_timings _ _ _ _ _ _ (by decide) rfl).1.mpr ⟨rfl, by decide⟩

/-- **What `socket_set_keepalive` returns, on every platform.** Turning keepalive off returns
whether the kernel accepts the one call. Turning it on fails, with `false`, unless the kernel
accepts `SO_KEEPALIVE` and then accepts, or refuses with `ENOPROTOOPT`, each TCP timing the
platform has and the caller gave. After those, where the platform has `SIO_KEEPALIVE_VALS` and a
timing was given, a timing whose milliseconds overflow an `int` is undefined behaviour (`none`),
and otherwise the result is whether the kernel accepts `WSAIoctl`; elsewhere the call succeeds. -/
theorem socket_set_keepalive_result (plat : Platform) (k : Kern)
    (onoff keepidle keepintvl keepcnt : Int) :
    let timings := timingsOf (keepaliveBlocks plat keepidle keepintvl keepcnt)
    ((socket_set_keepalive plat onoff keepidle keepintvl keepcnt).run k).1 =
      if onoff = 0 then some (decide (k.refuses k.calls = none))
      else if k.refuses k.calls = none ∧
          ∀ i < timings.length, (k.refuses (k.calls + 1 + i)).all (· = ENOPROTOOPT) then
        if plat.SIO_KEEPALIVE_VALS ∧ (keepidle ≠ 0 ∨ keepintvl ≠ 0) then
          if (intMs (if keepidle = 0 then 5 * 60 else keepidle)).isSome ∧
              (intMs (if keepintvl = 0 then 15 else keepintvl)).isSome
          then some (decide (k.refuses (k.calls + 1 + timings.length) = none)) else none
        else some true
      else some false := by
  intro timings
  by_cases off : onoff = 0
  · cases h : k.refuses k.calls <;> simp [socket_set_keepalive, off, setsockopt, h]
  rw [if_neg off, socket_set_keepalive_blocks _ _ _ _ _ off, runBlocks_loop]
  cases h0 : k.refuses k.calls with
  | some e => simp [setsockopt, h0]
  | none =>
    let k₁ : Kern :=
      { k with calls := k.calls + 1, sockopt := Function.update k.sockopt .SO_KEEPALIVE (some 1) }
    obtain ⟨ok, -, -⟩ := keepaliveLoop_spec timings k₁
    obtain ⟨refuses, calls⟩ := keepaliveLoop_calls timings k₁
    simp only [setsockopt, StateT.run_bind, sysCall_accepts h0, Id.bind_eq, if_true, StateT.run_modify,
      bind_pure_comp, StateT.run_map, Id.map_eq, lt_self_iff_false, if_false, true_and, pure_bind,
      StateT.run_pure, Id.pure_eq, map_pure]
    change ((keepaliveLoop timings).run k₁).1 = true ↔ _ at ok
    rcases hr : (keepaliveLoop timings).run k₁ with ⟨_ | _, k₂⟩
    · rw [hr] at ok
      have fails : ¬ ∀ i < timings.length, (k.refuses (k.calls + 1 + i)).all (· = ENOPROTOOPT) := by
        simpa [k₁] using ok
      rw [if_neg fails]
      simp [timings, k₁] at hr
      simp [hr]
    · rw [hr] at ok refuses calls
      have passes : ∀ i < timings.length, (k.refuses (k.calls + 1 + i)).all (· = ENOPROTOOPT) := by
        simpa [k₁] using ok.mp rfl
      have calls := calls rfl
      simp only at refuses calls
      rw [if_pos passes]
      simp [timings, k₁] at hr
      simp only [hr, Bool.not_true, Bool.false_eq_true, if_false]
      by_cases vals : plat.SIO_KEEPALIVE_VALS = true ∧ (keepidle ≠ 0 ∨ keepintvl ≠ 0)
      · rw [if_pos (by simpa using vals), if_pos vals, bind_pure, keepaliveVals_result, refuses, calls]
      · rw [if_neg (by simpa using vals), if_neg vals]
        rfl

/-- `getpeereid` writes the peer's credentials exactly when the kernel hands them over. With
`SO_PEERCRED` it then returns `0`; with `getpeerucred` it returns `0` only for a user and group
that are not negative, having written them either way; with neither it fails with `ENOSYS`
without a call. -/
theorem getpeereid_spec (plat : Platform) (k : Kern) :
    let r := (getpeereid plat).run k
    let asks := plat.SO_PEERCRED || plat.HAVE_GETPEERUCRED
    r.1.2 = (if asks ∧ k.refuses k.calls = none then some k.peer else none) ∧
      (r.1.1 = 0 ↔ asks ∧ k.refuses k.calls = none ∧
        (plat.SO_PEERCRED ∨ 0 ≤ k.peer.1 ∧ 0 ≤ k.peer.2)) ∧
      (r.1.1 = 0 ∨ r.1.1 = -1) ∧
      (asks = false → r.2.errno = ENOSYS ∧ r.2.calls = k.calls) := by
  intro r asks
  cases h0 : k.refuses k.calls <;>
    cases cred : plat.SO_PEERCRED <;> cases ucred : plat.HAVE_GETPEERUCRED <;>
    simp only [r, asks, getpeereid, cred, ucred, h0, peerCred_run, Bool.false_eq_true, Bool.true_eq_false,
      Bool.or_self, Bool.or_true, Bool.or_false, if_true, if_false, ge_iff_le, bind_pure_comp, map_pure,
      StateT.run_bind, StateT.run_map, StateT.run_modify, StateT.run_pure, Id.bind_eq, Id.pure_eq, Id.map_eq,
      le_refl, Int.reduceNeg, Int.reduceLE, Left.nonneg_neg_iff] <;> simp [le_or_lt]

end Libusual.Socket
