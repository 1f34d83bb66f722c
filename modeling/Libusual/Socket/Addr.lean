import Libusual.Heap
import Libusual.Socket.Poll

/-!
# Printing socket addresses

`sa2str` renders a `struct sockaddr` for a log line: `addr:port` for IPv4, `addr/port` for IPv6,
`unix:path` for a Unix socket and `sa2str(family): unknown proto` for anything else, written with
`snprintf` into the caller's buffer. The address comes from `inet_ntop` into a 128-byte buffer on
the stack. Where the platform has no `inet_ntop`, `socket.c` brings its own: dotted decimal for
IPv4, and for IPv6 the sixteen bytes as two hex digits each, separated by colons.

The structure is read as its bytes after `sa_family`; a read outside them is `none`, as is a
write past the caller's buffer. `%s` of `sun_path` reads up to the first NUL, so a path without
one runs past the structure.

`Sockaddr.endpoint` is what an address names and `Endpoint.text` the text `sa2str` prints for it.
Whatever the stack buffer holds, `sa2str` prints the endpoint's text (`sa2str_endpoint`), and a
reader of the log gets the endpoint back from it (`readEndpoint_text`). So the text of a call with
room names the address (`sa2str_round_trip`); a short buffer gets a prefix of the text and nothing
past `dstlen` changes (`sa2str_truncates`); a call reads outside the structure exactly when a field
it prints lies outside it, and never returns `NULL` (`sa2str_faults_iff`). The compat `inet_ntop`
returns `NULL` only with `EINVAL`, for a negative length or another family, and never for a buffer
too short for the text (`inet_ntop_null_iff`).
-/

set_option autoImplicit false

namespace Libusual.Socket

/-! ## Formatting -/

/-- `snprintf(dst, size, ...)` of the text the format produces: at most `size - 1` characters and
a NUL, nothing for a size of zero; `none` when that write runs past the buffer `dst`. -/
def snprintf (dst : List Char) (size : Nat) (text : List Char) : Option (List Char) :=
  if size = 0 then some dst
  else
    let out := text.take (size - 1) ++ ['\x00']
    if out.length ≤ dst.length then some (out ++ dst.drop out.length) else none

/-- An `int` where `snprintf` takes a `size_t`: a negative value wraps around. -/
def sizeT (n : Int) : Nat := if n < 0 then (2 ^ 64 + n).toNat else n.toNat

/-- `%d` of a value that is not negative. -/
def printfD (n : Nat) : List Char := Nat.toDigits 10 n

/-- `%02x`: lower-case hex, at least two digits. -/
def printf02x (n : Nat) : List Char := if n < 16 then '0' :: Nat.toDigits 16 n else Nat.toDigits 16 n

/-- `%s` of the memory `mem`: the characters before its first NUL; `none` when the object holds no
NUL and the read runs past it. -/
def printfS (mem : List (BitVec 8)) : Option (List Char) :=
  if 0#8 ∈ mem then some ((mem.takeWhile (· ≠ 0#8)).map fun b => Char.ofNat b.toNat) else none

/-- `ntohs` of a port's two bytes, which are in network order. -/
def ntohs (port : List (BitVec 8)) : Nat := (port.getD 0 0#8).toNat * 256 + (port.getD 1 0#8).toNat

/-! ## `inet_ntop` -/

/-- `AF_UNIX`, as Linux numbers it. -/
def AF_UNIX : Nat := 1

/-- `AF_INET`, as Linux numbers it. -/
def AF_INET : Nat := 2

/-- `AF_INET6`, as Linux numbers it. -/
def AF_INET6 : Nat := 10

/-- The text of `"%d.%d.%d.%d"` with the bytes of the address. -/
def inetText (p : List Nat) : List Char := ['.'].intercalate (p.map printfD)

/-- The text of sixteen `%02x` separated by `:` with the bytes of the address. -/
def inet6Text (p : List Nat) : List Char := [':'].intercalate (p.map printf02x)

/-- The compat `inet_ntop(af, src, dst, dstlen)`, `src` being the memory at `src`: the buffer
`dst` after the call, or the `errno` of a `NULL` return; `none` is an access outside `src` or
`dst`. -/
def inet_ntop (af : Nat) (src : List (BitVec 8)) (dst : List Char) (dstlen : Int) :
    Option (Except Errno (List Char)) :=
  if dstlen < 0 then some (.error .EINVAL)
  else if af = AF_INET then do
    let p ← load src 0 4
    return .ok (← snprintf dst dstlen.toNat (inetText (p.map BitVec.toNat)))
  else if af = AF_INET6 then do
    let p ← load src 0 16
    return .ok (← snprintf dst dstlen.toNat (inet6Text (p.map BitVec.toNat)))
  else some (.error .EINVAL)

/-! ## `sa2str` -/

/-- A `struct sockaddr` as `sa2str` reads it: `sa_family`, and the bytes of the structure after
it. `sockaddr_in` has its port at 0 and its address at 2, `sockaddr_in6` its port at 0 and its
address at 6, `sockaddr_un` its path at 0. -/
structure Sockaddr where
  sa_family : Nat
  data : List (BitVec 8)
  deriving DecidableEq, Repr

/-- `sa2str(sa, dst, dstlen)`, `buf` being the stack buffer as the call finds it: `some (some dst')`
is the return of `dst` holding `dst'`, `some none` a `NULL` return, `none` an access outside `sa`
or `dst`. -/
def sa2str (sa : Sockaddr) (buf : Mathlib.Vector Char 128) (dst : List Char) (dstlen : Int) :
    Option (Option (List Char)) :=
  if sa.sa_family = AF_INET then do
    match ← inet_ntop AF_INET (sa.data.drop 2) buf.toList 128 with
    | .error _ => return none
    | .ok tmp =>
      let sin_port ← load sa.data 0 2
      some <$> snprintf dst (sizeT dstlen) (cstring tmp ++ ':' :: printfD (ntohs sin_port))
  else if sa.sa_family = AF_INET6 then do
    match ← inet_ntop AF_INET6 (sa.data.drop 6) buf.toList 128 with
    | .error _ => return none
    | .ok tmp =>
      let sin6_port ← load sa.data 0 2
      some <$> snprintf dst (sizeT dstlen) (cstring tmp ++ '/' :: printfD (ntohs sin6_port))
  else if sa.sa_family = AF_UNIX then do
    let sun_path ← printfS sa.data
    some <$> snprintf dst (sizeT dstlen) ("unix:".toList ++ sun_path)
  else
    some <$> snprintf dst (sizeT dstlen)
      ("sa2str(".toList ++ printfD sa.sa_family ++ "): unknown proto".toList)

/-! ## What an address names -/

/-- What a socket address names. -/
inductive Endpoint where
  | inet (addr : List Nat) (port : Nat)
  | inet6 (addr : List Nat) (port : Nat)
  | unix (path : List Char)
  | unknown (family : Nat)
  deriving DecidableEq, Repr

/-- The endpoint of `sa`, from the fields `sa2str` prints; `none` when one lies outside the
structure. -/
def Sockaddr.endpoint (sa : Sockaddr) : Option Endpoint :=
  if sa.sa_family = AF_INET then do
    let addr ← load sa.data 2 4
    let port ← load sa.data 0 2
    return .inet (addr.map BitVec.toNat) (ntohs port)
  else if sa.sa_family = AF_INET6 then do
    let addr ← load sa.data 6 16
    let port ← load sa.data 0 2
    return .inet6 (addr.map BitVec.toNat) (ntohs port)
  else if sa.sa_family = AF_UNIX then .unix <$> printfS sa.data
  else some (.unknown sa.sa_family)

/-- The text `sa2str` prints for an endpoint. -/
def Endpoint.text : Endpoint → List Char
  | .inet addr port => inetText addr ++ ':' :: printfD port
  | .inet6 addr port => inet6Text addr ++ '/' :: printfD port
  | .unix path => "unix:".toList ++ path
  | .unknown family => "sa2str(".toList ++ printfD family ++ "): unknown proto".toList

/-- What the fields of an address give: four or sixteen bytes, and a path without NUL. -/
def Endpoint.Valid : Endpoint → Prop
  | .inet addr _ => addr.length = 4 ∧ ∀ b ∈ addr, b < 256
  | .inet6 addr _ => addr.length = 16 ∧ ∀ b ∈ addr, b < 256
  | .unix path => '\x00' ∉ path
  | .unknown _ => True

/-! ## Reading the text back -/

/-- The value of a digit, `0` to `9` then `a` to `f`. -/
def digitValue (c : Char) : Option Nat := (List.range 16).find? (Nat.digitChar · = c)

/-- One more digit of a number in base `base`. -/
def digitStep (base acc : Nat) (c : Char) : Option Nat :=
  (digitValue c).bind fun d => if d < base then some (acc * base + d) else none

/-- The number the digits spell in base `base`; `none` for no digits or for a character that is
not one. -/
def readNumber (base : Nat) (text : List Char) : Option Nat :=
  if text = [] then none else text.foldlM (digitStep base) 0

/-- The bytes of an address: the fields between the separators, each a number below 256. -/
def readBytes (base : Nat) (sep : Char) (text : List Char) : Option (List Nat) :=
  (text.splitOn sep).mapM fun field => (readNumber base field).filter (· < 256)

/-- How a reader of the log takes `sa2str`'s text apart. -/
def readEndpoint (text : List Char) : Option Endpoint :=
  if "unix:".toList.isPrefixOf text then some (.unix (text.drop 5))
  else if "sa2str(".toList.isPrefixOf text then
    match (text.drop 7).splitOn ')' with
    | [family, rest] =>
      if rest = ": unknown proto".toList then .unknown <$> readNumber 10 family else none
    | _ => none
  else
    match text.splitOn '/' with
    | [addr, port] => do return .inet6 (← readBytes 16 ':' addr) (← readNumber 10 port)
    | _ =>
      match text.splitOn ':' with
      | [addr, port] => do return .inet (← readBytes 10 '.' addr) (← readNumber 10 port)
      | _ => none

/-! ## Digits -/

/-- A number with digits before its last one is larger than its quotient. -/
theorem div_lt_of_div_ne_zero {b n : Nat} (base : 2 ≤ b) (top : n / b ≠ 0) : n / b < n :=
  Nat.div_lt_self (Nat.pos_of_ne_zero fun zero => top (by simp [zero])) (by omega)

theorem toDigitsCore_append (b fuel n : Nat) (ds : List Char) :
    Nat.toDigitsCore b fuel n ds = Nat.toDigitsCore b fuel n [] ++ ds := by
  induction fuel generalizing n ds with
  | zero => rfl
  | succ fuel ih =>
    simp only [Nat.toDigitsCore]
    split
    · rfl
    · rw [ih _ (_ :: ds), ih _ [_]]
      simp

/-- Enough fuel is as good as any more. -/
theorem toDigitsCore_fuel {b : Nat} (base : 2 ≤ b) :
    ∀ {f g n : Nat} (ds : List Char), n < f → n < g →
      Nat.toDigitsCore b f n ds = Nat.toDigitsCore b g n ds
  | 0, _, _, _, lt, _ => absurd lt (Nat.not_lt_zero _)
  | _, 0, _, _, _, lt => absurd lt (Nat.not_lt_zero _)
  | f + 1, g + 1, n, ds, ltf, ltg => by
    simp only [Nat.toDigitsCore]
    split
    · rfl
    · have := div_lt_of_div_ne_zero base ‹_›
      exact toDigitsCore_fuel base _ (by omega) (by omega)

/-- The last digit of a number is its remainder, the digits before it those of its quotient. -/
theorem toDigits_eq {b : Nat} (base : 2 ≤ b) (n : Nat) :
    Nat.toDigits b n =
      (if n / b = 0 then [] else Nat.toDigits b (n / b)) ++ [Nat.digitChar (n % b)] := by
  rw [Nat.toDigits]
  simp only [Nat.toDigitsCore]
  split
  · rfl
  · have := div_lt_of_div_ne_zero base ‹_›
    rw [toDigitsCore_append, @toDigitsCore_fuel b base _ (n / b + 1) _ [] (by omega) (by omega)]
    rfl

theorem toDigits_ne_nil {b : Nat} (base : 2 ≤ b) (n : Nat) : Nat.toDigits b n ≠ [] := by
  rw [toDigits_eq base]
  simp

theorem mem_toDigits_base {b : Nat} (base : 2 ≤ b) {c : Char} {n : Nat}
    (mem : c ∈ Nat.toDigits b n) : ∃ d < b, c = Nat.digitChar d := by
  induction n using Nat.strong_induction_on with
  | _ n ih =>
    rw [toDigits_eq base] at mem
    rcases List.mem_append.1 mem with earlier | last
    · split_ifs at earlier with top
      · cases earlier
      · exact ih _ (div_lt_of_div_ne_zero base top) earlier
    · exact ⟨n % b, Nat.mod_lt _ (by omega), List.mem_singleton.1 last⟩

theorem digitValue_digitChar : ∀ d < 16, digitValue (Nat.digitChar d) = some d := by decide

theorem digitStep_digitChar {base acc d : Nat} (small : d < base) (hex : base ≤ 16) :
    digitStep base acc (Nat.digitChar d) = some (acc * base + d) := by
  simp [digitStep, digitValue_digitChar d (by omega), small]

/-- Reading the digits of `n` back gives `n`. -/
theorem foldlM_toDigits {b : Nat} (base : 2 ≤ b) (hex : b ≤ 16) (n : Nat) :
    (Nat.toDigits b n).foldlM (digitStep b) 0 = some n := by
  induction n using Nat.strong_induction_on with
  | _ n ih =>
    have last := @digitStep_digitChar b (n / b) _ (Nat.mod_lt n (by omega)) hex
    rw [toDigits_eq base, List.foldlM_append]
    split_ifs with top
    · have small : n < b := (Nat.div_eq_zero_iff (by omega)).1 top
      simpa [top, Nat.mod_eq_of_lt small] using last
    · simpa [ih _ (div_lt_of_div_ne_zero base top), Nat.div_add_mod'] using last

theorem readNumber_printfD (n : Nat) : readNumber 10 (printfD n) = some n := by
  simp [readNumber, printfD, toDigits_ne_nil, foldlM_toDigits]

theorem readNumber_printf02x (n : Nat) : readNumber 16 (printf02x n) = some n := by
  have zero : digitStep 16 0 '0' = some 0 := rfl
  unfold printf02x
  split_ifs <;> simp [readNumber, zero, toDigits_ne_nil, foldlM_toDigits]

/-! ## The characters of the texts -/

/-- Every character of the text is a digit below sixteen. -/
def AllDigits (text : List Char) : Prop := ∀ c ∈ text, ∃ d < 16, c = Nat.digitChar d

theorem allDigits_printfD (n : Nat) : AllDigits (printfD n) := fun _ mem =>
  let ⟨d, small, eq⟩ := mem_toDigits_base (by decide) mem
  ⟨d, by omega, eq⟩

theorem allDigits_printf02x (n : Nat) : AllDigits (printf02x n) := by
  intro c mem
  unfold printf02x at mem
  split_ifs at mem
  · rcases List.mem_cons.1 mem with rfl | mem
    · exact ⟨0, by decide, rfl⟩
    · exact mem_toDigits_base (by decide) mem
  · exact mem_toDigits_base (by decide) mem

theorem digitChar_ne_punct : ∀ d < 16, ∀ c ∈ ['.', ':', '/', ')', 'u', 's', '\x00'],
    Nat.digitChar d ≠ c := by decide

theorem AllDigits.not_mem {text : List Char} (digits : AllDigits text) {c : Char}
    (punct : c ∈ ['.', ':', '/', ')', 'u', 's', '\x00']) : c ∉ text := fun mem =>
  let ⟨d, small, eq⟩ := digits c mem
  digitChar_ne_punct d small c punct eq.symm

theorem intercalate_cons_cons (sep : Char) (a b : List Char) (t : List (List Char)) :
    [sep].intercalate (a :: b :: t) = a ++ sep :: [sep].intercalate (b :: t) := by
  simp [List.intercalate, List.intersperse_cons₂]

theorem mem_intercalate {sep c : Char} :
    ∀ {ls : List (List Char)}, c ∈ [sep].intercalate ls → c = sep ∨ ∃ l ∈ ls, c ∈ l
  | [], mem => by simp [List.intercalate] at mem
  | [a], mem => .inr ⟨a, List.mem_singleton_self a, by simpa [List.intercalate] using mem⟩
  | a :: b :: t, mem => by
    rw [intercalate_cons_cons] at mem
    rcases List.mem_append.1 mem with first | rest
    · exact .inr ⟨a, List.mem_cons_self _ _, first⟩
    · rcases List.mem_cons.1 rest with rfl | rest
      · exact .inl rfl
      · rcases mem_intercalate rest with rfl | ⟨l, mem_l, mem_c⟩
        · exact .inl rfl
        · exact .inr ⟨l, List.mem_cons_of_mem _ mem_l, mem_c⟩

theorem not_mem_intercalate {sep c : Char} {ls : List (List Char)} (ne : c ≠ sep)
    (pieces : ∀ l ∈ ls, c ∉ l) : c ∉ [sep].intercalate ls := fun mem =>
  (mem_intercalate mem).elim ne fun ⟨l, mem_l, mem_c⟩ => pieces l mem_l mem_c

theorem length_intercalate_le (sep : Char) (k : Nat) :
    ∀ ls : List (List Char), (∀ l ∈ ls, l.length ≤ k) →
      ([sep].intercalate ls).length ≤ ls.length * (k + 1)
  | [], _ => by simp [List.intercalate]
  | [a], short => by simpa [List.intercalate] using Nat.le_succ_of_le (short a (by simp))
  | a :: b :: t, short => by
    have rest := length_intercalate_le sep k (b :: t) fun l mem => short l (by simp [mem])
    have first := short a (List.mem_cons_self _ _)
    rw [intercalate_cons_cons]
    simp only [List.length_append, List.length_cons] at rest ⊢
    rw [Nat.add_mul]
    omega

/-! ## `snprintf` -/

theorem snprintf_inside {dst text : List Char} {size : Nat} (pos : 0 < size)
    (inside : size ≤ dst.length) :
    snprintf dst size text =
      some (text.take (size - 1) ++ '\x00' :: dst.drop (min (size - 1) text.length + 1)) := by
  have fits : min (size - 1) text.length + 1 ≤ dst.length := by omega
  simp [snprintf, Nat.pos_iff_ne_zero.1 pos, fits]

theorem cstring_take_nul {text : List Char} (nul : '\x00' ∉ text) (k : Nat) (rest : List Char) :
    cstring (text.take k ++ '\x00' :: rest) = text.take k := by
  have keep : ∀ c ∈ text.take k, decide (c ≠ '\x00') = true := fun c mem =>
    decide_eq_true fun eq => nul (eq ▸ List.mem_of_mem_take mem)
  rw [cstring, List.takeWhile_append_of_pos keep]
  simp

/-- A text with room, written by `snprintf`, reads back whole. -/
theorem snprintf_fits {dst text : List Char} {size : Nat} (room : text.length < size)
    (inside : size ≤ dst.length) (nul : '\x00' ∉ text) :
    ∃ out, snprintf dst size text = some out ∧ cstring out = text := by
  refine ⟨_, snprintf_inside (by omega) inside, ?_⟩
  rw [cstring_take_nul nul, List.take_of_length_le (by omega)]

/-- `snprintf` within the buffer writes a prefix of the text and its NUL, and nothing past `size`. -/
theorem snprintf_prefix {dst text : List Char} {size : Nat} (pos : 0 < size)
    (inside : size ≤ dst.length) (nul : '\x00' ∉ text) :
    ∃ out, snprintf dst size text = some out ∧ cstring out = text.take (size - 1) ∧
      out.drop size = dst.drop size := by
  refine ⟨_, snprintf_inside pos inside, cstring_take_nul nul _ _, ?_⟩
  have written : (text.take (size - 1) ++ ['\x00']).length = min (size - 1) text.length + 1 := by
    simp
  rw [← List.singleton_append, ← List.append_assoc, List.drop_append_eq_append_drop, written,
    List.drop_eq_nil_of_le (by omega), List.drop_drop, List.nil_append]
  congr 1
  omega

theorem snprintf_some {dst : List Char} (text : List Char) {size : Nat} (inside : size ≤ dst.length) :
    ∃ out, snprintf dst size text = some out := by
  by_cases zero : size = 0
  · exact ⟨dst, by simp [snprintf, zero]⟩
  · exact ⟨_, snprintf_inside (Nat.pos_of_ne_zero zero) inside⟩

theorem sizeT_of_nonneg {n : Int} (nonneg : 0 ≤ n) : sizeT n = n.toNat := by
  simp [sizeT, Int.not_lt.2 nonneg]

/-! ## The texts of an endpoint -/

theorem load_drop (mem : List (BitVec 8)) {k n : Nat} (pos : 0 < n) :
    load (mem.drop k) 0 n = load mem k n := by
  unfold load
  simp only [List.length_drop, Nat.zero_add, List.drop_zero]
  split_ifs <;> first | rfl | omega

theorem load_length {mem bytes : List (BitVec 8)} {off n : Nat} (loaded : load mem off n = some bytes) :
    bytes.length = n := by
  unfold load at loaded
  split_ifs at loaded with inside
  cases loaded
  simp
  omega

theorem printfD_length {n : Nat} (small : n < 256) : (printfD n).length ≤ 3 :=
  Nat.toDigitsCore_length 10 (by decide) (n + 1) n 3 (by omega) (by decide)

theorem printf02x_length {n : Nat} (small : n < 256) : (printf02x n).length ≤ 2 := by
  unfold printf02x
  split_ifs with low
  · simpa using Nat.toDigitsCore_length 16 (by decide) (n + 1) n 1 (by omega) (by decide)
  · exact Nat.toDigitsCore_length 16 (by decide) (n + 1) n 2 (by omega) (by decide)

/-- An endpoint's text holds no NUL. -/
theorem nul_not_mem_text {e : Endpoint} (valid : e.Valid) : '\x00' ∉ e.text := by
  have nul : '\x00' ∈ ['.', ':', '/', ')', 'u', 's', '\x00'] := by decide
  cases e with
  | inet addr port =>
    simp only [Endpoint.text, List.mem_append, List.mem_cons, not_or]
    refine ⟨not_mem_intercalate (by decide) ?_, by decide, (allDigits_printfD port).not_mem nul⟩
    simpa using fun b _ => (allDigits_printfD b).not_mem nul
  | inet6 addr port =>
    simp only [Endpoint.text, List.mem_append, List.mem_cons, not_or]
    refine ⟨not_mem_intercalate (by decide) ?_, by decide, (allDigits_printfD port).not_mem nul⟩
    simpa using fun b _ => (allDigits_printf02x b).not_mem nul
  | unix path =>
    simpa [Endpoint.text] using valid
  | unknown family =>
    simp only [Endpoint.text, List.mem_append, not_or]
    exact ⟨⟨by decide, (allDigits_printfD family).not_mem nul⟩, by decide⟩

theorem toNat_ofNat_byte {n : Nat} (small : n < 256) : (Char.ofNat n).toNat = n := by
  rw [Char.ofNat, dif_pos (Or.inl (by omega))]
  rfl

/-- `%s` stops at the first NUL, so what it prints holds none. -/
theorem nul_not_mem_printfS {mem : List (BitVec 8)} {path : List Char}
    (printed : printfS mem = some path) : '\x00' ∉ path := by
  unfold printfS at printed
  split_ifs at printed
  cases printed
  simp only [List.mem_map, not_exists, not_and]
  intro b mem eq
  have nz : b.toNat ≠ 0 := fun zero => by
    simpa [BitVec.toNat_eq, zero] using List.mem_takeWhile_imp mem
  exact nz (by simpa [toNat_ofNat_byte b.isLt] using congrArg Char.toNat eq)

/-- The fields of an address always give a valid endpoint. -/
theorem endpoint_valid {sa : Sockaddr} {e : Endpoint} (named : sa.endpoint = some e) :
    e.Valid := by
  have bytes : ∀ p : List (BitVec 8), ∀ b ∈ p.map BitVec.toNat, b < 256 := by
    simpa using fun _ b _ => b.isLt
  unfold Sockaddr.endpoint at named
  split_ifs at named
  · simp only [Option.bind_eq_bind, Option.bind_eq_some, Option.pure_def, Option.some.injEq]
      at named
    obtain ⟨addr, loaded, port, -, rfl⟩ := named
    exact ⟨by simp [load_length loaded], bytes addr⟩
  · simp only [Option.bind_eq_bind, Option.bind_eq_some, Option.pure_def, Option.some.injEq]
      at named
    obtain ⟨addr, loaded, port, -, rfl⟩ := named
    exact ⟨by simp [load_length loaded], bytes addr⟩
  · obtain ⟨path, printed, rfl⟩ := Option.map_eq_some'.1 named
    exact nul_not_mem_printfS printed
  · cases named
    trivial

/-! ## The round trip -/

theorem not_mem_inetText {c : Char} (dot : c ≠ '.')
    (punct : c ∈ ['.', ':', '/', ')', 'u', 's', '\x00']) (addr : List Nat) : c ∉ inetText addr :=
  not_mem_intercalate dot (by simpa using fun b _ => (allDigits_printfD b).not_mem punct)

theorem not_mem_inet6Text {c : Char} (colon : c ≠ ':')
    (punct : c ∈ ['.', ':', '/', ')', 'u', 's', '\x00']) (addr : List Nat) : c ∉ inet6Text addr :=
  not_mem_intercalate colon (by simpa using fun b _ => (allDigits_printf02x b).not_mem punct)

theorem splitOn_single {sep : Char} {a : List Char} (absent : sep ∉ a) : a.splitOn sep = [a] := by
  simpa [List.intercalate] using List.splitOn_intercalate [a] sep (by simpa using absent) (by simp)

theorem splitOn_pair {sep : Char} {a b : List Char} (left : sep ∉ a) (right : sep ∉ b) :
    (a ++ sep :: b).splitOn sep = [a, b] := by
  simpa [intercalate_cons_cons, List.intercalate] using
    List.splitOn_intercalate [a, b] sep (by simp [left, right]) (by simp)

/-- The bytes of an address, printed between separators, read back. -/
theorem readBytes_intercalate {base : Nat} {sep : Char} {fmt : Nat → List Char}
    (reads : ∀ n, readNumber base (fmt n) = some n) (apart : ∀ n, sep ∉ fmt n)
    {addr : List Nat} (nonempty : addr ≠ []) (bytes : ∀ b ∈ addr, b < 256) :
    readBytes base sep ([sep].intercalate (addr.map fmt)) = some addr := by
  rw [readBytes, List.splitOn_intercalate _ sep (by simpa using fun b _ => apart b)
    (by simpa using nonempty)]
  clear nonempty
  induction addr with
  | nil => rfl
  | cons b rest ih =>
    simp only [List.mem_cons, forall_eq_or_imp] at bytes
    rw [List.map_cons, List.mapM_cons, ih bytes.2]
    simp [reads, Option.filter, bytes.1]

/-- A text of digits and separators starts with a digit. -/
theorem intercalate_head {sep : Char} {pieces : List (List Char)}
    (digits : ∀ l ∈ pieces, AllDigits l ∧ l ≠ []) (nonempty : pieces ≠ []) (rest : List Char) :
    ∃ d < 16, ∃ r, [sep].intercalate pieces ++ rest = Nat.digitChar d :: r := by
  obtain ⟨a, as, rfl⟩ := List.exists_cons_of_ne_nil nonempty
  obtain ⟨all, filled⟩ := digits a (List.mem_cons_self _ _)
  obtain ⟨c, cs, rfl⟩ := List.exists_cons_of_ne_nil filled
  obtain ⟨d, small, rfl⟩ := all _ (List.mem_cons_self _ _)
  refine ⟨d, small, ?_⟩
  cases as with
  | nil => exact ⟨cs ++ rest, by simp [List.intercalate]⟩
  | cons b t =>
    exact ⟨cs ++ sep :: ([sep].intercalate (b :: t) ++ rest), by rw [intercalate_cons_cons]; simp⟩

theorem isPrefixOf_digit {d : Nat} (small : d < 16) (r : List Char) :
    "unix:".toList.isPrefixOf (Nat.digitChar d :: r) = false ∧
      "sa2str(".toList.isPrefixOf (Nat.digitChar d :: r) = false := by
  have u := digitChar_ne_punct d small 'u' (by decide)
  have s := digitChar_ne_punct d small 's' (by decide)
  show ['u', 'n', 'i', 'x', ':'].isPrefixOf _ = false ∧
    ['s', 'a', '2', 's', 't', 'r', '('].isPrefixOf _ = false
  simp [List.isPrefixOf, u.symm, s.symm]

theorem printfD_ne_nil (n : Nat) : printfD n ≠ [] := toDigits_ne_nil (by decide) n

theorem isPrefixOf_append (l rest : List Char) : l.isPrefixOf (l ++ rest) = true :=
  List.isPrefixOf_iff_prefix.2 (List.prefix_append _ _)

/-- A reader gets every valid endpoint back from its text. -/
theorem readEndpoint_text {e : Endpoint} (valid : e.Valid) : readEndpoint e.text = some e := by
  have slash : '/' ∈ ['.', ':', '/', ')', 'u', 's', '\x00'] := by decide
  have colon : ':' ∈ ['.', ':', '/', ')', 'u', 's', '\x00'] := by decide
  have paren : ')' ∈ ['.', ':', '/', ')', 'u', 's', '\x00'] := by decide
  have dot : '.' ∈ ['.', ':', '/', ')', 'u', 's', '\x00'] := by decide
  cases e with
  | inet addr port =>
    obtain ⟨four, bytes⟩ := valid
    have nonempty : addr ≠ [] := by rintro rfl; simp at four
    obtain ⟨d, small, r, head⟩ := @intercalate_head '.' (addr.map printfD)
      (by simpa using fun b _ => ⟨allDigits_printfD b, printfD_ne_nil b⟩) (by simpa using nonempty)
      (':' :: printfD port)
    have noSlash : '/' ∉ inetText addr ++ ':' :: printfD port := by
      simp [not_mem_inetText (by decide) slash, (allDigits_printfD port).not_mem slash]
    rw [Endpoint.text, readEndpoint, inetText, head, (isPrefixOf_digit small r).1,
      (isPrefixOf_digit small r).2, ← head, ← inetText, splitOn_single noSlash,
      splitOn_pair (not_mem_inetText (by decide) colon addr) ((allDigits_printfD port).not_mem colon)]
    simp [inetText, readBytes_intercalate readNumber_printfD
      (fun n => (allDigits_printfD n).not_mem dot) nonempty bytes, readNumber_printfD]
  | inet6 addr port =>
    obtain ⟨sixteen, bytes⟩ := valid
    have nonempty : addr ≠ [] := by rintro rfl; simp at sixteen
    obtain ⟨d, small, r, head⟩ := @intercalate_head ':' (addr.map printf02x)
      (by simpa using fun b _ => ⟨allDigits_printf02x b, by unfold printf02x; split_ifs <;>
        simp [toDigits_ne_nil]⟩) (by simpa using nonempty) ('/' :: printfD port)
    rw [Endpoint.text, readEndpoint, inet6Text, head, (isPrefixOf_digit small r).1,
      (isPrefixOf_digit small r).2, ← head, ← inet6Text,
      splitOn_pair (not_mem_inet6Text (by decide) slash addr) ((allDigits_printfD port).not_mem slash)]
    simp [inet6Text, readBytes_intercalate readNumber_printf02x
      (fun n => (allDigits_printf02x n).not_mem colon) nonempty bytes, readNumber_printfD]
  | unix path =>
    simp [Endpoint.text, readEndpoint, isPrefixOf_append, List.drop_left' (rfl : "unix:".toList.length = 5)]
  | unknown family =>
    have notUnix : "unix:".toList.isPrefixOf
        ("sa2str(".toList ++ printfD family ++ "): unknown proto".toList) = false := rfl
    have rest : "): unknown proto".toList = ')' :: ": unknown proto".toList := rfl
    have drop : ∀ t : List Char, ("sa2str(".toList ++ t).drop 7 = t := fun _ => List.drop_left' rfl
    rw [Endpoint.text, readEndpoint, notUnix, List.append_assoc, isPrefixOf_append, drop, rest,
      splitOn_pair ((allDigits_printfD family).not_mem paren) (by decide)]
    simp [readNumber_printfD]

/-! ## `sa2str` prints the endpoint -/

/-- The stack buffer of `sa2str` takes a text shorter than it whole, whatever it held. -/
theorem stack_snprintf (buf : Mathlib.Vector Char 128) {text : List Char} (room : text.length < 128)
    (nul : '\x00' ∉ text) : ∃ out, snprintf buf.toList 128 text = some out ∧ cstring out = text :=
  snprintf_fits room (by simp) nul

theorem inetText_length {p : List (BitVec 8)} (four : p.length = 4) :
    (inetText (p.map BitVec.toNat)).length < 128 := by
  have := length_intercalate_le '.' 3 ((p.map BitVec.toNat).map printfD)
    (by simpa using fun b _ => printfD_length b.isLt)
  simp only [List.length_map, four] at this
  unfold inetText
  omega

theorem inet6Text_length {p : List (BitVec 8)} (sixteen : p.length = 16) :
    (inet6Text (p.map BitVec.toNat)).length < 128 := by
  have := length_intercalate_le ':' 2 ((p.map BitVec.toNat).map printf02x)
    (by simpa using fun b _ => printf02x_length b.isLt)
  simp only [List.length_map, sixteen] at this
  unfold inet6Text
  omega

/-- Whatever the stack buffer holds, `sa2str` prints the text of the endpoint the address names,
and reads outside the structure exactly when a field of it lies outside. -/
theorem sa2str_endpoint (sa : Sockaddr) (buf : Mathlib.Vector Char 128) (dst : List Char)
    (dstlen : Int) :
    sa2str sa buf dst dstlen =
      sa.endpoint.bind fun e => some <$> snprintf dst (sizeT dstlen) e.text := by
  have nul : '\x00' ∈ ['.', ':', '/', ')', 'u', 's', '\x00'] := by decide
  unfold sa2str Sockaddr.endpoint
  split_ifs with inet inet6 unix
  · rw [inet_ntop, if_neg (by decide), if_pos rfl, load_drop _ (by decide)]
    cases addr : load sa.data 2 4 with
    | none => rfl
    | some p =>
      obtain ⟨out, written, whole⟩ := stack_snprintf buf (inetText_length (load_length addr))
        (not_mem_inetText (by decide) nul _)
      cases port : load sa.data 0 2 <;> simp [written, whole, port, Endpoint.text]
  · rw [inet_ntop, if_neg (by decide), if_neg (by decide), if_pos rfl, load_drop _ (by decide)]
    cases addr : load sa.data 6 16 with
    | none => rfl
    | some p =>
      obtain ⟨out, written, whole⟩ := stack_snprintf buf (inet6Text_length (load_length addr))
        (not_mem_inet6Text (by decide) nul _)
      cases port : load sa.data 0 2 <;> simp [written, whole, port, Endpoint.text]
  · cases path : printfS sa.data <;> simp [path, Endpoint.text]
  · simp [Endpoint.text]

/-- With room for the text, the buffer `sa2str` fills names the address: a reader of the log gets
the family, the address and the port back, or the path of a Unix socket, whatever the stack buffer
held. -/
theorem sa2str_round_trip {sa : Sockaddr} {e : Endpoint} (named : sa.endpoint = some e)
    (buf : Mathlib.Vector Char 128) {dst : List Char} {dstlen : Int}
    (room : e.text.length < dstlen) (inside : dstlen ≤ dst.length) :
    ∃ dst', sa2str sa buf dst dstlen = some (some dst') ∧ readEndpoint (cstring dst') = some e := by
  obtain ⟨out, written, whole⟩ : ∃ out, snprintf dst dstlen.toNat e.text = some out ∧
      cstring out = e.text :=
    snprintf_fits (by omega) (by omega) (nul_not_mem_text (endpoint_valid named))
  refine ⟨out, ?_, by rw [whole, readEndpoint_text (endpoint_valid named)]⟩
  rw [sa2str_endpoint, named, sizeT_of_nonneg (by omega)]
  simp [written]

/-- `127.0.0.1` port 8080, printed into a buffer of 32. -/
theorem sa2str_round_trip_loopback :
    ∃ dst', sa2str ⟨AF_INET, [0x1f#8, 0x90#8, 127#8, 0#8, 0#8, 1#8]⟩
        (Mathlib.Vector.replicate 128 'x') (List.replicate 32 'x') 32 = some (some dst') ∧
      readEndpoint (cstring dst') = some (.inet [127, 0, 0, 1] 8080) :=
  sa2str_round_trip (by rfl) _ (by decide) (by decide)

/-- A buffer too short for the text gets its first `dstlen - 1` characters and a NUL, and nothing
past `dstlen` changes; the call never returns `NULL`. -/
theorem sa2str_truncates {sa : Sockaddr} {e : Endpoint} (named : sa.endpoint = some e)
    (buf : Mathlib.Vector Char 128) {dst : List Char} {dstlen : Int} (pos : 0 < dstlen)
    (inside : dstlen ≤ dst.length) :
    ∃ dst', sa2str sa buf dst dstlen = some (some dst') ∧
      cstring dst' = e.text.take (dstlen.toNat - 1) ∧ dst'.drop dstlen.toNat = dst.drop dstlen.toNat := by
  obtain ⟨out, written, cut, frame⟩ := snprintf_prefix (by omega) (by omega : dstlen.toNat ≤ dst.length)
    (nul_not_mem_text (endpoint_valid named))
  refine ⟨out, ?_, cut, frame⟩
  rw [sa2str_endpoint, named, sizeT_of_nonneg (by omega)]
  simp [written]

/-- The IPv6 loopback with its port, cut to the 9 characters a buffer of 10 holds. -/
theorem sa2str_truncates_ipv6 :
    ∃ dst', sa2str ⟨AF_INET6, [0#8, 80#8] ++ List.replicate 19 0#8 ++ [1#8, 0#8, 0#8, 0#8, 0#8]⟩
        (Mathlib.Vector.replicate 128 'x') (List.replicate 16 'x') 10 = some (some dst') ∧
      cstring dst' = (Endpoint.inet6 (List.replicate 15 0 ++ [1]) 80).text.take 9 ∧
      dst'.drop 10 = (List.replicate 16 'x').drop 10 :=
  sa2str_truncates (by rfl) _ (by decide) (by decide)

/-- With a length inside the buffer, `sa2str` reads outside the structure exactly when a field it
prints lies outside it (for a Unix socket: when `sun_path` holds no NUL), and it never returns
`NULL`. -/
theorem sa2str_faults_iff (sa : Sockaddr) (buf : Mathlib.Vector Char 128) {dst : List Char}
    {dstlen : Int} (nonneg : 0 ≤ dstlen) (inside : dstlen ≤ dst.length) :
    (sa2str sa buf dst dstlen = none ↔ sa.endpoint = none) ∧ sa2str sa buf dst dstlen ≠ some none := by
  rw [sa2str_endpoint, sizeT_of_nonneg nonneg]
  cases sa.endpoint with
  | none => simp
  | some e =>
    obtain ⟨out, written⟩ := snprintf_some e.text (by omega : dstlen.toNat ≤ dst.length)
    simp [written]

/-- A Unix socket whose path fills `sun_path` without a NUL. -/
theorem sa2str_faults_iff_unterminated :
    (sa2str ⟨AF_UNIX, List.replicate 108 0x61#8⟩ (Mathlib.Vector.replicate 128 'x')
        (List.replicate 64 'x') 64 = none ↔
      (⟨AF_UNIX, List.replicate 108 0x61#8⟩ : Sockaddr).endpoint = none) ∧
    sa2str ⟨AF_UNIX, List.replicate 108 0x61#8⟩ (Mathlib.Vector.replicate 128 'x')
      (List.replicate 64 'x') 64 ≠ some none :=
  sa2str_faults_iff _ _ (by decide) (by decide)

/-- The compat `inet_ntop` on an address it can read and a length inside the buffer never reads
or writes outside them, returns `NULL` only with `EINVAL`, and returns `dst` exactly when the
length is not negative and the family is IPv4 or IPv6, however short the buffer is for the text. -/
theorem inet_ntop_null_iff (af : Nat) {src : List (BitVec 8)} {dst : List Char} {dstlen : Int}
    (readable : 16 ≤ src.length) (inside : dstlen ≤ dst.length) :
    (inet_ntop af src dst dstlen = some (.error .EINVAL) ∨
        ∃ out, inet_ntop af src dst dstlen = some (.ok out)) ∧
      ((∃ out, inet_ntop af src dst dstlen = some (.ok out)) ↔
        0 ≤ dstlen ∧ (af = AF_INET ∨ af = AF_INET6)) := by
  have loads : ∀ n ≤ 16, ∃ p, load src 0 n = some p := fun n small => ⟨_, if_pos (by omega)⟩
  unfold inet_ntop
  split_ifs with neg inet inet6
  · simp [neg]
  · obtain ⟨p, loaded⟩ := loads 4 (by decide)
    obtain ⟨out, written⟩ := snprintf_some (inetText (p.map BitVec.toNat))
      (by omega : dstlen.toNat ≤ dst.length)
    simp [loaded, written, inet, Int.not_lt.1 neg]
  · obtain ⟨p, loaded⟩ := loads 16 le_rfl
    obtain ⟨out, written⟩ := snprintf_some (inet6Text (p.map BitVec.toNat))
      (by omega : dstlen.toNat ≤ dst.length)
    simp [loaded, written, inet6, Int.not_lt.1 neg]
  · simp [inet, inet6]

end Libusual.Socket
