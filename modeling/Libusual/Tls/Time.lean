import Libusual.Tls.X509

/-!
# Certificate times

`tls_parse_time` prints an `ASN1_TIME` into a memory BIO, reads at most 127 bytes of the print
into a zeroed 128-byte buffer, turns the space of a space-padded day into `0`, cuts the buffer at
spaces with five `strsep` calls and formats the month, day, time and year fields with `asprintf`.

Everything the function decides is a function of the buffer it reads, `parseTimeBuf`. Through
`strsep_intercalate` the five `strsep` calls take the fields of the buffer's C string one by one,
so the buffer is read as a print split into fields: `tls_parse_time_run_iso` says that for any
print without NUL the result is `isoTime` of the first 127 bytes, the print split at single spaces.
The cut is visible: a print longer than 127 bytes is parsed from its prefix, and a year printed
with fewer than four digits is copied as it is (`tls_parse_time_long_fraction`,
`tls_parse_time_year_999`). `tls_parse_time_parsed` is the ledger side: the BIO is given back on
every path, and the result block is the only resource left.
-/

set_option autoImplicit false

namespace Libusual.TlsCert

/-! ## The model -/

/-- `static const char months[12][4]`, each entry without its terminator. -/
def months : List (List Char) :=
  ["Jan", "Feb", "Mar", "Apr", "May", "Jun", "Jul", "Aug", "Sep", "Oct", "Nov", "Dec"].map
    String.toList

/-- `BIO_new(BIO_s_mem())`. -/
def BIO_new : HeapM (Option Nat) := acquire .bio

/-- `BIO_free`. -/
def BIO_free (bio : Nat) : HeapM Unit := release ⟨.bio, bio⟩

/-- `ASN1_TIME_print(bio, t)`: 1 and the print when the time has one and the memory BIO takes it,
0 and nothing otherwise. -/
def ASN1_TIME_print (t : Asn1Time) : HeapM (Int × List Char) :=
  match t.printed with
  | none => pure (0, [])
  | some printed => do
    let stored ← attempt
    pure (if stored then (1, printed) else (0, []))

/-- `BIO_read(bio, buf, len)` of a BIO holding `contents`: its first `len` bytes over `buf`. -/
def BIO_read (contents buf : List Char) (len : Nat) : List Char :=
  let read := contents.take len
  read ++ buf.drop read.length

/-- The bytes `strsep` stops at. -/
def isDelim (c : Char) : Bool := c = ' ' ∨ c = '\x00'

/-- `strsep(&tmp, " ")`, with `tmp` the rest of the buffer from the pointer (`NULL` is `none`):
the token up to the first space or NUL, and the rest after that space, `NULL` at the NUL. -/
def strsep : Option (List Char) → Option (List Char) × Option (List Char)
  | none => (none, none)
  | some s =>
    match s.dropWhile (fun c => !isDelim c) with
    | ' ' :: rest => (some (s.takeWhile fun c => !isDelim c), some rest)
    | _ => (some (s.takeWhile fun c => !isDelim c), none)

/-- `memcmp(months[i], mon, 4) == 0`: the entry with its terminator against the four bytes at
`mon`, a token that `strsep` ended with a NUL. -/
def memcmpMonth (month mon : List Char) : Bool := month ++ ['\x00'] == (mon ++ ['\x00']).take 4

/-- `%02d`. -/
def printf02d (n : Nat) : List Char := if n < 10 then '0' :: Nat.toDigits 10 n else Nat.toDigits 10 n

/-- `if (buf[3] == ' ' && buf[4] == ' ') buf[4] = '0';` -/
def fixDay (buf : List Char) : List Char :=
  if buf[3]? = some ' ' ∧ buf[4]? = some ' ' then buf.set 4 '0' else buf

/-- What `tls_parse_time` makes of the buffer `BIO_read` filled: the message it records, or the
string it hands to `asprintf`. -/
def parseTimeBuf (buf : List Char) : Except String (List Char) :=
  let buf2 := buf
  let buf := fixDay buf
  let (mon, tmp) := strsep (some buf)
  let (day, tmp) := strsep tmp
  let (time, tmp) := strsep tmp
  let (year, tmp) := strsep tmp
  let (tz, tmp) := strsep tmp
  -- `mon`, `day` and `time` are set whenever `year` is
  match mon, day, time, year, tmp with
  | some mon, some day, some time, some year, none =>
    if tz.isSome ∧ tz ≠ some "GMT".toList then .error "invalid time format"
    else
      let i := months.findIdx fun month => memcmpMonth month mon
      if i > 11 then .error "invalid time format"
      else .ok (year ++ ['-'] ++ printf02d (i + 1) ++ ['-'] ++ day ++ ['T'] ++ time ++ ['Z'])
  | _, _, _, _, _ => .error ("invalid time format: no year: " ++ String.mk (cstring buf2))

/-- The `nomem:` exit. -/
def timeNomem : HeapM (Int × Option Blk) := do
  tls_set_error "no mem to parse time"
  return (-1, none)

/-- `tls_parse_time`: the return code and `*dst_p`. -/
def tls_parse_time (asn1time : Asn1Time) : HeapM (Int × Option Blk) := do
  let buf := List.replicate 128 '\x00'
  match ← BIO_new with
  | none => timeNomem
  | some bio =>
    let (ret, printed) ← ASN1_TIME_print asn1time
    if ret = 0 then
      BIO_free bio
      timeNomem
    else
      let buf := BIO_read printed buf 127
      BIO_free bio
      match parseTimeBuf buf with
      | .error msg =>
        tls_set_error msg
        return (-1, none)
      | .ok formatted =>
        -- `asprintf` allocates the formatted string and its terminator
        match ← malloc (formatted ++ ['\x00']) with
        | none => timeNomem
        | some tmp => return (0, some tmp)

/-! ## Resources -/

theorem timeNomem_run (h : Heap) :
    timeNomem.run h = ((-1, none), { h with errors := h.errors ++ ["no mem to parse time"] }) := rfl

theorem ASN1_TIME_print_run (t : Asn1Time) (h : Heap) :
    (ASN1_TIME_print t).run h =
      match t.printed with
      | none => ((0, []), h)
      | some printed =>
        (if h.fails h.next then (0, []) else (1, printed), { h with next := h.next + 1 }) := by
  unfold ASN1_TIME_print
  split
  · rfl
  · simp only [StateT.run_bind, attempt_run]
    cases h.fails h.next <;> rfl

/-- Giving the BIO back. -/
theorem BIO_free_extends {h h₁ : Heap} {a : Multiset Res} {msgs : List String} (bio : Nat)
    (ext : Extends h h₁ a msgs) (mem : ⟨.bio, bio⟩ ∈ a) :
    Extends h ((BIO_free bio).run h₁).2 (a.erase ⟨.bio, bio⟩) msgs :=
  ext.release mem

/-- The BIO is given back on every path, and the result's block is all `tls_parse_time` leaves. -/
theorem tls_parse_time_parsed (t : Asn1Time) (h : Heap) : Parsed h ((tls_parse_time t).run h) := by
  simp only [Parsed, tls_parse_time, StateT.run_bind, BIO_new, acquire_run]
  generalize List.replicate 128 '\x00' = zeros
  by_cases bioFail : h.fails h.next
  · simp only [bioFail, if_true, Id.bind_eq, timeNomem_run]
    exact ⟨_, Extends.bumpError h _, by simp⟩
  simp only [bioFail, Bool.false_eq_true, if_false, Id.bind_eq, StateT.run_bind, ASN1_TIME_print_run]
  have bio := Extends.acquired h .bio
  rcases printed : t.printed with _ | s
  · simp only [if_true, StateT.run_bind, Id.bind_eq, timeNomem_run]
    exact ⟨_, by simpa using (BIO_free_extends h.next bio (by simp)).trans (Extends.error _ _), by simp⟩
  by_cases printFail : h.fails (h.next + 1)
  · simp only [printFail, if_true, StateT.run_bind, Id.bind_eq, timeNomem_run]
    exact ⟨_, by simpa using
      (BIO_free_extends h.next (bio.trans (Extends.bump _)) (by simp)).trans (Extends.error _ _), by simp⟩
  have read := BIO_free_extends h.next (bio.trans (Extends.bump _)) (by simp)
  simp only [BIO_free, release_run, Multiset.mem_cons_self, if_true, Multiset.erase_cons_head,
    add_zero, Multiset.erase_singleton] at read
  simp only [printFail, Bool.false_eq_true, if_false, show (1 : Int) ≠ 0 by decide, StateT.run_bind,
    Id.bind_eq, BIO_free, release_run, Multiset.mem_cons_self, if_true, Multiset.erase_cons_head]
  generalize { h with next := h.next + 1 + 1 } = h₂ at read ⊢
  cases parseTimeBuf (BIO_read s zeros 127) with
  | error msg =>
    exact ⟨_, by simpa using read.trans (Extends.error _ msg), by simp⟩
  | ok formatted =>
    simp only [StateT.run_bind, malloc_run]
    by_cases allocFail : h₂.fails h₂.next
    · simp only [allocFail, if_true, Id.bind_eq, timeNomem_run]
      exact ⟨_, by simpa using read.trans (Extends.bumpError _ _), by simp⟩
    · simp only [allocFail, Bool.false_eq_true, if_false, Id.bind_eq, StateT.run_pure]
      exact ⟨_, by simpa [Blk.res] using read.trans (Extends.acquired _ .block), by simp⟩

/-! ## Reading the buffer field by field -/

/-- `strsep` on a field that ends at a delimiter. -/
theorem strsep_field (field rest : List Char) (d : Char) (clean : ∀ c ∈ field, isDelim c = false)
    (delim : isDelim d = true) :
    strsep (some (field ++ d :: rest)) = (some field, if d = ' ' then some rest else none) := by
  have keep : ∀ c ∈ field, (!isDelim c) = true := by simpa using clean
  simp only [strsep, List.takeWhile_append_of_pos keep, List.dropWhile_append_of_pos keep,
    List.takeWhile_cons, List.dropWhile_cons, delim, Bool.not_true, List.append_nil]
  split <;> simp_all [isDelim]

/-- The five `strsep` calls take the fields of the C string one at a time: on the fields joined
by single spaces, the first field, and the rest after it unless it was the last. -/
theorem strsep_intercalate (field : List Char) (fields : List (List Char)) (zs : List Char)
    (clean : ∀ f ∈ field :: fields, ∀ c ∈ f, isDelim c = false) :
    strsep (some ([' '].intercalate (field :: fields) ++ '\x00' :: zs)) =
      (some field, if fields = [] then none else some ([' '].intercalate fields ++ '\x00' :: zs)) := by
  have first := clean field (List.mem_cons_self _ _)
  cases fields with
  | nil => simpa [List.intercalate] using strsep_field field zs '\x00' first (by decide)
  | cons next fields =>
    have joined : [' '].intercalate (field :: next :: fields) =
        field ++ ' ' :: [' '].intercalate (next :: fields) := by
      simp [List.intercalate]
    rw [joined, List.append_assoc, List.cons_append, strsep_field _ _ ' ' first (by decide)]
    simp

/-- The fields of a string split at spaces hold no space, and only its characters. -/
theorem mem_of_mem_splitOn {print field : List Char} (mem : field ∈ print.splitOn ' ') :
    ∀ c ∈ field, c ≠ ' ' ∧ c ∈ print := by
  induction print generalizing field with
  | nil => simp_all [List.splitOn]
  | cons d print ih =>
    simp only [List.splitOn, List.splitOnP_cons] at mem
    obtain ⟨first, rest, split⟩ := List.exists_cons_of_ne_nil (List.splitOnP_ne_nil (· == ' ') print)
    have ih' : ∀ f ∈ first :: rest, ∀ c ∈ f, c ≠ ' ' ∧ c ∈ print := fun f m =>
      ih (by simpa [List.splitOn, split] using m)
    split at mem
    · rcases List.mem_cons.mp mem with rfl | mem
      · simp
      · intro c m
        have := ih (by simpa [List.splitOn] using mem) c m
        exact ⟨this.1, List.mem_cons_of_mem _ this.2⟩
    · rw [split] at mem
      simp only [List.modifyHead_cons, List.mem_cons] at mem
      rcases mem with rfl | mem
      · intro c m
        rcases List.mem_cons.mp m with rfl | m
        · exact ⟨by simpa using ‹¬(c == ' ') = true›, List.mem_cons_self _ _⟩
        · have := ih' first (List.mem_cons_self _ _) c m
          exact ⟨this.1, List.mem_cons_of_mem _ this.2⟩
      · intro c m
        have := ih' field (List.mem_cons_of_mem _ mem) c m
        exact ⟨this.1, List.mem_cons_of_mem _ this.2⟩

/-- The rest of the buffer while the fields `fields` are left, `NULL` when none is. -/
def restOf (zs : List Char) : List (List Char) → Option (List Char)
  | [] => none
  | field :: fields => some ([' '].intercalate (field :: fields) ++ '\x00' :: zs)

/-- `strsep` past the first `n` fields of a buffer of clean fields gives field `n`. -/
theorem strsep_drop (zs : List Char) (fields : List (List Char)) (n : Nat)
    (clean : ∀ f ∈ fields, ∀ c ∈ f, isDelim c = false) :
    strsep (restOf zs (fields.drop n)) = (fields[n]?, restOf zs (fields.drop (n + 1))) := by
  rw [← List.head?_drop, ← List.tail_drop]
  rcases rest : fields.drop n with _ | ⟨field, later⟩
  · rfl
  · have clean' : ∀ f ∈ field :: later, ∀ c ∈ f, isDelim c = false := fun f m =>
      clean f (List.mem_of_mem_drop (rest ▸ m))
    rw [restOf, strsep_intercalate field later zs clean']
    cases later <;> rfl

/-- A buffer that `BIO_read` filled from a zeroed buffer: the bytes read, a NUL, more NULs. -/
theorem BIO_read_zeros (print : List Char) :
    BIO_read print (List.replicate 128 '\x00') 127 =
      print.take 127 ++ '\x00' :: List.replicate (127 - (print.take 127).length) '\x00' := by
  have fits : 128 - (print.take 127).length = 127 - (print.take 127).length + 1 := by
    simp only [List.length_take]; omega
  simp only [BIO_read]
  rw [List.drop_replicate, fits, List.replicate_succ]

/-- The day fix looks only at the bytes before the NULs. -/
theorem fixDay_append_nul (bytes zs : List Char) (pad : ∀ c ∈ zs, c = '\x00') :
    fixDay (bytes ++ '\x00' :: zs) = fixDay bytes ++ '\x00' :: zs := by
  by_cases long : 4 < bytes.length
  · simp only [fixDay, List.getElem?_append_left (show 3 < bytes.length by omega),
      List.getElem?_append_left long, List.set_append_left _ _ long]
    split_ifs <;> rfl
  · have nothing : bytes[4]? = none := List.getElem?_eq_none (by omega)
    have noSpace : (bytes ++ '\x00' :: zs)[4]? ≠ some ' ' := by
      rw [List.getElem?_append_right (by omega)]
      intro found
      rcases List.mem_cons.mp (List.getElem?_mem found) with bad | bad
      · exact absurd bad (by decide)
      · exact absurd (pad _ bad) (by decide)
    simp [fixDay, nothing, noSpace]

theorem length_fixDay (bytes : List Char) : (fixDay bytes).length = bytes.length := by
  unfold fixDay; split_ifs <;> simp

theorem mem_fixDay {bytes : List Char} {c : Char} (mem : c ∈ fixDay bytes) : c ∈ bytes ∨ c = '0' := by
  unfold fixDay at mem
  split_ifs at mem
  · exact (List.mem_or_eq_of_mem_set mem).imp_right id
  · exact Or.inl mem

/-- The four bytes `memcmp` compares match a month exactly when the token is that month. -/
theorem memcmpMonth_eq (month mon : List Char) (three : month.length = 3) (nul : '\x00' ∉ mon) :
    memcmpMonth month mon = (month == mon) := by
  rw [memcmpMonth, Bool.eq_iff_iff, beq_iff_eq, beq_iff_eq]
  constructor
  · intro same
    by_cases short : mon.length ≤ 3
    · rw [List.take_of_length_le (by simp; omega)] at same
      exact List.append_cancel_right same
    · have third := congrArg (·[3]?) same
      simp only [List.getElem?_append_right (show month.length ≤ 3 by omega), three,
        List.getElem?_take_of_lt (show 3 < 4 by omega),
        List.getElem?_append_left (show 3 < mon.length by omega)] at third
      exact absurd (List.getElem?_mem third.symm) nul
  · rintro rfl
    rw [List.take_of_length_le (by simp [three])]

/-! ## A print split into fields -/

/-- The month abbreviations and their numbers. -/
def monthNumbers : List (List Char × List Char) :=
  [("Jan", "01"), ("Feb", "02"), ("Mar", "03"), ("Apr", "04"), ("May", "05"), ("Jun", "06"),
    ("Jul", "07"), ("Aug", "08"), ("Sep", "09"), ("Oct", "10"), ("Nov", "11"), ("Dec", "12")].map
    fun (mon, number) => (mon.toList, number.toList)

/-- `year-MM-dayTtimeZ` for a month abbreviation, `MM` its number. -/
def isoFields (mon day time year : List Char) : Option (List Char) :=
  (monthNumbers.lookup mon).map fun number =>
    year ++ ['-'] ++ number ++ ['-'] ++ day ++ ['T'] ++ time ++ ['Z']

/-- A print in the documented format: split at single spaces into four fields, or five with `GMT`
last, the first a month abbreviation. -/
def isoTime (print : List Char) : Option (List Char) :=
  match print.splitOn ' ' with
  | [mon, day, time, year] => isoFields mon day time year
  | [mon, day, time, year, tz] => if tz = "GMT".toList then isoFields mon day time year else none
  | _ => none

/-- The month loop finds a token's number exactly when the token is an abbreviation. -/
theorem monthNumbers_lookup (mon : List Char) (nul : '\x00' ∉ mon) :
    monthNumbers.lookup mon =
      if months.findIdx (fun month => memcmpMonth month mon) > 11 then none
      else some (printf02d (months.findIdx (fun month => memcmpMonth month mon) + 1)) := by
  by_cases known : mon ∈ months
  · simp only [months, List.map_cons, List.map_nil, List.mem_cons, List.not_mem_nil, or_false] at known
    rcases known with rfl | rfl | rfl | rfl | rfl | rfl | rfl | rfl | rfl | rfl | rfl | rfl <;>
      decide
  · have never : ∀ month ∈ months, memcmpMonth month mon = false := by
      intro month mem
      have three : month.length = 3 := by
        simp only [months, List.map_cons, List.map_nil, List.mem_cons, List.not_mem_nil,
          or_false] at mem
        rcases mem with rfl | rfl | rfl | rfl | rfl | rfl | rfl | rfl | rfl | rfl | rfl | rfl <;> rfl
      rw [memcmpMonth_eq month mon three nul, beq_eq_false_iff_ne]
      rintro rfl
      exact known mem
    rw [List.findIdx_eq_length.mpr never, if_pos (by decide), List.lookup_eq_none_iff]
    intro entry mem
    have key : entry.1 ∈ months := by
      rw [← show monthNumbers.map Prod.fst = months from rfl]
      exact List.mem_map_of_mem _ mem
    simpa using fun same : mon = entry.1 => known (same ▸ key)

/-- **The code reads its buffer as a print split into fields.** For the bytes before the NULs, the
fields `parseTimeBuf` formats are the fields of the fixed bytes split at single spaces. -/
theorem parseTimeBuf_toOption (bytes zs : List Char) (nul : '\x00' ∉ bytes)
    (pad : ∀ c ∈ zs, c = '\x00') :
    (parseTimeBuf (bytes ++ '\x00' :: zs)).toOption = isoTime (fixDay bytes) := by
  have fixedNul : '\x00' ∉ fixDay bytes := fun mem =>
    (mem_fixDay mem).elim nul (by decide)
  obtain ⟨fields, split⟩ : ∃ fields, (fixDay bytes).splitOn ' ' = fields := ⟨_, rfl⟩
  have clean : ∀ f ∈ fields, ∀ c ∈ f, isDelim c = false := by
    intro f mem c mc
    obtain ⟨space, inFixed⟩ := mem_of_mem_splitOn (split ▸ mem) c mc
    have : c ≠ '\x00' := fun e => fixedNul (e ▸ inFixed)
    simp [isDelim, space, this]
  have buffer : some (fixDay bytes ++ '\x00' :: zs) = restOf zs (fields.drop 0) := by
    obtain ⟨first, rest, cons⟩ := List.exists_cons_of_ne_nil (List.splitOnP_ne_nil (· == ' ') (fixDay bytes))
    have joined := List.intercalate_splitOn (fixDay bytes) ' '
    simp only [List.splitOn] at split joined
    rw [cons] at split joined
    rw [List.drop_zero, ← split, restOf, joined]
  simp only [parseTimeBuf, fixDay_append_nul bytes zs pad, buffer, strsep_drop zs fields _ clean,
    isoTime, split]
  rcases fields with _ | ⟨mon, _ | ⟨day, _ | ⟨time, _ | ⟨year, _ | ⟨tz, _ | ⟨extra, rest⟩⟩⟩⟩⟩⟩ <;>
    simp only [List.getElem?_cons_zero, List.getElem?_cons_succ, List.getElem?_nil, List.drop,
      restOf, Except.toOption]
  all_goals
    have monNul : '\x00' ∉ mon := fun mem => by simpa [isDelim] using clean mon (by simp) _ mem
    rw [isoFields, monthNumbers_lookup mon monNul]
  · simp only [Option.isSome_none, Bool.false_eq_true, false_and, if_false]
    split_ifs <;> rfl
  · by_cases gmt : tz = "GMT".toList
    · simp only [gmt, Option.isSome_some, ne_eq, not_true_eq_false, and_false, if_false, if_true]
      split_ifs <;> rfl
    · simp only [gmt, Option.isSome_some, ne_eq, Option.some.injEq, not_false_eq_true, and_self,
        if_true, if_false]

/-- With no allocation failing, a time with a print gives what `parseTimeBuf` makes of the
buffer `BIO_read` filled. -/
theorem tls_parse_time_run_printed (t : Asn1Time) (print : List Char) (h : Heap)
    (printed : t.printed = some print) (noFail : ∀ n, h.fails n = false) :
    ((tls_parse_time t).run h).1 =
      match parseTimeBuf (BIO_read print (List.replicate 128 '\x00') 127) with
      | .error _ => (-1, none)
      | .ok formatted => (0, some ⟨h.next + 2, formatted ++ ['\x00']⟩) := by
  simp only [tls_parse_time, StateT.run_bind, BIO_new, acquire_run, noFail, Bool.false_eq_true,
    if_false, Id.bind_eq, ASN1_TIME_print_run, printed, show (1 : Int) ≠ 0 by decide, BIO_free,
    release_run, Multiset.mem_cons_self, if_true, Multiset.erase_cons_head]
  split
  · rfl
  · simp [malloc_run, noFail]

/-- `tls_parse_time` reads the first 127 bytes of a print: with no allocation failing, it
succeeds exactly when they, day-fixed and split at single spaces, have the documented shape, and
returns their ISO 8601 string. -/
theorem tls_parse_time_run_iso (t : Asn1Time) (print : List Char) (h : Heap)
    (printed : t.printed = some print) (nul : '\x00' ∉ print) (noFail : ∀ n, h.fails n = false) :
    ((tls_parse_time t).run h).1 =
      match isoTime (fixDay (print.take 127)) with
      | some iso => (0, some ⟨h.next + 2, iso ++ ['\x00']⟩)
      | none => (-1, none) := by
  rw [tls_parse_time_run_printed t print h printed noFail, BIO_read_zeros,
    ← parseTimeBuf_toOption (print.take 127)
      (List.replicate (127 - (print.take 127).length) '\x00')
      (fun mem => nul (List.mem_of_mem_take mem)) (fun _ mem => List.eq_of_mem_replicate mem)]
  cases parseTimeBuf _ <;> rfl

/-- **A print that fits is parsed field by field.** For a print of at most 127 bytes
without NUL, and no allocation failing, `tls_parse_time` succeeds exactly when the day-fixed
print split at single spaces is a month abbreviation, a day, a time, a year and optionally `GMT`,
and then returns the ISO 8601 string of those fields. -/
theorem tls_parse_time_short_print (t : Asn1Time) (print : List Char) (h : Heap)
    (printed : t.printed = some print) (nul : '\x00' ∉ print) (short : print.length ≤ 127)
    (noFail : ∀ n, h.fails n = false) :
    let ((ret, dst), _) := (tls_parse_time t).run h
    (ret = 0 ↔ (isoTime (fixDay print)).isSome) ∧
      dst.map Blk.data = (isoTime (fixDay print)).map (· ++ ['\x00']) := by
  have run := tls_parse_time_run_iso t print h printed nul noFail
  rw [List.take_of_length_le short] at run
  generalize isoTime (fixDay print) = parsed at run ⊢
  rcases result : (tls_parse_time t).run h with ⟨⟨ret, dst⟩, h'⟩
  rw [result] at run
  cases parsed <;> obtain ⟨rfl, rfl⟩ := Prod.mk.inj run <;> simp

set_option maxRecDepth 4000 in
/-- The print of 1 January 2024. -/
theorem tls_parse_time_short_print_new_year :
    let ((ret, dst), _) := (tls_parse_time ⟨some "Jan  1 00:00:00 2024 GMT".toList⟩).run Heap.init
    (ret = 0 ↔ (isoTime (fixDay "Jan  1 00:00:00 2024 GMT".toList)).isSome) ∧
      dst.map Blk.data = (isoTime (fixDay "Jan  1 00:00:00 2024 GMT".toList)).map (· ++ ['\x00']) :=
  tls_parse_time_short_print _ _ Heap.init rfl (by decide) (by decide) fun _ => rfl

set_option maxRecDepth 20000 in
/-- A print of 133 bytes whose fraction is long enough for the cut to fall inside the year: the
code returns year `20` where the whole print's fields give `2024`. -/
theorem tls_parse_time_long_fraction :
    ((tls_parse_time ⟨some ("Jan  1 00:00:00.".toList ++ List.replicate 108 '1' ++
        " 2024 GMT".toList)⟩).run Heap.init).1 =
      (0, some ⟨2, "20-01-01T00:00:00.".toList ++ List.replicate 108 '1' ++ ['Z', '\x00']⟩) ∧
    isoTime (fixDay ("Jan  1 00:00:00.".toList ++ List.replicate 108 '1' ++ " 2024 GMT".toList)) =
      some ("2024-01-01T00:00:00.".toList ++ List.replicate 108 '1' ++ ['Z']) := by
  decide

/-! ## Certificate times and their canonical form -/

/-- A certificate time, by the fields `ASN1_TIME_print` prints. -/
structure CertTime where
  /-- The month, 0 for January. -/
  month : Fin 12
  day : Nat
  hour : Nat
  minute : Nat
  second : Nat
  /-- The fractional seconds as printed: nothing, or a point and digits. -/
  fraction : List Char
  year : Nat
  deriving DecidableEq, Repr

/-- A time a certificate can hold. -/
structure CertTime.Valid (t : CertTime) : Prop where
  day_pos : 1 ≤ t.day
  day_le : t.day ≤ 31
  hour_lt : t.hour < 24
  minute_lt : t.minute < 60
  second_lt : t.second < 60
  fraction_digits : ∀ c ∈ t.fraction, c = '.' ∨ c.isDigit

/-- `%2d`. -/
def printf2d (n : Nat) : List Char := if n < 10 then ' ' :: Nat.toDigits 10 n else Nat.toDigits 10 n

/-- `hh:mm:ss[.f]` as `ASN1_TIME_print` writes it. -/
def CertTime.clock (t : CertTime) : List Char :=
  printf02d t.hour ++ [':'] ++ printf02d t.minute ++ [':'] ++ printf02d t.second ++ t.fraction

/-- What `ASN1_TIME_print` writes for a time in GMT: `"%s %2d %02d:%02d:%02d%.*s %d GMT"`. -/
def CertTime.print (t : CertTime) : List Char :=
  months.getD t.month [] ++ [' '] ++ printf2d t.day ++ [' '] ++ t.clock ++ [' '] ++
    Nat.toDigits 10 t.year ++ " GMT".toList

/-- The last two decimal digits. -/
def twoDigits (n : Nat) : List Char := [Nat.digitChar (n / 10 % 10), Nat.digitChar (n % 10)]

/-- The last four decimal digits. -/
def fourDigits (n : Nat) : List Char :=
  [Nat.digitChar (n / 1000 % 10), Nat.digitChar (n / 100 % 10), Nat.digitChar (n / 10 % 10),
    Nat.digitChar (n % 10)]

/-- Everything of the canonical string after the year: `-MM-DDThh:mm:ss[.f]Z`. -/
def CertTime.isoRest (t : CertTime) : List Char :=
  ['-'] ++ twoDigits (t.month + 1) ++ ['-'] ++ twoDigits t.day ++ ['T'] ++ twoDigits t.hour ++
    [':'] ++ twoDigits t.minute ++ [':'] ++ twoDigits t.second ++ t.fraction ++ ['Z']

/-- The canonical ISO 8601 string `YYYY-MM-DDThh:mm:ss[.f]Z` of a time. -/
def CertTime.iso (t : CertTime) : List Char := fourDigits t.year ++ t.isoRest

theorem toDigits_of_lt {n : Nat} (small : n < 10) : Nat.toDigits 10 n = [Nat.digitChar n] := by
  simp [Nat.toDigits, Nat.toDigitsCore, Nat.div_eq_of_lt small, Nat.mod_eq_of_lt small]

theorem toDigits_two {n : Nat} (large : 10 ≤ n) (small : n < 100) : Nat.toDigits 10 n = twoDigits n := by
  obtain ⟨k, rfl⟩ : ∃ k, n = k + 1 := ⟨n - 1, by omega⟩
  have tens : (k + 1) / 10 / 10 = 0 := by omega
  have tens' : (k + 1) / 10 % 10 = (k + 1) / 10 := by omega
  simp [Nat.toDigits, Nat.toDigitsCore, twoDigits, tens, tens', show (k + 1) / 10 ≠ 0 by omega]

theorem toDigits_four {n : Nat} (large : 1000 ≤ n) (small : n < 10000) :
    Nat.toDigits 10 n = fourDigits n := by
  obtain ⟨k, rfl⟩ : ∃ k, n = k + 3 := ⟨n - 3, by omega⟩
  have d1 : (k + 3) / 10 ≠ 0 := by omega
  have d2 : (k + 3) / 10 / 10 ≠ 0 := by omega
  have d3 : (k + 3) / 10 / 10 / 10 ≠ 0 := by omega
  have d4 : (k + 3) / 10 / 10 / 10 / 10 = 0 := by omega
  simp only [Nat.toDigits, Nat.toDigitsCore, d1, d2, d3, d4, if_false, if_true]
  simp only [fourDigits, Nat.div_div_eq_div_mul]

theorem printf02d_eq {n : Nat} (small : n < 100) : printf02d n = twoDigits n := by
  by_cases one : n < 10
  · simp [printf02d, one, toDigits_of_lt one, twoDigits, Nat.div_eq_of_lt one, Nat.mod_eq_of_lt one]
    rfl
  · simp [printf02d, one, toDigits_two (by omega) small]

theorem digitChar_not_delim : ∀ d < 10, isDelim (Nat.digitChar d) = false := by decide

theorem toDigits_not_delim (n : Nat) : ∀ c ∈ Nat.toDigits 10 n, isDelim c = false := by
  intro c mem
  obtain ⟨d, small, rfl⟩ := mem_toDigits mem
  exact digitChar_not_delim d small

theorem twoDigits_not_delim (n : Nat) : ∀ c ∈ twoDigits n, isDelim c = false := by
  simp [twoDigits, digitChar_not_delim _ (Nat.mod_lt _ (show 10 > 0 by decide))]

theorem months_length : ∀ month : Fin 12, (months.getD month []).length = 3 := by decide

theorem months_not_delim : ∀ month : Fin 12, ∀ c ∈ months.getD month [], isDelim c = false := by
  decide

theorem monthNumbers_lookup_month :
    ∀ month : Fin 12, monthNumbers.lookup (months.getD month []) = some (twoDigits (month.val + 1)) := by
  decide

theorem clock_not_delim (t : CertTime) (valid : t.Valid) : ∀ c ∈ t.clock, isDelim c = false := by
  have fraction : ∀ c ∈ t.fraction, isDelim c = false := fun c mem => by
    rcases valid.fraction_digits c mem with rfl | digit
    · rfl
    · have : c ≠ ' ' ∧ c ≠ '\x00' := by
        constructor <;> rintro rfl <;> exact absurd digit (by decide)
      simp [isDelim, this]
  simp only [CertTime.clock, printf02d_eq (show t.hour < 100 by have := valid.hour_lt; omega),
    printf02d_eq (show t.minute < 100 by have := valid.minute_lt; omega),
    printf02d_eq (show t.second < 100 by have := valid.second_lt; omega), List.forall_mem_append,
    List.forall_mem_singleton]
  exact ⟨⟨⟨⟨⟨twoDigits_not_delim _, rfl⟩, twoDigits_not_delim _⟩, rfl⟩, twoDigits_not_delim _⟩,
    fraction⟩

/-- The day fix turns the print of a valid time into its five fields joined by single spaces, the
day in two digits. -/
theorem fixDay_print (t : CertTime) (valid : t.Valid) :
    fixDay t.print = [' '].intercalate [months.getD t.month [], twoDigits t.day, t.clock,
      Nat.toDigits 10 t.year, "GMT".toList] := by
  obtain ⟨a, b, c, mon⟩ := List.length_eq_three.mp (months_length t.month)
  by_cases padded : t.day < 10
  · have day : printf2d t.day = [' ', Nat.digitChar t.day] := by
      simp [printf2d, padded, toDigits_of_lt padded]
    have two : twoDigits t.day = ['0', Nat.digitChar t.day] := by
      simp [twoDigits, Nat.div_eq_of_lt padded, Nat.mod_eq_of_lt padded]; rfl
    simp only [CertTime.print, mon, day]
    simp [fixDay, two, List.intercalate]
  · have day : printf2d t.day = twoDigits t.day := by
      simp [printf2d, padded, @toDigits_two t.day (by omega) (by have := valid.day_le; omega)]
    have tens : Nat.digitChar (t.day / 10 % 10) ≠ ' ' := fun e => by
      simpa [e, isDelim] using digitChar_not_delim _ (Nat.mod_lt (t.day / 10) (by decide))
    simp only [CertTime.print, mon, day]
    simp [fixDay, twoDigits, tens, List.intercalate]

/-- A valid time's day-fixed print is read as its month, two-digit day, clock and year, and the
code's string is the year as printed followed by the canonical rest. -/
theorem isoTime_print (t : CertTime) (valid : t.Valid) :
    isoTime (fixDay t.print) = some (Nat.toDigits 10 t.year ++ t.isoRest) := by
  have noSpace : ∀ l ∈ [months.getD t.month [], twoDigits t.day, t.clock, Nat.toDigits 10 t.year,
      "GMT".toList], ' ' ∉ l := by
    intro l mem space
    have clean : ∀ c ∈ l, isDelim c = false := by
      simp only [List.mem_cons, List.mem_singleton, List.not_mem_nil, or_false] at mem
      rcases mem with rfl | rfl | rfl | rfl | rfl
      · exact months_not_delim _
      · exact twoDigits_not_delim _
      · exact clock_not_delim t valid
      · exact toDigits_not_delim _
      · decide
    exact absurd (clean ' ' space) (by decide)
  rw [fixDay_print t valid, isoTime, List.splitOn_intercalate _ ' ' noSpace (by simp)]
  simp only [if_true, isoFields, monthNumbers_lookup_month, Option.map_some']
  simp [CertTime.isoRest, CertTime.clock,
    printf02d_eq (show t.hour < 100 by have := valid.hour_lt; omega),
    printf02d_eq (show t.minute < 100 by have := valid.minute_lt; omega),
    printf02d_eq (show t.second < 100 by have := valid.second_lt; omega)]

theorem print_nul (t : CertTime) (valid : t.Valid) : '\x00' ∉ t.print := by
  have notNul : ∀ l : List Char, (∀ c ∈ l, isDelim c = false) → ∀ c ∈ l, c ≠ '\x00' :=
    fun l clean c mem nul => absurd (clean c mem) (by simp [nul, isDelim])
  have day : ∀ c ∈ printf2d t.day, c ≠ '\x00' := by
    unfold printf2d
    split_ifs
    · simpa using notNul _ (toDigits_not_delim t.day)
    · exact notNul _ (toDigits_not_delim t.day)
  have all : ∀ c ∈ t.print, c ≠ '\x00' := by
    simp only [CertTime.print, List.forall_mem_append]
    exact ⟨⟨⟨⟨⟨⟨⟨notNul _ (months_not_delim _), by decide⟩, day⟩, by decide⟩,
      notNul _ (clock_not_delim t valid)⟩, by decide⟩, notNul _ (toDigits_not_delim _)⟩, by decide⟩
  exact fun mem => all _ mem rfl

/-- **A time with a four-digit year comes back canonical.** For a valid time whose year has four
digits and whose print fits the 127 bytes read, with no allocation failing, `tls_parse_time`
returns `YYYY-MM-DDThh:mm:ss[.f]Z`, the day zero-padded. -/
theorem tls_parse_time_canonical (t : CertTime) (h : Heap) (valid : t.Valid)
    (fourDigitYear : 1000 ≤ t.year ∧ t.year ≤ 9999) (fits : t.print.length ≤ 127)
    (noFail : ∀ n, h.fails n = false) :
    ((tls_parse_time ⟨some t.print⟩).run h).1 = (0, some ⟨h.next + 2, t.iso ++ ['\x00']⟩) := by
  rw [tls_parse_time_run_iso ⟨some t.print⟩ t.print h rfl (print_nul t valid) noFail,
    List.take_of_length_le fits, isoTime_print t valid, CertTime.iso,
    toDigits_four fourDigitYear.1 (by omega)]

theorem tls_parse_time_canonical_single_digit_day :
    ((tls_parse_time ⟨some (CertTime.print ⟨0, 1, 0, 0, 0, [], 2024⟩)⟩).run Heap.init).1 =
      (0, some ⟨2, "2024-01-01T00:00:00Z".toList ++ ['\x00']⟩) :=
  tls_parse_time_canonical ⟨0, 1, 0, 0, 0, [], 2024⟩ Heap.init
    ⟨by decide, by decide, by decide, by decide, by decide, by simp⟩ (by decide) (by decide)
    (fun _ => rfl)

set_option maxRecDepth 20000 in
/-- A year below 1000 is printed with fewer than four digits and copied as it is printed: January 1
of the year 999 comes back as `999-01-01T00:00:00Z`, not `0999-01-01T00:00:00Z`. -/
theorem tls_parse_time_year_999 :
    ((tls_parse_time ⟨some (CertTime.print ⟨0, 1, 0, 0, 0, [], 999⟩)⟩).run Heap.init).1 =
      (0, some ⟨2, "999-01-01T00:00:00Z".toList ++ ['\x00']⟩) ∧
    CertTime.iso ⟨0, 1, 0, 0, 0, [], 999⟩ = "0999-01-01T00:00:00Z".toList := by
  decide

end Libusual.TlsCert
