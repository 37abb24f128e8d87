import RmpEval.LiveSource
import RmpEval.Sender
import Mathlib.Data.Nat.Digits

/-!
# What the program prints about the host and the run

Before the checks, `ReportSystemConfiguration` prints a banner: the host name
and `GetOSInfo`, then `GetCpuInfo`, then the kernel.  Before a measurement that
has an iteration count, `main` prints `GetEstimatedRunTime`.

*The estimated run time.*  `GetEstimatedRunTime` multiplies the iteration count
by the period in `uint64_t`, so the product wraps, and writes the result as
`HH:MM:SS.mmm`, each field with `std::setfill('0') << std::setw(n)`.  The hours
are not reduced, so they take two digits or as many more as they need.
`readRunTime_getEstimatedRunTime` reads the text back: it is the whole number
of milliseconds of the wrapped product.

*The operating system.*  `GetOSInfo` reads `/etc/os-release` with `Slurp`.
The first line that starts with `PRETTY_NAME=` gives the name.  Without one,
the last `NAME=` line and the last `VERSION=` line do.  A value in double
quotes loses them: `substr(1, size() - 2)`.  `getOSInfo_eq` says this with
`List.find?` and `List.getLast?` in place of the two loops.

*The processors.*  `GetCpuInfo` prints the model `CpuModelString` finds and,
when `sysconf` counts online processors, the number of distinct
`(package, core)` pairs and of performance and efficiency cores read from the
`cpu*` directories of `/sys/devices/system/cpu`.  `cpuTopology_eq` gives the
counts as a set and two `countP`s over the listing, and `getCpuInfo_perm`
that the order in which the directory lists its entries does not matter when
no entry makes `is_directory()` throw.  A `Fault` carries no message, so the
model cannot tell which entry a `filesystem_error` names.

`CpuModelString` asks `lscpu` through `popen` for a `Model name:`, then a
`Hardware:`, then an `Architecture:` line; failing those, `/proc/cpuinfo` for
the first line that starts with one of four keys; failing that, `uname`'s
machine.  The text of the pipe and `uname`'s machine are inputs here.  The
pipe is read with `fgets` and `append(buffer)`, which stops at a NUL, so a NUL
drops the rest of its `fgets` chunk (`cString`).

`GetHostname` and `GetKernelInfo` print fields of `uname()` as they are and
decide nothing; they are not modelled.
-/

namespace RmpEval

/-! ## The estimated run time -/

/-- `std::setfill('0') << std::setw(width) << n`: the decimal digits of `n`,
with zeros in front up to `width` characters.  A longer number is written
whole. -/
def zeroPadded (width n : Nat) : String := String.leftpad width '0' (toString n)

theorem zeroPadded_data (width n : Nat) :
    (zeroPadded width n).data =
      List.replicate (width - (Nat.toDigits 10 n).length) '0' ++ Nat.toDigits 10 n :=
  rfl

/-- `GetEstimatedRunTime`. -/
def getEstimatedRunTime (iterations sleepNanoseconds : U64) : String :=
  let totalNanoseconds := (iterations * sleepNanoseconds).val
  let hours := totalNanoseconds / (60 * 60 * nanoPerSec)
  let minutes := totalNanoseconds / (60 * nanoPerSec) % 60
  let seconds := totalNanoseconds / nanoPerSec % 60
  let milliseconds := totalNanoseconds / 1000000 % 1000
  zeroPadded 2 hours ++ ":" ++ zeroPadded 2 minutes ++ ":" ++ zeroPadded 2 seconds ++ "." ++
    zeroPadded 3 milliseconds

/-- Reads `HH:MM:SS.mmm` back as milliseconds: at least two digits of hours,
two of minutes and of seconds below sixty, three of milliseconds. -/
def readRunTime (text : String) : Option Nat :=
  let hours := text.data.takeWhile Char.isDigit
  match text.data.dropWhile Char.isDigit with
  | [':', m₁, m₂, ':', s₁, s₂, '.', l₁, l₂, l₃] =>
    if 2 ≤ hours.length ∧ [m₁, m₂, s₁, s₂, l₁, l₂, l₃].all Char.isDigit ∧
        digitsValue [m₁, m₂] < 60 ∧ digitsValue [s₁, s₂] < 60 then
      some (digitsValue hours * 3600000 + digitsValue [m₁, m₂] * 60000 +
        digitsValue [s₁, s₂] * 1000 + digitsValue [l₁, l₂, l₃])
    else none
  | _ => none

theorem digitChar_isDigit : ∀ k < 10, (Nat.digitChar k).isDigit := by decide

theorem digitChar_value : ∀ k < 10, (Nat.digitChar k).toNat - '0'.toNat = k := by decide

/-- The digits `Nat.toDigits` writes, with enough fuel, read back as the
number: the fold that `digitsValue` makes starts again from `n` on what
follows them. -/
theorem foldl_toDigitsCore (f n : Nat) (ds : List Char) (hn : n < f) :
    (Nat.toDigitsCore 10 f n ds).foldl (fun acc d => 10 * acc + (d.toNat - '0'.toNat)) 0 =
      ds.foldl (fun acc d => 10 * acc + (d.toNat - '0'.toNat)) n := by
  induction f generalizing n ds with
  | zero => omega
  | succ f ih =>
    have hdigit := digitChar_value (n % 10) (Nat.mod_lt _ (by decide))
    simp only [Nat.toDigitsCore]
    split
    · simp only [List.foldl_cons, hdigit]
      congr 1
      omega
    · rw [ih _ _ (by omega), List.foldl_cons, hdigit]
      congr 1
      omega

theorem isDigit_of_mem_toDigitsCore (f n : Nat) (ds : List Char) (hds : ∀ c ∈ ds, c.isDigit) :
    ∀ c ∈ Nat.toDigitsCore 10 f n ds, c.isDigit := by
  induction f generalizing n ds with
  | zero => exact hds
  | succ f ih =>
    have hdigit := digitChar_isDigit (n % 10) (Nat.mod_lt _ (by decide))
    simp only [Nat.toDigitsCore]
    split
    · simpa [hdigit] using hds
    · exact ih _ _ (by simpa [hdigit] using hds)

theorem digitsValue_replicate_zero (k : Nat) (ds : List Char) :
    digitsValue (List.replicate k '0' ++ ds) = digitsValue ds := by
  induction k with
  | zero => rfl
  | succ k ih => simpa [digitsValue, List.replicate_succ] using ih

/-- What `setw` writes reads back as the number. -/
theorem digitsValue_zeroPadded (width n : Nat) : digitsValue (zeroPadded width n).data = n := by
  simp only [zeroPadded_data, digitsValue_replicate_zero]
  exact foldl_toDigitsCore _ _ [] (Nat.lt_succ_self n)

theorem isDigit_of_mem_zeroPadded (width n : Nat) : ∀ c ∈ (zeroPadded width n).data, c.isDigit := by
  simp only [zeroPadded_data, List.mem_append, List.mem_replicate]
  rintro c (⟨-, rfl⟩ | hc)
  · rfl
  · exact isDigit_of_mem_toDigitsCore _ _ [] (by simp) c hc

/-- A number below `10 ^ width` fills its field exactly. -/
theorem length_zeroPadded {width n : Nat} (hw : 0 < width) (hn : n < 10 ^ width) :
    (zeroPadded width n).data.length = width := by
  have hlen := Nat.repr_length n width hw hn
  simp only [Nat.repr, String.length, List.asString] at hlen
  simp only [zeroPadded_data, List.length_append, List.length_replicate]
  exact Nat.sub_add_cancel hlen

/-- `setw` writes at least `width` characters. -/
theorem le_length_zeroPadded (width n : Nat) : width ≤ (zeroPadded width n).length := by
  show width ≤ (zeroPadded width n).data.length
  simp only [zeroPadded_data, List.length_append, List.length_replicate]
  omega

/-- The four fields, whatever they hold, read back as the milliseconds they
stand for. -/
theorem readRunTime_fields {hours minutes seconds milliseconds : Nat} (hm : minutes < 60)
    (hs : seconds < 60) (hl : milliseconds < 1000) :
    readRunTime (zeroPadded 2 hours ++ ":" ++ zeroPadded 2 minutes ++ ":" ++ zeroPadded 2 seconds ++
        "." ++ zeroPadded 3 milliseconds) =
      some (hours * 3600000 + minutes * 60000 + seconds * 1000 + milliseconds) := by
  obtain ⟨m₁, m₂, hM⟩ := List.length_eq_two.mp
    (length_zeroPadded (by decide) (show minutes < 10 ^ 2 by omega))
  obtain ⟨s₁, s₂, hS⟩ := List.length_eq_two.mp
    (length_zeroPadded (by decide) (show seconds < 10 ^ 2 by omega))
  obtain ⟨l₁, l₂, l₃, hL⟩ := List.length_eq_three.mp
    (length_zeroPadded (by decide) (show milliseconds < 10 ^ 3 by omega))
  have hH := isDigit_of_mem_zeroPadded 2 hours
  have hMd : ∀ c ∈ [m₁, m₂], c.isDigit := hM ▸ isDigit_of_mem_zeroPadded 2 minutes
  have hSd : ∀ c ∈ [s₁, s₂], c.isDigit := hS ▸ isDigit_of_mem_zeroPadded 2 seconds
  have hLd : ∀ c ∈ [l₁, l₂, l₃], c.isDigit := hL ▸ isDigit_of_mem_zeroPadded 3 milliseconds
  have hmv : digitsValue [m₁, m₂] = minutes := hM ▸ digitsValue_zeroPadded 2 minutes
  have hsv : digitsValue [s₁, s₂] = seconds := hS ▸ digitsValue_zeroPadded 2 seconds
  have hlv : digitsValue [l₁, l₂, l₃] = milliseconds := hL ▸ digitsValue_zeroPadded 3 milliseconds
  simp only [readRunTime, String.data_append, hM, hS, hL, List.append_assoc]
  rw [List.takeWhile_append_of_pos hH, List.dropWhile_append_of_pos hH]
  simp [hMd, hSd, hLd, hmv, hsv, hlv, hm, hs, le_length_zeroPadded, digitsValue_zeroPadded]

example : getEstimatedRunTime 360000 1000000000 = "100:00:00.000" ∧ readRunTime "1:00:00.000" = none := by
  decide

/-! ## The machine -/

/-- What the system information functions read: the files `Slurp` opens, with
`ReadBufferSize` and `MaxFileSize`; the host, for the listing of
`/sys/devices/system/cpu`; `sysconf(_SC_NPROCESSORS_ONLN)`; the text `lscpu`
writes into the pipe, `none` when `popen` fails; `Evaluator::MaxOutputSize`;
and `uname()`'s machine, `none` when `uname` fails. -/
structure Machine where
  bufferSize : Nat
  maxFileSize : Nat
  files : Files
  host : Host
  online : Int
  lscpu : Option (List Char)
  maxOutputSize : Nat
  machine : Option String

/-- `Slurp(path)`, with its default `max_bytes`. -/
def Machine.slurp (m : Machine) (path : String) : Option String :=
  RmpEval.slurp m.bufferSize m.files path m.maxFileSize

/-! ## The operating system -/

/-- `!value.empty() && value.front() == '"' && value.back() == '"'`. -/
def quoted (value : String) : Bool :=
  value.data.head? == some '"' && value.data.getLast? == some '"'

/-- `value = value.substr(1, value.size() - 2)` when the value is quoted.  For
a lone quote the `size_t` difference wraps to `npos`, and `substr(1, npos)`
reads to the end, which is empty as with a count of zero; so the difference is
taken in `Nat`. -/
def stripQuotes (value : String) : Cpp String :=
  if quoted value then substr value 1 (value.length - 2) else .ok value

/-- The first loop of `GetOSInfo`: the value of the first line that starts
with `PRETTY_NAME=`. -/
def prettyNameLoop : List String → Cpp (Option String)
  | [] => .ok none
  | line :: rest =>
    if startsWith line "PRETTY_NAME=" then some <$> (substrFrom line 12 >>= stripQuotes)
    else prettyNameLoop rest

/-- One pass of the second loop of `GetOSInfo`, on `name` and `version`. -/
def nameVersionStep (acc : String × String) (line : String) : Cpp (String × String) :=
  if startsWith line "NAME=" then (·, acc.2) <$> (substrFrom line 5 >>= stripQuotes)
  else if startsWith line "VERSION=" then (acc.1, ·) <$> (substrFrom line 8 >>= stripQuotes)
  else .ok acc

/-- `GetOSInfo`. -/
def getOSInfo (m : Machine) : Cpp String :=
  match m.slurp "/etc/os-release" with
  | none => .ok ("OS: " ++ "unknown")
  | some content => do
    match ← prettyNameLoop (lines content) with
    | some value => pure ("OS: " ++ value)
    | none =>
      let (name, version) ← (lines content).foldlM nameVersionStep ("", "")
      pure ("OS: " ++
        if name.isEmpty then "unknown" else if version.isEmpty then name else name ++ " " ++ version)

/-- A value without the quotes around it. -/
def unquoted (value : String) : String :=
  if quoted value then ⟨(value.data.drop 1).dropLast⟩ else value

/-- The value a line gives to the key it starts with. -/
def keyValue (key line : String) : String := unquoted ⟨line.data.drop key.length⟩

/-- The value of the last line that starts with `key`, empty when none does. -/
def lastValue (key : String) (ls : List String) : String :=
  (((ls.filter (startsWith · key)).getLast?).map (keyValue key)).getD ""

/-- What `GetOSInfo` prints after `OS: ` for the lines of `/etc/os-release`. -/
def osName (ls : List String) : String :=
  match ls.find? (startsWith · "PRETTY_NAME=") with
  | some line => keyValue "PRETTY_NAME=" line
  | none =>
    let name := lastValue "NAME=" ls
    let version := lastValue "VERSION=" ls
    if name.isEmpty then "unknown" else if version.isEmpty then name else name ++ " " ++ version

theorem stripQuotes_eq (value : String) : stripQuotes value = .ok (unquoted value) := by
  unfold stripQuotes unquoted
  split_ifs with hq
  · have hlen : 1 ≤ value.length := by
      cases h : value.data with
      | nil => simp [quoted, h] at hq
      | cons c cs => simp [String.length, h]
    rw [substr_of_le _ hlen, List.dropLast_eq_take, List.length_drop]
    rfl
  · rfl

/-- The text after a key a line starts with, without its quotes. -/
theorem substrFrom_bind_stripQuotes {key line : String} (h : startsWith line key) :
    (substrFrom line key.length >>= stripQuotes) = .ok (keyValue key line) := by
  have hle : key.length ≤ line.length := (startsWith_iff.mp h).length_le
  rw [substrFrom_of_le hle, Cpp.ok_bind, stripQuotes_eq]
  rfl

theorem prettyNameLoop_eq (ls : List String) :
    prettyNameLoop ls = .ok ((ls.find? (startsWith · "PRETTY_NAME=")).map (keyValue "PRETTY_NAME=")) := by
  induction ls with
  | nil => rfl
  | cons line rest ih =>
    by_cases h : startsWith line "PRETTY_NAME="
    · have hv : (substrFrom line 12 >>= stripQuotes) = .ok (keyValue "PRETTY_NAME=" line) :=
        substrFrom_bind_stripQuotes h
      simp [prettyNameLoop, h, hv]
    · simp [prettyNameLoop, h, ih]

/-- A `NAME=` line is not a `VERSION=` line. -/
theorem startsWith_version_of_name {line : String} (h : startsWith line "NAME=") :
    startsWith line "VERSION=" = false := by
  rw [Bool.eq_false_iff]
  intro h'
  obtain ⟨t, ht⟩ := startsWith_iff.mp h
  obtain ⟨t', ht'⟩ := startsWith_iff.mp h'
  have hsame := ht.trans ht'.symm
  change ['N', 'A', 'M', 'E', '='] ++ t = ['V', 'E', 'R', 'S', 'I', 'O', 'N', '='] ++ t' at hsame
  simp at hsame

/-- The second loop leaves in `name` the value of the last `NAME=` line, and in
`version` that of the last `VERSION=` line, each unchanged without one. -/
theorem foldlM_nameVersionStep (ls : List String) (acc : String × String) :
    ls.foldlM nameVersionStep acc =
      .ok ((((ls.filter (startsWith · "NAME=")).getLast?).map (keyValue "NAME=")).getD acc.1,
        (((ls.filter (startsWith · "VERSION=")).getLast?).map (keyValue "VERSION=")).getD acc.2) := by
  induction ls using List.reverseRecOn with
  | nil => rfl
  | append_singleton ls line ih =>
    rw [List.foldlM_append, ih, Cpp.ok_bind]
    simp only [List.foldlM_cons, List.foldlM_nil, bind_pure, nameVersionStep, List.filter_append,
      List.filter_cons, List.filter_nil]
    by_cases hname : startsWith line "NAME="
    · have hv : (substrFrom line 5 >>= stripQuotes) = .ok (keyValue "NAME=" line) :=
        substrFrom_bind_stripQuotes hname
      simp [hname, startsWith_version_of_name hname, hv]
    · by_cases hversion : startsWith line "VERSION="
      · have hv : (substrFrom line 8 >>= stripQuotes) = .ok (keyValue "VERSION=" line) :=
          substrFrom_bind_stripQuotes hversion
        simp [hname, hversion, hv]
      · simp [hname, hversion]

/-- `GetOSInfo` prints the value of the first `PRETTY_NAME=` line; without
one, the last `NAME=` value followed by the last `VERSION=` value, or
`unknown` without a name; and `unknown` when the file cannot be read. -/
theorem getOSInfo_eq (m : Machine) :
    getOSInfo m = .ok ("OS: " ++
      match m.slurp "/etc/os-release" with
      | none => "unknown"
      | some content => osName (lines content)) := by
  unfold getOSInfo
  split
  · rfl
  · simp only [prettyNameLoop_eq, Cpp.ok_bind, osName]
    cases (lines _).find? (startsWith · "PRETTY_NAME=")
    · simp only [Option.map_none', foldlM_nameVersionStep, Cpp.ok_bind, lastValue]
      rfl
    · rfl

example : osName (lines "NAME=\"Debian GNU/Linux\"\nVERSION_ID=\"12\"\nVERSION=\"12 (bookworm)\"") =
    "Debian GNU/Linux 12 (bookworm)" := by decide

/-! ## The processor model -/

/-- `fgets(buffer, 512, pipe)` on what the pipe still holds: the next line with
its newline, cut after 511 characters. -/
def fgetsChunk (text : List Char) : List Char :=
  (text.takeWhile (· ≠ '\n') ++ (text.dropWhile (· ≠ '\n')).take 1).take 511

theorem fgetsChunk_ne_nil {text : List Char} (h : text ≠ []) : fgetsChunk text ≠ [] := by
  obtain ⟨c, cs, rfl⟩ := List.exists_cons_of_ne_nil h
  by_cases hc : c = '\n' <;> simp [fgetsChunk, List.takeWhile_cons, List.dropWhile_cons, hc]

theorem length_drop_fgetsChunk_lt (c : Char) (cs : List Char) :
    ((c :: cs).drop (fgetsChunk (c :: cs)).length).length < (c :: cs).length := by
  have := List.length_pos.mpr (fgetsChunk_ne_nil (List.cons_ne_nil c cs))
  simp only [List.length_drop, List.length_cons] at this ⊢
  omega

/-- `output.append(buffer)`: `buffer` read as a C string, up to its first
NUL.  `fgets` stores a NUL of the text as any other character, so what follows
it in the chunk is read from the pipe and not appended. -/
def cString (buffer : List Char) : List Char := buffer.takeWhile (· ≠ '\x00')

/-- The loop that reads the pipe: `fgets` until the text is used up,
appending each chunk to `output` as a C string, and stopping once `output` is
longer than `MaxOutputSize`. -/
def readPipe (maxOutputSize : Nat) (output : List Char) : List Char → List Char
  | [] => output
  | c :: cs =>
    if maxOutputSize < (output ++ cString (fgetsChunk (c :: cs))).length then
      output ++ cString (fgetsChunk (c :: cs))
    else
      readPipe maxOutputSize (output ++ cString (fgetsChunk (c :: cs)))
        ((c :: cs).drop (fgetsChunk (c :: cs)).length)
termination_by text => text.length
decreasing_by exact length_drop_fgetsChunk_lt _ _

/-- `take_after_colon`: the trimmed text after the first colon, empty without
one. -/
def takeAfterColon (s : String) : Cpp String :=
  match findChar s ':' 0 with
  | none => .ok ""
  | some pos => trim <$> substrFrom s (pos + 1)

/-- A pass of `CpuModelString` over the lines of `lscpu`: the first nonempty
value of a line that starts with `key`. -/
def lscpuValue (key : String) : List String → Cpp (Option String)
  | [] => .ok none
  | line :: rest =>
    if startsWith line key then do
      let value ← takeAfterColon line
      if value.isEmpty then lscpuValue key rest else pure (some value)
    else lscpuValue key rest

/-- The keys `CpuModelString` looks for in `/proc/cpuinfo`, in order. -/
def cpuinfoKeys : List String := ["model name", "Hardware", "Processor", "cpu model"]

/-- The loop over the keys for one line of `/proc/cpuinfo`. -/
def cpuinfoLineValue (line : String) : List String → Cpp (Option String)
  | [] => .ok none
  | k :: ks =>
    if startsWith line k then
      match findChar line ':' 0 with
      | none => cpuinfoLineValue line ks
      | some pos => do
        let v := trim (← substrFrom line (pos + 1))
        if v.isEmpty then cpuinfoLineValue line ks else pure (some v)
    else cpuinfoLineValue line ks

/-- The loop over the lines of `/proc/cpuinfo`. -/
def cpuinfoValue : List String → Cpp (Option String)
  | [] => .ok none
  | line :: rest => do
    match ← cpuinfoLineValue line cpuinfoKeys with
    | some v => pure (some v)
    | none => cpuinfoValue rest

/-- The part of `CpuModelString` that reads `lscpu`: `Model name:`, then
`Hardware:`, then `Architecture:`. -/
def lscpuModel (m : Machine) : Cpp (Option String) :=
  match m.lscpu with
  | none => .ok none
  | some text =>
    let output := readPipe m.maxOutputSize [] text
    if output.isEmpty then .ok none
    else do
      let ls := lines ⟨output⟩
      match ← lscpuValue "Model name:" ls with
      | some v => pure (some v)
      | none =>
        match ← lscpuValue "Hardware:" ls with
        | some v => pure (some v)
        | none => lscpuValue "Architecture:" ls

/-- `CpuModelString`. -/
def cpuModelString (m : Machine) : Cpp String := do
  match ← lscpuModel m with
  | some v => pure v
  | none =>
    let fromCpuinfo ← match m.slurp "/proc/cpuinfo" with
      | none => pure none
      | some ci => cpuinfoValue (lines ci)
    match fromCpuinfo with
    | some v => pure v
    | none => pure (m.machine.getD "Unknown CPU")

/-- The trimmed text after a line's first colon, empty without one. -/
def colonValue (line : String) : String :=
  match charIndex ':' line.data with
  | none => ""
  | some pos => trim ⟨line.data.drop (pos + 1)⟩

/-- The values `CpuModelString` tries from `lscpu`, in order: those of the
`Model name:` lines, then of the `Hardware:` lines, then of the
`Architecture:` lines. -/
def lscpuCandidates (m : Machine) : List String :=
  match m.lscpu with
  | none => []
  | some text =>
    let output := readPipe m.maxOutputSize [] text
    if output.isEmpty then []
    else ["Model name:", "Hardware:", "Architecture:"].flatMap fun key =>
      ((lines ⟨output⟩).filter (startsWith · key)).map colonValue

/-- Every value `CpuModelString` tries, in order: those from `lscpu`, then
those of the lines of `/proc/cpuinfo` that start with one of its keys. -/
def modelCandidates (m : Machine) : List String :=
  lscpuCandidates m ++
    match m.slurp "/proc/cpuinfo" with
    | none => []
    | some ci => ((lines ci).filter fun line => cpuinfoKeys.any (startsWith line)).map colonValue

theorem takeAfterColon_eq (s : String) : takeAfterColon s = .ok (colonValue s) := by
  unfold takeAfterColon colonValue
  rw [findChar_zero]
  split
  · rfl
  · rename_i pos hpos
    have hle : pos + 1 ≤ s.length := charIndex_lt_length hpos
    rw [substrFrom_of_le hle]
    rfl

theorem lscpuValue_eq (key : String) (ls : List String) :
    lscpuValue key ls = .ok (((ls.filter (startsWith · key)).map colonValue).find? fun v => !v.isEmpty) := by
  induction ls with
  | nil => rfl
  | cons line rest ih =>
    by_cases hkey : startsWith line key
    · by_cases hempty : (colonValue line).isEmpty <;>
        simp [lscpuValue, hkey, takeAfterColon_eq, hempty, ih]
    · simp [lscpuValue, hkey, ih]

/-- A line of `/proc/cpuinfo` gives its value when it starts with one of the
keys and the value is not empty: the value does not depend on the key. -/
theorem cpuinfoLineValue_eq (line : String) (keys : List String) :
    cpuinfoLineValue line keys =
      .ok (if keys.any (startsWith line) && !(colonValue line).isEmpty then some (colonValue line)
        else none) := by
  induction keys with
  | nil => rfl
  | cons k ks ih =>
    by_cases hk : startsWith line k
    · rw [cpuinfoLineValue, if_pos hk, findChar_zero, ih]
      unfold colonValue
      split
      · have hblank : ("" : String).isEmpty = true := rfl
        simp [hblank]
      · rename_i pos hpos
        rw [substrFrom_of_le (charIndex_lt_length hpos)]
        by_cases hempty : (trim ⟨line.data.drop (pos + 1)⟩).isEmpty <;> simp [hempty, hk]
    · simp [cpuinfoLineValue, hk, ih]

theorem cpuinfoValue_eq (ls : List String) :
    cpuinfoValue ls =
      .ok ((((ls.filter fun line => cpuinfoKeys.any (startsWith line)).map colonValue)).find?
        fun v => !v.isEmpty) := by
  induction ls with
  | nil => rfl
  | cons line rest ih =>
    by_cases hkey : cpuinfoKeys.any (startsWith line) <;>
      by_cases hempty : (colonValue line).isEmpty <;>
      simp [cpuinfoValue, cpuinfoLineValue_eq, hkey, hempty, ih]

theorem lscpuModel_eq (m : Machine) :
    lscpuModel m = .ok ((lscpuCandidates m).find? fun v => !v.isEmpty) := by
  unfold lscpuModel lscpuCandidates
  split
  · rfl
  · dsimp only
    split_ifs
    · rfl
    · simp only [lscpuValue_eq, Cpp.ok_bind, List.flatMap_cons, List.flatMap_nil, List.append_nil,
        List.find?_append]
      cases ((lines _).filter (startsWith · "Model name:") |>.map colonValue).find? _ <;>
        cases ((lines _).filter (startsWith · "Hardware:") |>.map colonValue).find? _ <;> rfl

/-- `CpuModelString` gives the first nonempty value it tries: from `lscpu`,
its `Model name:`, `Hardware:` and `Architecture:` lines in that order, when
the pipe opens and gives some output; then the first line of `/proc/cpuinfo`
that starts with one of its four keys and has a value.  Without one, it gives
`uname`'s machine, or `Unknown CPU`. -/
theorem cpuModelString_eq (m : Machine) :
    cpuModelString m =
      .ok (((modelCandidates m).find? fun v => !v.isEmpty).getD (m.machine.getD "Unknown CPU")) := by
  simp only [cpuModelString, lscpuModel_eq, Cpp.ok_bind, modelCandidates, List.find?_append]
  cases (lscpuCandidates m).find? fun v => !v.isEmpty with
  | some v => rfl
  | none =>
    simp only [Option.none_or]
    cases m.slurp "/proc/cpuinfo" with
    | none => rfl
    | some ci =>
      simp only [cpuinfoValue_eq, Cpp.ok_bind]
      cases (((lines ci).filter fun line => cpuinfoKeys.any (startsWith line)).map colonValue).find?
        fun v => !v.isEmpty <;> rfl

/-! ## The processor counts -/

/-- `/sys/devices/system/cpu`. -/
def cpuDirectory : String := "/sys/devices/system/cpu"

/-- `entry.path() / file` for an entry of the CPU directory. -/
def topologyPath (entry : DirectoryEntry) (file : String) : String :=
  pathJoin (pathJoin cpuDirectory entry.filename) file

/-- A range-for over `fs::directory_iterator(dir, error_code)` whose body is
`scan`: the body on each entry, then the increment after the last one, which
throws when it fails. -/
def forEntries {σ : Type} (listing : DirectoryListing) (scan : List DirectoryEntry → σ → Cpp σ)
    (init : σ) : Cpp σ := do
  let s ← scan listing.entries init
  if listing.failsAfter then .fault .filesystemError else pure s

/-- The first loop of `GetCpuInfo`, on the set `cores`: a `cpu*` directory
whose core and package ids read and convert adds their pair.
`is_directory()` throws when it cannot tell. -/
def scanCores (m : Machine) : List DirectoryEntry → Finset (Int × Int) → Cpp (Finset (Int × Int))
  | [], cores => .ok cores
  | entry :: rest, cores =>
    match entry.isDirectory with
    | none => .fault .filesystemError
    | some false => scanCores m rest cores
    | some true =>
      if !startsWith entry.filename "cpu" then scanCores m rest cores
      else
        match m.slurp (topologyPath entry "topology/core_id"),
            m.slurp (topologyPath entry "topology/physical_package_id") with
        | some coreId, some pkgId => do
          let cores ← Cpp.tryCatch
            (do
              let pkg ← stoi (trim pkgId)
              let core ← stoi (trim coreId)
              pure (insert (pkg, core) cores))
            (.ok cores)
          scanCores m rest cores
        | _, _ => scanCores m rest cores

/-- What the second loop of `GetCpuInfo` counts. -/
structure CoreTypes where
  performance : Nat
  efficiency : Nat
  any : Bool
deriving DecidableEq, Repr

/-- The text of `core_type`, trimmed and in lower case by `std::tolower`. -/
def coreTypeString (typeValue : String) : String := ⟨(trim typeValue).data.map Char.toLower⟩

/-- A performance core: `perf` in the type, or the type `core`. -/
def isPerformance (typeString : String) : Bool := contains typeString "perf" || typeString == "core"

/-- An efficiency core: `eff` in the type, or the type `atom`. -/
def isEfficiency (typeString : String) : Bool := contains typeString "eff" || typeString == "atom"

/-- The count of one `core_type`. -/
def countCoreType (types : CoreTypes) (typeString : String) : CoreTypes :=
  if isPerformance typeString then ⟨types.performance + 1, types.efficiency, true⟩
  else if isEfficiency typeString then ⟨types.performance, types.efficiency + 1, true⟩
  else ⟨types.performance, types.efficiency, true⟩

/-- The second loop of `GetCpuInfo`. -/
def scanCoreTypes (m : Machine) : List DirectoryEntry → CoreTypes → Cpp CoreTypes
  | [], types => .ok types
  | entry :: rest, types =>
    match entry.isDirectory with
    | none => .fault .filesystemError
    | some false => scanCoreTypes m rest types
    | some true =>
      if !startsWith entry.filename "cpu" then scanCoreTypes m rest types
      else
        match m.slurp (topologyPath entry "topology/core_type") with
        | none => scanCoreTypes m rest types
        | some typeValue => scanCoreTypes m rest (countCoreType types (coreTypeString typeValue))

/-- The text of the counts: the online processors, the physical cores when
there are some, and the performance and efficiency cores when a `core_type`
was read and one of them counts. -/
def topologyText (online : Int) (physical performance efficiency : Nat) (anyType : Bool) : String :=
  " (" ++ toString online ++ " logical" ++
    (if physical = 0 then "" else ", " ++ toString physical ++ " physical") ++
    (if anyType && 0 < performance + efficiency then
      "; P=" ++ toString performance ++ ", E=" ++ toString efficiency
    else "") ++ ")"

/-- The counts `GetCpuInfo` prints in parentheses, when `sysconf` counts online
processors. -/
def cpuTopology (m : Machine) : Cpp String :=
  if m.online ≤ 0 then .ok ""
  else do
    let listing := m.host.directory cpuDirectory
    let cores ← forEntries listing (scanCores m) ∅
    let types ← forEntries listing (scanCoreTypes m) ⟨0, 0, false⟩
    pure (topologyText m.online cores.card types.performance types.efficiency types.any)

/-- `GetCpuInfo`. -/
def getCpuInfo (m : Machine) : Cpp String := do
  let model ← cpuModelString m
  let topology ← cpuTopology m
  pure ("CPU: " ++ model ++ topology)

/-- The pair `std::stoi` makes of the package and core ids, when both
convert. -/
def idPair (pkgId coreId : String) : Option (Int × Int) :=
  match stoi (trim pkgId), stoi (trim coreId) with
  | .ok pkg, .ok core => some (pkg, core)
  | _, _ => none

/-- The pair a directory adds to the set: a `cpu*` directory whose ids read
and convert. -/
def corePair (m : Machine) (entry : DirectoryEntry) : Option (Int × Int) :=
  if entry.isDirectory = some true ∧ startsWith entry.filename "cpu" then
    match m.slurp (topologyPath entry "topology/core_id"),
        m.slurp (topologyPath entry "topology/physical_package_id") with
    | some coreId, some pkgId => idPair pkgId coreId
    | _, _ => none
  else none

/-- The type a directory reports: that of a `cpu*` directory whose
`core_type` reads. -/
def coreType (m : Machine) (entry : DirectoryEntry) : Option String :=
  if entry.isDirectory = some true ∧ startsWith entry.filename "cpu" then
    (m.slurp (topologyPath entry "topology/core_type")).map coreTypeString
  else none

theorem corePair_of_cpu {m : Machine} {entry : DirectoryEntry} (hd : entry.isDirectory = some true)
    (hcpu : startsWith entry.filename "cpu") :
    corePair m entry =
      match m.slurp (topologyPath entry "topology/core_id"),
          m.slurp (topologyPath entry "topology/physical_package_id") with
      | some coreId, some pkgId => idPair pkgId coreId
      | _, _ => none :=
  if_pos ⟨hd, hcpu⟩

theorem coreType_of_cpu {m : Machine} {entry : DirectoryEntry} (hd : entry.isDirectory = some true)
    (hcpu : startsWith entry.filename "cpu") :
    coreType m entry = (m.slurp (topologyPath entry "topology/core_type")).map coreTypeString :=
  if_pos ⟨hd, hcpu⟩

/-- `catch (...)` around the two conversions keeps the set as it was when
either throws. -/
theorem tryCatch_insert_idPair (cores : Finset (Int × Int)) (pkgId coreId : String) :
    Cpp.tryCatch
        (do
          let pkg ← stoi (trim pkgId)
          let core ← stoi (trim coreId)
          pure (insert (pkg, core) cores))
        (.ok cores) =
      .ok ((idPair pkgId coreId).elim cores fun pair => insert pair cores) := by
  unfold idPair
  rcases convertInteger_cases intMin intMax (trim pkgId) with ⟨p, hp, -⟩ | hp | hp <;>
    rcases convertInteger_cases intMin intMax (trim coreId) with ⟨c, hc, -⟩ | hc | hc <;>
    simp [stoi, hp, hc, Cpp.tryCatch, Fault.isException]

/-- The first loop throws at a directory entry it cannot classify, and
otherwise adds the pair of each `cpu*` directory that has one. -/
theorem scanCores_eq (m : Machine) (entries : List DirectoryEntry) (cores : Finset (Int × Int)) :
    scanCores m entries cores =
      if ∃ entry ∈ entries, entry.isDirectory = none then .fault .filesystemError
      else .ok (cores ∪ (entries.filterMap (corePair m)).toFinset) := by
  induction entries generalizing cores with
  | nil => simp [scanCores]
  | cons entry rest ih =>
    rcases hd : entry.isDirectory with _ | _ | _
    · simp [scanCores, hd]
    · simp [scanCores, hd, ih, corePair]
    · by_cases hcpu : startsWith entry.filename "cpu"
      · rw [List.filterMap_cons, corePair_of_cpu hd hcpu]
        simp only [scanCores, hd, hcpu, Bool.not_true, Bool.false_eq_true, if_false]
        rcases m.slurp (topologyPath entry "topology/core_id") with _ | coreId <;>
          rcases m.slurp (topologyPath entry "topology/physical_package_id") with _ | pkgId
        · simp [hd, ih]
        · simp [hd, ih]
        · simp [hd, ih]
        · dsimp only
          rw [tryCatch_insert_idPair, Cpp.ok_bind, ih]
          cases idPair pkgId coreId <;> simp [hd]
      · simp [scanCores, hd, hcpu, ih, corePair]

/-- The second loop throws at a directory entry it cannot classify, and
otherwise counts the types the `cpu*` directories report. -/
theorem scanCoreTypes_eq (m : Machine) (entries : List DirectoryEntry) (types : CoreTypes) :
    scanCoreTypes m entries types =
      if ∃ entry ∈ entries, entry.isDirectory = none then .fault .filesystemError
      else .ok ⟨types.performance + entries.countP (fun e => (coreType m e).any isPerformance),
        types.efficiency +
          entries.countP (fun e => (coreType m e).any fun t => !isPerformance t && isEfficiency t),
        types.any || entries.any fun e => (coreType m e).isSome⟩ := by
  induction entries generalizing types with
  | nil => simp [scanCoreTypes]
  | cons entry rest ih =>
    rcases hd : entry.isDirectory with _ | _ | _
    · simp [scanCoreTypes, hd]
    · simp [scanCoreTypes, hd, ih, coreType]
    · by_cases hcpu : startsWith entry.filename "cpu"
      · simp only [List.countP_cons, List.any_cons, coreType_of_cpu hd hcpu, scanCoreTypes, hd, hcpu,
          Bool.not_true, Bool.false_eq_true, if_false]
        rcases m.slurp (topologyPath entry "topology/core_type") with _ | typeValue
        · simp [ih, hd]
        · dsimp only
          rw [ih]
          by_cases hnone : ∃ e ∈ rest, e.isDirectory = none
          · simp [hnone]
          · simp only [hnone, countCoreType]
            by_cases hp : isPerformance (coreTypeString typeValue) <;>
              by_cases he : isEfficiency (coreTypeString typeValue) <;>
              simp [hp, he, hd, hnone, Nat.add_assoc, Nat.add_comm 1]
      · simp [scanCoreTypes, hd, hcpu, ih, coreType]

/-- `GetCpuInfo`'s counts: nothing without online processors; an exception
when an entry of `/sys/devices/system/cpu` cannot be classified or the listing
fails; otherwise the number of distinct `(package, core)` pairs the `cpu*`
directories give, and how many of them report a performance and an
efficiency type. -/
theorem cpuTopology_eq (m : Machine) :
    cpuTopology m =
      if m.online ≤ 0 then .ok ""
      else if (∃ entry ∈ (m.host.directory cpuDirectory).entries, entry.isDirectory = none) ∨
          (m.host.directory cpuDirectory).failsAfter then .fault .filesystemError
      else .ok (topologyText m.online
        ((m.host.directory cpuDirectory).entries.filterMap (corePair m)).toFinset.card
        ((m.host.directory cpuDirectory).entries.countP fun e => (coreType m e).any isPerformance)
        ((m.host.directory cpuDirectory).entries.countP fun e =>
          (coreType m e).any fun t => !isPerformance t && isEfficiency t)
        ((m.host.directory cpuDirectory).entries.any fun e => (coreType m e).isSome)) := by
  unfold cpuTopology forEntries
  split_ifs with honline hbad
  · rfl
  · rcases hbad with h | h
    · simp [scanCores_eq, h]
    · simp only [scanCores_eq, h]
      split_ifs <;> rfl
  · rw [not_or] at hbad
    simp [scanCores_eq, scanCoreTypes_eq, hbad]

/-- When no entry of `/sys/devices/system/cpu` makes `is_directory()` throw,
the order in which the directory lists its entries does not change what
`GetCpuInfo` gives, and the counts throw only when the last increment of the
listing fails, an exception that names no entry. -/
theorem getCpuInfo_perm (m : Machine) (host : Host)
    (hperm : (m.host.directory cpuDirectory).entries.Perm (host.directory cpuDirectory).entries)
    (hfails : (host.directory cpuDirectory).failsAfter = (m.host.directory cpuDirectory).failsAfter)
    (hdir : ∀ entry ∈ (m.host.directory cpuDirectory).entries, entry.isDirectory.isSome) :
    getCpuInfo { m with host := host } = getCpuInfo m ∧
      ∀ f, cpuTopology m = .fault f → (m.host.directory cpuDirectory).failsAfter := by
  have hpair : corePair { m with host := host } = corePair m := rfl
  have htype : coreType { m with host := host } = coreType m := rfl
  have hmodel : cpuModelString { m with host := host } = cpuModelString m := rfl
  have hnone : ¬ ∃ entry ∈ (m.host.directory cpuDirectory).entries, entry.isDirectory = none :=
    fun ⟨entry, hmem, h⟩ => by simpa [h] using hdir entry hmem
  refine ⟨?_, fun f hf => ?_⟩
  · simp only [getCpuInfo, hmodel, cpuTopology, forEntries, scanCores_eq, scanCoreTypes_eq, hpair, htype,
      hfails, List.toFinset_eq_of_perm _ _ (hperm.filterMap (corePair m)), hperm.countP_eq,
      any_eq_of_perm hperm, hperm.mem_iff]
  · cases hfa : (m.host.directory cpuDirectory).failsAfter
    · simp only [cpuTopology, forEntries, scanCores_eq, scanCoreTypes_eq, if_neg hnone, hfa] at hf
      split_ifs at hf <;> contradiction
    · rfl

/-- Two CPU directories, listed in both orders. -/
theorem getCpuInfo_perm_two_cpus :
    (∀ entry ∈ [(⟨"cpu0", some true⟩ : DirectoryEntry), ⟨"cpu1", some true⟩], entry.isDirectory.isSome) ∧
    getCpuInfo
        { bufferSize := 4096, maxFileSize := 65536, files := fun _ => none,
          host := ⟨none, none, fun _ => true,
            fun _ => ⟨[⟨"cpu1", some true⟩, ⟨"cpu0", some true⟩], false⟩⟩,
          online := 2, lscpu := none, maxOutputSize := 65536, machine := some "x86_64" } =
      getCpuInfo
        { bufferSize := 4096, maxFileSize := 65536, files := fun _ => none,
          host := ⟨none, none, fun _ => true,
            fun _ => ⟨[⟨"cpu0", some true⟩, ⟨"cpu1", some true⟩], false⟩⟩,
          online := 2, lscpu := none, maxOutputSize := 65536, machine := some "x86_64" } ∧
    ∀ f, cpuTopology
        { bufferSize := 4096, maxFileSize := 65536, files := fun _ => none,
          host := ⟨none, none, fun _ => true,
            fun _ => ⟨[⟨"cpu0", some true⟩, ⟨"cpu1", some true⟩], false⟩⟩,
          online := 2, lscpu := none, maxOutputSize := 65536, machine := some "x86_64" } = .fault f →
      false :=
  have hdir : ∀ entry ∈ [(⟨"cpu0", some true⟩ : DirectoryEntry), ⟨"cpu1", some true⟩],
      entry.isDirectory.isSome := by decide
  ⟨hdir, getCpuInfo_perm
    ⟨4096, 65536, fun _ => none,
      ⟨none, none, fun _ => true, fun _ => ⟨[⟨"cpu0", some true⟩, ⟨"cpu1", some true⟩], false⟩⟩,
      2, none, 65536, some "x86_64"⟩
    ⟨none, none, fun _ => true, fun _ => ⟨[⟨"cpu1", some true⟩, ⟨"cpu0", some true⟩], false⟩⟩
    (List.Perm.swap _ _ []) rfl hdir⟩

end RmpEval
