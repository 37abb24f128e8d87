import RmpEval.Check

/-!
# `CpuFrequencyCheck`

The check reads `scaling_cur_freq`, `scaling_min_freq` and `scaling_max_freq`
with `read_int64`, which is `std::stoll` of the trimmed file with every
exception caught.  A CPU whose minimum and maximum agree is locked, and it
passes when `std::abs(cur - max) <= (max * 5) / 100` in `int64_t`.

That is the 5% rule only for a nonnegative maximum.  C++ division truncates
towards zero, so for `-19 ≤ max ≤ -1` the tolerance is `0` and
`min = max = cur = -1` passes.  And `max * 5`, `cur - max` and the absolute
value are unchecked `int64_t` arithmetic: values `std::stoll` accepts can
overflow them, which is undefined behaviour.

With no frequency readable at all, the check falls back to the `cpu MHz` line
of `/proc/cpuinfo` under the CPU's `processor` line.  That value goes through
`std::stod` and `std::to_string(double)`; floating point is outside the model,
so the check takes that conversion as the parameter `DoubleText`.
-/

namespace RmpEval

/-- `std::to_string(std::stod(text))`, `none` when `std::stod` throws. -/
abbrev DoubleText := String → Option String

namespace CpuFrequencyCheck

def kind : CheckKind := .cpuFrequency

def name : String := "CPU current frequency"

/-- `read_int64`: `std::stoll` of the trimmed file; `nullopt` when the file
cannot be read or the conversion throws. -/
def readInt64 (ds : DataSource) (path : String) : Cpp (Option Int) :=
  match ds.read path with
  | none => .ok none
  | some value => Cpp.tryCatch (stoll (trim value) >>= fun v => .ok (some v)) (.ok none)

/-- A locked CPU: the current frequency against the tolerance of the maximum. -/
def locked (cur max : Int) : Cpp CheckResult := do
  let scaled ← int64Result (max * 5)
  let tolerance := scaled.tdiv 100
  let difference ← int64Result (cur - max)
  let distance ← int64Result (difference.natAbs : Int)
  if distance ≤ tolerance then pure ⟨kind, .pass, name, toString max ++ " kHz (locked)"⟩
  else pure ⟨kind, .fail, name, "cur=" ++ toString cur ++ " kHz, locked=" ++ toString max ++ " kHz"⟩

/-- A frequency of the reason, `?` when it could not be read. -/
def khzText : Option Int → String
  | some v => toString v ++ " kHz"
  | none => "?"

/-- What the scan of `/proc/cpuinfo` keeps: the processor of the current
block and the last `cpu MHz` of the CPU asked for. -/
structure CpuinfoScan where
  currentProcessor : Int
  mhz : Option String

/-- One line of `/proc/cpuinfo`. -/
def cpuinfoLine (stod : DoubleText) (cpu : Int) (scan : CpuinfoScan) (line : String) :
    Cpp CpuinfoScan :=
  if startsWith line "processor" then
    match findChar line ':' 0 with
    | some pos => do
      let processor ← Cpp.tryCatch (substrFrom line (pos + 1) >>= fun rest => stoi (trim rest))
        (.ok (-1))
      pure { scan with currentProcessor := processor }
    | none => pure scan
  else if startsWith line "cpu MHz" && scan.currentProcessor == cpu then
    match findChar line ':' 0 with
    | some pos => do
      let mhz ← Cpp.tryCatch
        (substrFrom line (pos + 1) >>= fun rest =>
          match stod (trim rest) with
          | some text => .ok (some text)
          | none => .fault .invalidArgument)
        (.ok none)
      pure { scan with mhz := mhz }
    | none => pure scan
  else pure scan

/-- The fallback to `/proc/cpuinfo`. -/
def fromCpuinfo (stod : DoubleText) (cpu : Int) (ds : DataSource) : Cpp CheckResult :=
  match ds.read "/proc/cpuinfo" with
  | some cpuinfo => do
    let scan ← (lines cpuinfo).foldlM (cpuinfoLine stod cpu) ⟨-1, none⟩
    match scan.mhz with
    | some text => pure ⟨kind, .unknown, name, text ++ " MHz (/proc/cpuinfo)"⟩
    | none => pure ⟨kind, .unknown, name, "unavailable"⟩
  | none => .ok ⟨kind, .unknown, name, "unavailable"⟩

/-- The directory of the CPU's frequency files. -/
def base (cpu : Int) : String := "/sys/devices/system/cpu/cpu" ++ toString cpu ++ "/cpufreq/"

/-- `CpuFrequencyCheck::Evaluate`. -/
def evaluate (stod : DoubleText) (ctx : CheckContext) (ds : DataSource) (_ : Host) :
    Cpp CheckResult :=
  match ctx.cpu with
  | none => .ok ⟨kind, .unknown, name, "no CPU subject"⟩
  | some cpu => do
    let cur ← readInt64 ds (base cpu ++ "scaling_cur_freq")
    let min ← readInt64 ds (base cpu ++ "scaling_min_freq")
    let max ← readInt64 ds (base cpu ++ "scaling_max_freq")
    match cur, min, max with
    | some c, some lo, some hi =>
      if lo = hi then locked c hi
      else pure ⟨kind, .fail, name, "cur=" ++ toString c ++ " kHz" ++ ", min=" ++ toString lo ++
        " kHz" ++ ", max=" ++ toString hi ++ " kHz"⟩
    | _, _, _ =>
      if cur.isSome || min.isSome || max.isSome then
        pure ⟨kind, .unknown, name, "cur=" ++ khzText cur ++ ", min=" ++ khzText min ++
          ", max=" ++ khzText max⟩
      else fromCpuinfo stod cpu ds

/-! ## The locked comparison -/

/-- Without overflow, a locked CPU passes exactly when the distance is within
the truncated tolerance. -/
theorem locked_of_inInt64 {cur max : Int} (hscaled : InInt64 (max * 5))
    (hdiff : int64Min < cur - max ∧ cur - max ≤ int64Max) :
    ∃ r, locked cur max = .ok r ∧
      (r.status = .pass ↔ |cur - max| ≤ (max * 5).tdiv 100) ∧
      (r.status = .pass ∨ r.status = .fail) := by
  have hd : InInt64 (cur - max) := ⟨hdiff.1.le, hdiff.2⟩
  have hn : InInt64 ((cur - max).natAbs : Int) := by
    unfold InInt64 int64Min int64Max at *
    omega
  have habs : ((cur - max).natAbs : Int) = |cur - max| := Int.natCast_natAbs _
  simp only [locked, int64Result_of_inInt64 hscaled, int64Result_of_inInt64 hd,
    int64Result_of_inInt64 hn, Cpp.ok_bind, ← habs]
  split <;> simp_all

/-- For a nonnegative maximum the truncated tolerance is the 5% rule. -/
theorem le_tolerance_iff {cur max : Int} (h : 0 ≤ max) :
    |cur - max| ≤ (max * 5).tdiv 100 ↔ 20 * |cur - max| ≤ max := by
  rw [Int.tdiv_eq_ediv (by omega) (by decide)]
  omega

/-! ## The rule of a CPU whose frequencies are read -/

/-- For frequencies `read_int64` obtains: unequal bounds fail; equal bounds,
when the arithmetic does not overflow, pass exactly within the truncated
tolerance `(max * 5) / 100`, which for `max ≥ 0` is the 5% rule. -/
theorem evaluate_locked_rule (stod : DoubleText) (cpu : Int) (nic : Option String)
    (ds : DataSource) (host : Host) {cur min max : Int}
    (hcur : readInt64 ds (base cpu ++ "scaling_cur_freq") = .ok (some cur))
    (hmin : readInt64 ds (base cpu ++ "scaling_min_freq") = .ok (some min))
    (hmax : readInt64 ds (base cpu ++ "scaling_max_freq") = .ok (some max)) :
    (min ≠ max → ∃ r, evaluate stod ⟨some cpu, nic⟩ ds host = .ok r ∧ r.status = .fail) ∧
    (min = max → InInt64 (max * 5) → int64Min < cur - max ∧ cur - max ≤ int64Max →
      ∃ r, evaluate stod ⟨some cpu, nic⟩ ds host = .ok r ∧
        (r.status = .pass ↔ |cur - max| ≤ (max * 5).tdiv 100) ∧
        (r.status = .fail ↔ ¬ |cur - max| ≤ (max * 5).tdiv 100) ∧
        (0 ≤ max → (r.status = .pass ↔ 20 * |cur - max| ≤ max))) := by
  simp only [evaluate, hcur, hmin, hmax, Cpp.ok_bind]
  refine ⟨fun hne => ⟨_, if_neg hne, rfl⟩, fun heq hscaled hdiff => ?_⟩
  obtain ⟨r, hr, hpass, hcases⟩ := locked_of_inInt64 hscaled hdiff
  refine ⟨r, by rw [if_pos heq, hr], hpass, ?_, fun h => hpass.trans (le_tolerance_iff h)⟩
  rcases hcases with h | h <;> simp [h] at hpass ⊢ <;> tauto

/-- Scenario C of the spec: locked at 2400000 kHz, running at 2600000 kHz. -/
theorem evaluate_locked_rule_drift :
    let ds : DataSource := ⟨fun p => if p = base 3 ++ "scaling_cur_freq" then some "2600000"
      else some "2400000", fun _ => none⟩
    readInt64 ds (base 3 ++ "scaling_cur_freq") = .ok (some 2600000) ∧
    readInt64 ds (base 3 ++ "scaling_min_freq") = .ok (some 2400000) ∧
    readInt64 ds (base 3 ++ "scaling_max_freq") = .ok (some 2400000) ∧
    ((2400000 : Int) ≠ 2400000 → ∃ r, evaluate (fun _ => none) ⟨some 3, none⟩ ds
        ⟨none, none, fun _ => false, fun _ => ⟨[], false⟩⟩ = .ok r ∧ r.status = .fail) ∧
    ((2400000 : Int) = 2400000 → InInt64 (2400000 * 5) →
      int64Min < 2600000 - 2400000 ∧ (2600000 : Int) - 2400000 ≤ int64Max →
      ∃ r, evaluate (fun _ => none) ⟨some 3, none⟩ ds
          ⟨none, none, fun _ => false, fun _ => ⟨[], false⟩⟩ = .ok r ∧
        (r.status = .pass ↔ |(2600000 : Int) - 2400000| ≤ ((2400000 : Int) * 5).tdiv 100) ∧
        (r.status = .fail ↔ ¬ |(2600000 : Int) - 2400000| ≤ ((2400000 : Int) * 5).tdiv 100) ∧
        (0 ≤ (2400000 : Int) → (r.status = .pass ↔ 20 * |(2600000 : Int) - 2400000| ≤ 2400000))) :=
  ⟨by decide, by decide, by decide,
    evaluate_locked_rule _ 3 none _ _ (by decide) (by decide) (by decide)⟩

/-- With every frequency at `-1` the tolerance truncates to `0`, and the check
passes although `20 * |cur - max| ≤ max` fails. -/
theorem evaluate_minus_one_locked :
    evaluate (fun _ => none) ⟨some 1, none⟩ ⟨fun _ => some "-1", fun _ => none⟩
        ⟨none, none, fun _ => false, fun _ => ⟨[], false⟩⟩ =
      .ok ⟨kind, .pass, name, "-1 kHz (locked)"⟩ ∧
    ¬ (20 * |(-1 : Int) - (-1)| ≤ -1) := by
  decide

/-! ## Every result names the check -/

theorem locked_isOf (cur max : Int) : Cpp.Returns (CheckResult.IsOf kind name) (locked cur max) :=
  Cpp.returns_bind fun _ => Cpp.returns_bind fun _ => Cpp.returns_bind fun _ => by
    split <;> simp

theorem fromCpuinfo_isOf (stod : DoubleText) (cpu : Int) (ds : DataSource) :
    Cpp.Returns (CheckResult.IsOf kind name) (fromCpuinfo stod cpu ds) := by
  unfold fromCpuinfo
  split
  · exact Cpp.returns_bind fun _ => by split <;> simp
  · simp

theorem evaluate_isOf (stod : DoubleText) (ctx : CheckContext) (ds : DataSource) (host : Host) :
    Cpp.Returns (CheckResult.IsOf kind name) (evaluate stod ctx ds host) := by
  unfold evaluate
  split
  · simp
  · refine Cpp.returns_bind fun _ => Cpp.returns_bind fun _ => Cpp.returns_bind fun _ => ?_
    split
    · split
      · exact locked_isOf _ _
      · simp
    · split
      · simp
      · exact fromCpuinfo_isOf _ _ _

end CpuFrequencyCheck

end RmpEval
