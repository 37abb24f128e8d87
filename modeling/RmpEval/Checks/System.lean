import RmpEval.Check

/-!
# The system checks

`PreemptRTActiveCheck`, `SwapDisabledCheck`, `TimerMigrationCheck`,
`RtThrottlingCheck` and `ClocksourceCheck`, in the order the audit prints them.

`PreemptRTActiveCheck` is the only check of the catalog that reads `uname()`:
when `/sys/kernel/realtime` says neither `1` nor `0`, it looks for `PREEMPT RT`
or `PREEMPT_RT` in the kernel version, and then reads `/boot/config-<release>`
through the data source with the release `uname()` reported.
-/

namespace RmpEval

/-! ## `PreemptRTActiveCheck` -/

namespace PreemptRTActiveCheck

def kind : CheckKind := .preemptRTActive

def name : String := "PREEMPT_RT active"

/-- What the kernel configuration file says, once `uname()` has given the release. -/
def fromConfig (ds : DataSource) (uts : Utsname) : CheckResult :=
  if contains uts.version "PREEMPT RT" || contains uts.version "PREEMPT_RT" then
    ⟨kind, .pass, name, "uname -v: " ++ uts.version⟩
  else
    match ds.read ("/boot/config-" ++ uts.release) with
    | some config =>
      if contains config "CONFIG_PREEMPT_RT=y" || contains config "CONFIG_PREEMPT_RT_FULL=y" then
        ⟨kind, .pass, name, "/boot/config-" ++ uts.release ++ " has CONFIG_PREEMPT_RT=y"⟩
      else if contains config "CONFIG_PREEMPT=y" then
        ⟨kind, .fail, name, "Only low-latency PREEMPT, not RT"⟩
      else ⟨kind, .fail, name, "No evidence of RT kernel"⟩
    | none => ⟨kind, .fail, name, "No evidence of RT kernel"⟩

/-- `PreemptRTActiveCheck::Evaluate`. -/
def evaluate (_ : CheckContext) (ds : DataSource) (host : Host) : Cpp CheckResult :=
  let sysfs := (ds.read "/sys/kernel/realtime").map trim
  if sysfs = some "1" then .ok ⟨kind, .pass, name, "/sys/kernel/realtime=1"⟩
  else if sysfs = some "0" then .ok ⟨kind, .fail, name, "/sys/kernel/realtime=0"⟩
  else
    match host.uname with
    | some uts => .ok (fromConfig ds uts)
    | none => .ok ⟨kind, .fail, name, "No evidence of RT kernel"⟩

theorem fromConfig_isOf (ds : DataSource) (uts : Utsname) : (fromConfig ds uts).IsOf kind name := by
  unfold fromConfig
  repeat' split
  all_goals simp

/-- Every branch of the check builds its result under its own kind and name. -/
theorem evaluate_isOf (ctx : CheckContext) (ds : DataSource) (host : Host) :
    Cpp.Returns (CheckResult.IsOf kind name) (evaluate ctx ds host) := by
  simp only [evaluate]
  repeat' split
  all_goals simp [fromConfig_isOf]

end PreemptRTActiveCheck

/-! ## `SwapDisabledCheck` -/

namespace SwapDisabledCheck

def kind : CheckKind := .swapDisabled

def name : String := "Swap disabled"

/-- One active swap area: its name, and its size and use when the line has them. -/
def entry (tokens : List String) : Cpp String := do
  let first ← vectorAt tokens 0
  if tokens.length ≥ 4 then
    let size ← vectorAt tokens 2
    let used ← vectorAt tokens 3
    pure (first ++ " size=" ++ size ++ " used=" ++ used)
  else pure first

/-- The entries of the lines after the header; blank lines are skipped. -/
def activeEntries : List String → Cpp (List String)
  | [] => .ok []
  | line :: rest => do
    let line := trim line
    let tokens := words line
    if line.isEmpty || tokens.isEmpty then activeEntries rest
    else do
      let e ← entry tokens
      let entries ← activeEntries rest
      pure (e :: entries)

/-- `SwapDisabledCheck::Evaluate`. -/
def evaluate (_ : CheckContext) (ds : DataSource) (_ : Host) : Cpp CheckResult :=
  match ds.read "/proc/swaps" with
  | none => .ok ⟨kind, .unknown, name, "cannot read /proc/swaps"⟩
  | some swaps =>
    match lines swaps with
    | [] => .ok ⟨kind, .unknown, name, "unexpected /proc/swaps format"⟩
    | _ :: rest => do
      let active ← activeEntries rest
      if active.isEmpty then pure ⟨kind, .pass, name, "/proc/swaps empty"⟩
      else do
        let first ← vectorAt active 0
        pure ⟨kind, .fail, name, "active: " ++ ", ".intercalate (first :: active.drop 1)⟩

theorem evaluate_isOf (ctx : CheckContext) (ds : DataSource) (host : Host) :
    Cpp.Returns (CheckResult.IsOf kind name) (evaluate ctx ds host) := by
  simp only [evaluate]
  repeat' split
  all_goals simp [Cpp.returns_bind_iff, Cpp.returns_ite]

end SwapDisabledCheck

/-! ## `TimerMigrationCheck` and `RtThrottlingCheck` -/

namespace TimerMigrationCheck

def kind : CheckKind := .timerMigration

def name : String := "Timer Migration disabled"

/-- `TimerMigrationCheck::Evaluate`. -/
def evaluate (_ : CheckContext) (ds : DataSource) (_ : Host) : Cpp CheckResult :=
  .ok (expectValue kind name "/proc/sys/kernel/timer_migration" "0" "timer_migration="
    "cannot read timer_migration" ds)

theorem evaluate_isOf (ctx : CheckContext) (ds : DataSource) (host : Host) :
    Cpp.Returns (CheckResult.IsOf kind name) (evaluate ctx ds host) :=
  Cpp.returns_ok.mpr (expectValue_isOf _ _ _ _ _ _ _)

end TimerMigrationCheck

namespace RtThrottlingCheck

def kind : CheckKind := .rtThrottlingDisabled

def name : String := "RT throttling disabled"

/-- `RtThrottlingCheck::Evaluate`. -/
def evaluate (_ : CheckContext) (ds : DataSource) (_ : Host) : Cpp CheckResult :=
  .ok (expectValue kind name "/proc/sys/kernel/sched_rt_runtime_us" "-1" "sched_rt_runtime_us="
    "cannot read sched_rt_runtime_us" ds)

theorem evaluate_isOf (ctx : CheckContext) (ds : DataSource) (host : Host) :
    Cpp.Returns (CheckResult.IsOf kind name) (evaluate ctx ds host) :=
  Cpp.returns_ok.mpr (expectValue_isOf _ _ _ _ _ _ _)

end RtThrottlingCheck

/-! ## `ClocksourceCheck` -/

namespace ClocksourceCheck

def kind : CheckKind := .clocksourceStable

def name : String := "Clocksource stable"

def base : String := "/sys/devices/system/clocksource/clocksource0/"

/-- `ClocksourceCheck::Evaluate`. -/
def evaluate (_ : CheckContext) (ds : DataSource) (_ : Host) : Cpp CheckResult :=
  match ds.read (base ++ "current_clocksource") with
  | none => .ok ⟨kind, .unknown, name, "cannot read current_clocksource"⟩
  | some current =>
    let value := trim current
    if value = "tsc" then .ok ⟨kind, .pass, name, "tsc"⟩
    else if value = "arch_sys_counter" then
      match ds.read (base ++ "available_clocksource") with
      | some available =>
        let sources := trim available
        if sources = "arch_sys_counter" || !contains sources " " then
          .ok ⟨kind, .pass, name, "arch_sys_counter (ARM standard)"⟩
        else .ok ⟨kind, .pass, name, "arch_sys_counter"⟩
      | none => .ok ⟨kind, .pass, name, "arch_sys_counter"⟩
    else if value = "hpet" then .ok ⟨kind, .pass, name, "hpet"⟩
    else
      let detail := match ds.read (base ++ "available_clocksource") with
        | some available => value ++ "; available=" ++ trim available
        | none => value
      if value = "jiffies" then .ok ⟨kind, .fail, name, detail⟩
      else .ok ⟨kind, .unknown, name, detail⟩

theorem evaluate_isOf (ctx : CheckContext) (ds : DataSource) (host : Host) :
    Cpp.Returns (CheckResult.IsOf kind name) (evaluate ctx ds host) := by
  simp only [evaluate]
  repeat' split
  all_goals simp

end ClocksourceCheck

end RmpEval
