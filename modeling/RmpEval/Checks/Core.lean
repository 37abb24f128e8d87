import RmpEval.Check
import RmpEval.CpuList
import Mathlib.Data.Finset.Sort

/-!
# The checks of the RT core

`CoreIsolatedCheck`, `NohzFullCheck`, `RcuNoCbsCheck`, `CpuGovernorCheck`,
`IrqAffinityDefaultAvoidsRtCheck`, `SmtSiblingIsolatedCheck`,
`CStatesCappedCheck` and `TurboPolicyCheck`.  `CpuFrequencyCheck` and
`NoUnrelatedIrqsOnRtCheck`, which parse numbers and tables, have modules of
their own.

Every check here that reads a CPU list goes through `parseCpuList`, so it
inherits its undefined behaviour on a range that ends at `INT_MAX`.

`CStatesCappedCheck` reads `/proc/cmdline` through `Read`, not through
`CmdLineParam`, and looks for its three parameters as substrings of the whole
command line.  So `intel_idle.max_cstate=10`, which allows deep C-states,
contains `intel_idle.max_cstate=1` and passes as capped to C1.
-/

namespace RmpEval

/-! ## `CoreIsolatedCheck` -/

namespace CoreIsolatedCheck

def kind : CheckKind := .coreIsolated

def name : String := "RT core isolated"

/-- `CoreIsolatedCheck::Evaluate`. -/
def evaluate (ctx : CheckContext) (ds : DataSource) (_ : Host) : Cpp CheckResult :=
  match ctx.cpu with
  | none => .ok ⟨kind, .unknown, name, "no CPU subject"⟩
  | some cpu =>
    match ds.read "/sys/devices/system/cpu/isolated" with
    | none => .ok ⟨kind, .unknown, name, "no /sys/.../isolated"⟩
    | some s => do
      let raw := trim s
      let set ← parseCpuList raw
      if cpu = 0 then
        if cpu ∈ set then pure ⟨kind, .fail, name, "CPU0 is isolated but should not be your RT core"⟩
        else pure ⟨kind, .fail, name, "CPU0 selected; choose non-CPU0"⟩
      else if cpu ∈ set then pure ⟨kind, .pass, name, "isolated list: " ++ orEmpty raw⟩
      else pure ⟨kind, .fail, name, "CPU" ++ toString cpu ++ " not in isolated: " ++ orEmpty raw⟩

theorem evaluate_isOf (ctx : CheckContext) (ds : DataSource) (host : Host) :
    Cpp.Returns (CheckResult.IsOf kind name) (evaluate ctx ds host) := by
  simp only [evaluate]
  repeat' split
  all_goals simp [Cpp.returns_bind_iff, Cpp.returns_ite]

end CoreIsolatedCheck

/-! ## `NohzFullCheck` and `RcuNoCbsCheck` -/

namespace NohzFullCheck

def kind : CheckKind := .nohzFull

def name : String := "nohz_full on RT core"

/-- `NohzFullCheck::Evaluate`: sysfs first, the kernel command line after. -/
def evaluate (ctx : CheckContext) (ds : DataSource) (_ : Host) : Cpp CheckResult :=
  match ctx.cpu with
  | none => .ok ⟨kind, .unknown, name, "no CPU subject"⟩
  | some cpu =>
    match ds.read "/sys/devices/system/cpu/nohz_full" with
    | some sysfsValue => do
      let raw := trim sysfsValue
      let set ← parseCpuList raw
      if cpu ∈ set then pure ⟨kind, .pass, name, "nohz_full list: " ++ orEmpty raw⟩
      else pure ⟨kind, .fail, name, "CPU" ++ toString cpu ++ " not in nohz_full: " ++ orEmpty raw⟩
    | none =>
      match ds.cmdLineParam "nohz_full" with
      | some cmdlineValue => do
        let set ← parseCpuList cmdlineValue
        if cpu ∈ set then pure ⟨kind, .pass, name, "cmdline nohz_full=" ++ cmdlineValue⟩
        else pure ⟨kind, .fail, name, "RT core not in cmdline nohz_full=" ++ cmdlineValue⟩
      | none => .ok ⟨kind, .unknown, name, "no sysfs entry and no cmdline param"⟩

theorem evaluate_isOf (ctx : CheckContext) (ds : DataSource) (host : Host) :
    Cpp.Returns (CheckResult.IsOf kind name) (evaluate ctx ds host) := by
  simp only [evaluate]
  repeat' split
  all_goals simp [Cpp.returns_bind_iff, Cpp.returns_ite]

/-- A hand-written `nohz_full=5-2147483647` on the kernel command line, with
no sysfs entry: the range loop's counter passes `INT_MAX` and the check does
not return. -/
theorem evaluate_cmdline_to_intMax (host : Host) :
    parseCpuList "5-2147483647" = .fault .undefinedBehaviour ∧
      evaluate ⟨some 5, none⟩
        ⟨fun _ => none, fun key => if key = "nohz_full" then some "5-2147483647" else none⟩ host =
        .fault .undefinedBehaviour := by
  have hparse : parseCpuList "5-2147483647" = .fault .undefinedBehaviour :=
    (parseCpuList_eq_fault_iff _ _).mpr ⟨rfl, "5-2147483647", by decide, 5, by decide⟩
  refine ⟨hparse, ?_⟩
  simp [evaluate, hparse]

end NohzFullCheck

namespace RcuNoCbsCheck

def kind : CheckKind := .rcuNoCbs

def name : String := "rcu_nocbs includes RT core"

/-- `RcuNoCbsCheck::Evaluate`: the same two sources, both values trimmed. -/
def evaluate (ctx : CheckContext) (ds : DataSource) (_ : Host) : Cpp CheckResult :=
  match ctx.cpu with
  | none => .ok ⟨kind, .unknown, name, "no CPU subject"⟩
  | some cpu =>
    let raw? := match ds.read "/sys/devices/system/cpu/rcu_nocbs" with
      | some sysfsValue => some (trim sysfsValue)
      | none => (ds.cmdLineParam "rcu_nocbs").map trim
    match raw? with
    | none => .ok ⟨kind, .unknown, name, "no sysfs and no cmdline param"⟩
    | some raw => do
      let set ← parseCpuList raw
      if cpu ∈ set then pure ⟨kind, .pass, name, raw⟩
      else pure ⟨kind, .fail, name, "CPU" ++ toString cpu ++ " not in rcu_nocbs: " ++ orEmpty raw⟩

theorem evaluate_isOf (ctx : CheckContext) (ds : DataSource) (host : Host) :
    Cpp.Returns (CheckResult.IsOf kind name) (evaluate ctx ds host) := by
  simp only [evaluate]
  repeat' split
  all_goals simp [Cpp.returns_bind_iff, Cpp.returns_ite]

end RcuNoCbsCheck

/-! ## `CpuGovernorCheck` -/

namespace CpuGovernorCheck

def kind : CheckKind := .cpuGovernor

def name : String := "CPU governor = performance"

/-- `CpuGovernorCheck::Evaluate`. -/
def evaluate (ctx : CheckContext) (ds : DataSource) (_ : Host) : Cpp CheckResult :=
  match ctx.cpu with
  | none => .ok ⟨kind, .unknown, name, "no CPU subject"⟩
  | some cpu =>
    .ok (expectValue kind name
      ("/sys/devices/system/cpu/cpu" ++ toString cpu ++ "/cpufreq/scaling_governor")
      "performance" "governor=" ("no cpufreq governor for cpu" ++ toString cpu) ds)

theorem evaluate_isOf (ctx : CheckContext) (ds : DataSource) (host : Host) :
    Cpp.Returns (CheckResult.IsOf kind name) (evaluate ctx ds host) := by
  unfold evaluate
  split
  · simp
  · exact Cpp.returns_ok.mpr (expectValue_isOf _ _ _ _ _ _ _)

end CpuGovernorCheck

/-! ## `IrqAffinityDefaultAvoidsRtCheck` -/

namespace IrqAffinityDefaultAvoidsRtCheck

def kind : CheckKind := .irqAffinityDefaultAvoidsRt

def name : String := "irqaffinity excludes RT core"

/-- `IrqAffinityDefaultAvoidsRtCheck::Evaluate`. -/
def evaluate (ctx : CheckContext) (ds : DataSource) (_ : Host) : Cpp CheckResult :=
  match ctx.cpu with
  | none => .ok ⟨kind, .unknown, name, "no CPU subject"⟩
  | some cpu =>
    match ds.cmdLineParam "irqaffinity" with
    | none => .ok ⟨kind, .unknown, name, "no irqaffinity kernel param"⟩
    | some value => do
      let set ← parseCpuList value
      if set = ∅ then pure ⟨kind, .unknown, name, "empty list"⟩
      else if cpu ∈ set then pure ⟨kind, .fail, name, "RT core present in irqaffinity: " ++ value⟩
      else pure ⟨kind, .pass, name, value⟩

theorem evaluate_isOf (ctx : CheckContext) (ds : DataSource) (host : Host) :
    Cpp.Returns (CheckResult.IsOf kind name) (evaluate ctx ds host) := by
  simp only [evaluate]
  repeat' split
  all_goals simp [Cpp.returns_bind_iff, Cpp.returns_ite]

end IrqAffinityDefaultAvoidsRtCheck

/-! ## `SmtSiblingIsolatedCheck` -/

namespace SmtSiblingIsolatedCheck

def kind : CheckKind := .smtSiblingIsolated

def name : String := "SMT sibling isolated/disabled"

/-- `SmtSiblingIsolatedCheck::Evaluate`.  The siblings are visited in
increasing order, as a `std::set` iterates, so the sibling named is the least
one not isolated. -/
def evaluate (ctx : CheckContext) (ds : DataSource) (_ : Host) : Cpp CheckResult :=
  match ctx.cpu with
  | none => .ok ⟨kind, .unknown, name, "no CPU subject"⟩
  | some cpu =>
    match ds.read ("/sys/devices/system/cpu/cpu" ++ toString cpu ++ "/topology/thread_siblings_list") with
    | none => .ok ⟨kind, .unknown, name, "no thread_siblings_list"⟩
    | some siblingsValue => do
      let siblings := (← parseCpuList siblingsValue).erase cpu
      if siblings = ∅ then pure ⟨kind, .pass, name, "no sibling"⟩
      else
        match ds.read "/sys/devices/system/cpu/isolated" with
        | none => pure ⟨kind, .unknown, name, "cannot read isolated"⟩
        | some isolatedValue => do
          let isolatedSet ← parseCpuList isolatedValue
          match (siblings.sort (· ≤ ·)).find? (· ∉ isolatedSet) with
          | some sibling =>
            pure ⟨kind, .fail, name, "sibling CPU" ++ toString sibling ++ " not isolated"⟩
          | none => pure ⟨kind, .pass, name, "siblings all isolated"⟩

theorem evaluate_isOf (ctx : CheckContext) (ds : DataSource) (host : Host) :
    Cpp.Returns (CheckResult.IsOf kind name) (evaluate ctx ds host) := by
  simp only [evaluate]
  repeat' split
  all_goals simp [Cpp.returns_bind_iff, Cpp.returns_ite]
  intro _ _ _ _ _
  split <;> simp

end SmtSiblingIsolatedCheck

/-! ## `CStatesCappedCheck` -/

namespace CStatesCappedCheck

def kind : CheckKind := .deepCStatesCapped

def name : String := "Deep C-states capped"

/-- One module's `max_cstate` parameter: the two blocks of the check that read
`intel_idle` and `processor`. -/
def maxCstateParam (module value : String) : CheckResult :=
  let value := trim value
  if value = "1" || value = "0" then ⟨kind, .pass, name, module ++ ".max_cstate=" ++ value⟩
  else ⟨kind, .fail, name, module ++ ".max_cstate=" ++ value⟩

/-- What the check says when the command line does not settle it. -/
def fromModules (ds : DataSource) : CheckResult :=
  match ds.read "/sys/module/intel_idle/parameters/max_cstate" with
  | some intelCstate => maxCstateParam "intel_idle" intelCstate
  | none =>
    match ds.read "/sys/module/processor/parameters/max_cstate" with
    | some processorCstate => maxCstateParam "processor" processorCstate
    | none => ⟨kind, .unknown, name, "no indicators"⟩

/-- `CStatesCappedCheck::Evaluate`. -/
def evaluate (_ : CheckContext) (ds : DataSource) (_ : Host) : Cpp CheckResult :=
  match ds.read "/proc/cmdline" with
  | some cmdline =>
    if contains cmdline "cpuidle.off=1" then .ok ⟨kind, .pass, name, "cpuidle.off=1"⟩
    else if contains cmdline "intel_idle.max_cstate=1" || contains cmdline "processor.max_cstate=1" then
      .ok ⟨kind, .pass, name, "cmdline caps to C1"⟩
    else .ok (fromModules ds)
  | none => .ok (fromModules ds)

/-- `intel_idle.max_cstate=10` leaves deep C-states allowed, yet the command
line contains `intel_idle.max_cstate=1`, so the check passes. -/
theorem evaluate_max_cstate_ten :
    evaluate ⟨none, none⟩
        ⟨fun p => if p = "/proc/cmdline" then some "intel_idle.max_cstate=10" else none,
          fun _ => none⟩
        ⟨none, none, fun _ => false, fun _ => ⟨[], false⟩⟩ =
      .ok ⟨kind, .pass, name, "cmdline caps to C1"⟩ ∧
    words "intel_idle.max_cstate=10" = ["intel_idle.max_cstate=10"] := by
  decide

theorem evaluate_isOf (ctx : CheckContext) (ds : DataSource) (host : Host) :
    Cpp.Returns (CheckResult.IsOf kind name) (evaluate ctx ds host) := by
  simp only [evaluate, fromModules, maxCstateParam]
  repeat' split
  all_goals simp

end CStatesCappedCheck

/-! ## `TurboPolicyCheck` -/

namespace TurboPolicyCheck

def kind : CheckKind := .turboBoostPolicy

def name : String := "Turbo/boost disabled"

/-- `TurboPolicyCheck::Evaluate`. -/
def evaluate (_ : CheckContext) (ds : DataSource) (_ : Host) : Cpp CheckResult :=
  let boost := (ds.read "/sys/devices/system/cpu/cpufreq/boost").map trim
  if boost = some "0" then .ok ⟨kind, .pass, name, "cpufreq/boost=0"⟩
  else if boost = some "1" then .ok ⟨kind, .fail, name, "cpufreq/boost=1"⟩
  else
    let noTurbo := (ds.read "/sys/devices/system/cpu/intel_pstate/no_turbo").map trim
    if noTurbo = some "1" then .ok ⟨kind, .pass, name, "intel_pstate/no_turbo=1"⟩
    else if noTurbo = some "0" then .ok ⟨kind, .fail, name, "intel_pstate/no_turbo=0"⟩
    else .ok ⟨kind, .unknown, name, "no boost knobs"⟩

theorem evaluate_isOf (ctx : CheckContext) (ds : DataSource) (host : Host) :
    Cpp.Returns (CheckResult.IsOf kind name) (evaluate ctx ds host) := by
  simp only [evaluate]
  repeat' split
  all_goals simp

end TurboPolicyCheck

/-! ## What the CPU-list checks decide

`CoreIsolatedCheck`, `NohzFullCheck`, `RcuNoCbsCheck` and
`IrqAffinityDefaultAvoidsRtCheck` look the RT core up in the set that the CPU
list they read denotes (`cpuList`).  Trimming the list first changes nothing,
since `ParseCpuList` trims. -/

/-- Looking `cpu` up in a CPU list: undefined on a range to `INT_MAX`, `Pass`
for a member and `Fail` otherwise. -/
def memberStatus (cpu : Int) (list : String) : Cpp Status :=
  if RangeToIntMax list then .fault .undefinedBehaviour
  else .ok (if cpu ∈ cpuList list then .pass else .fail)

theorem status_lookup (cpu : Int) (list : String) (pass fail : CheckResult)
    (hpass : pass.status = .pass) (hfail : fail.status = .fail) :
    (·.status) <$> (parseCpuList list >>= fun set => if cpu ∈ set then pure pass else pure fail) =
      memberStatus cpu list := by
  rw [parseCpuList_eq, memberStatus]
  split_ifs <;> simp [*]

@[simp] theorem memberStatus_trim (cpu : Int) (list : String) :
    memberStatus cpu (trim list) = memberStatus cpu list := by
  simp [memberStatus]

theorem CoreIsolatedCheck.status_eq (cpu : Int) (nic : Option String) (ds : DataSource) (host : Host) :
    (·.status) <$> CoreIsolatedCheck.evaluate ⟨some cpu, nic⟩ ds host =
      match ds.read "/sys/devices/system/cpu/isolated" with
      | none => .ok .unknown
      | some s => (fun st => if cpu = 0 then .fail else st) <$> memberStatus cpu s := by
  simp only [CoreIsolatedCheck.evaluate]
  cases ds.read "/sys/devices/system/cpu/isolated" with
  | none => rfl
  | some s =>
    simp only [parseCpuList_eq, rangeToIntMax_trim, cpuList_trim, memberStatus]
    split_ifs <;> simp_all

theorem NohzFullCheck.status_eq (cpu : Int) (nic : Option String) (ds : DataSource) (host : Host) :
    (·.status) <$> NohzFullCheck.evaluate ⟨some cpu, nic⟩ ds host =
      match ds.read "/sys/devices/system/cpu/nohz_full", ds.cmdLineParam "nohz_full" with
      | some s, _ => memberStatus cpu s
      | none, some s => memberStatus cpu s
      | none, none => .ok .unknown := by
  simp only [NohzFullCheck.evaluate]
  cases ds.read "/sys/devices/system/cpu/nohz_full" with
  | some s => simpa using status_lookup cpu (trim s) _ _ rfl rfl
  | none =>
    cases ds.cmdLineParam "nohz_full" with
    | some s => exact status_lookup cpu s _ _ rfl rfl
    | none => rfl

theorem RcuNoCbsCheck.status_eq (cpu : Int) (nic : Option String) (ds : DataSource) (host : Host) :
    (·.status) <$> RcuNoCbsCheck.evaluate ⟨some cpu, nic⟩ ds host =
      match ds.read "/sys/devices/system/cpu/rcu_nocbs", ds.cmdLineParam "rcu_nocbs" with
      | some s, _ => memberStatus cpu s
      | none, some s => memberStatus cpu s
      | none, none => .ok .unknown := by
  simp only [RcuNoCbsCheck.evaluate]
  cases ds.read "/sys/devices/system/cpu/rcu_nocbs" with
  | some s => simpa using status_lookup cpu (trim s) _ _ rfl rfl
  | none =>
    cases ds.cmdLineParam "rcu_nocbs" with
    | some s => simpa using status_lookup cpu (trim s) _ _ rfl rfl
    | none => rfl

theorem IrqAffinityDefaultAvoidsRtCheck.status_eq (cpu : Int) (nic : Option String) (ds : DataSource)
    (host : Host) :
    (·.status) <$> IrqAffinityDefaultAvoidsRtCheck.evaluate ⟨some cpu, nic⟩ ds host =
      match ds.cmdLineParam "irqaffinity" with
      | none => .ok .unknown
      | some s =>
        if RangeToIntMax s then .fault .undefinedBehaviour
        else .ok (if cpuList s = ∅ then .unknown else if cpu ∈ cpuList s then .fail else .pass) := by
  simp only [IrqAffinityDefaultAvoidsRtCheck.evaluate]
  cases ds.cmdLineParam "irqaffinity" with
  | none => rfl
  | some s =>
    simp only [parseCpuList_eq]
    split_ifs <;> simp_all

/-- The RT core's CPU-list checks report whether the core is in the set that
the list they read denotes, and are undefined on a range to `INT_MAX`.  CPU0
fails `CoreIsolatedCheck` whatever the list; sysfs takes precedence over the
kernel command line for `nohz_full` and `rcu_nocbs`; the `irqaffinity` list
passes when it leaves the core out and is unknown when it names no CPU. -/
theorem cpuListChecks_status (cpu : Int) (nic : Option String) (ds : DataSource) (host : Host) :
    (·.status) <$> CoreIsolatedCheck.evaluate ⟨some cpu, nic⟩ ds host =
        (match ds.read "/sys/devices/system/cpu/isolated" with
          | none => .ok .unknown
          | some s => (fun st => if cpu = 0 then .fail else st) <$> memberStatus cpu s) ∧
      (·.status) <$> NohzFullCheck.evaluate ⟨some cpu, nic⟩ ds host =
        (match ds.read "/sys/devices/system/cpu/nohz_full", ds.cmdLineParam "nohz_full" with
          | some s, _ => memberStatus cpu s
          | none, some s => memberStatus cpu s
          | none, none => .ok .unknown) ∧
      (·.status) <$> RcuNoCbsCheck.evaluate ⟨some cpu, nic⟩ ds host =
        (match ds.read "/sys/devices/system/cpu/rcu_nocbs", ds.cmdLineParam "rcu_nocbs" with
          | some s, _ => memberStatus cpu s
          | none, some s => memberStatus cpu s
          | none, none => .ok .unknown) ∧
      (·.status) <$> IrqAffinityDefaultAvoidsRtCheck.evaluate ⟨some cpu, nic⟩ ds host =
        (match ds.cmdLineParam "irqaffinity" with
          | none => .ok .unknown
          | some s =>
            if RangeToIntMax s then .fault .undefinedBehaviour
            else .ok (if cpuList s = ∅ then .unknown else if cpu ∈ cpuList s then .fail else .pass)) :=
  ⟨CoreIsolatedCheck.status_eq cpu nic ds host, NohzFullCheck.status_eq cpu nic ds host,
    RcuNoCbsCheck.status_eq cpu nic ds host, IrqAffinityDefaultAvoidsRtCheck.status_eq cpu nic ds host⟩

/-! ## Which sibling `SmtSiblingIsolatedCheck` names -/

/-- The first element of a finite set in increasing order that satisfies `p`
is the least one that does. -/
theorem find?_sort_eq_some {s : Finset Int} {p : Int → Bool} {m : Int}
    (h : (s.sort (· ≤ ·)).find? p = some m) : m ∈ s ∧ p m ∧ ∀ x ∈ s, p x → m ≤ x := by
  obtain ⟨hm, as, bs, hsplit, has⟩ := List.find?_eq_some.mp h
  have hsorted := Finset.sort_sorted (· ≤ ·) s
  rw [hsplit] at hsorted
  have hmem : ∀ {x}, x ∈ s ↔ x ∈ as ++ m :: bs := fun {x} => by rw [← hsplit, Finset.mem_sort]
  refine ⟨hmem.mpr (by simp), hm, fun x hx hpx => ?_⟩
  rcases List.mem_append.mp (hmem.mp hx) with hxa | hxmb
  · exact absurd hpx (by simpa using has x hxa)
  · rcases List.mem_cons.mp hxmb with rfl | hxb
    · exact le_rfl
    · exact List.rel_of_pairwise_cons (List.pairwise_append.mp hsorted).2.1 hxb

/-- With a siblings list that `ParseCpuList` reads, `SmtSiblingIsolatedCheck`
passes when the RT core is its own only sibling, and otherwise reads the
isolated list: it passes when every other sibling is isolated, and fails
naming the least sibling that is not. -/
theorem SmtSiblingIsolatedCheck.evaluate_siblings (cpu : Int) (nic : Option String) (ds : DataSource)
    (host : Host) (siblingsValue : String)
    (hread : ds.read ("/sys/devices/system/cpu/cpu" ++ toString cpu ++ "/topology/thread_siblings_list") =
      some siblingsValue)
    (hgood : ¬ RangeToIntMax siblingsValue) :
    ((cpuList siblingsValue).erase cpu = ∅ →
        evaluate ⟨some cpu, nic⟩ ds host = .ok ⟨kind, .pass, name, "no sibling"⟩) ∧
      ((cpuList siblingsValue).erase cpu ≠ ∅ → ds.read "/sys/devices/system/cpu/isolated" = none →
        evaluate ⟨some cpu, nic⟩ ds host = .ok ⟨kind, .unknown, name, "cannot read isolated"⟩) ∧
      ∀ isolatedValue, (cpuList siblingsValue).erase cpu ≠ ∅ →
        ds.read "/sys/devices/system/cpu/isolated" = some isolatedValue →
        (RangeToIntMax isolatedValue → evaluate ⟨some cpu, nic⟩ ds host = .fault .undefinedBehaviour) ∧
        (¬ RangeToIntMax isolatedValue → (cpuList siblingsValue).erase cpu ⊆ cpuList isolatedValue →
          evaluate ⟨some cpu, nic⟩ ds host = .ok ⟨kind, .pass, name, "siblings all isolated"⟩) ∧
        (¬ RangeToIntMax isolatedValue → ¬ (cpuList siblingsValue).erase cpu ⊆ cpuList isolatedValue →
          ∃ m ∈ (cpuList siblingsValue).erase cpu, m ∉ cpuList isolatedValue ∧
            (∀ x ∈ (cpuList siblingsValue).erase cpu, x ∉ cpuList isolatedValue → m ≤ x) ∧
            evaluate ⟨some cpu, nic⟩ ds host =
              .ok ⟨kind, .fail, name, "sibling CPU" ++ toString m ++ " not isolated"⟩) := by
  simp only [evaluate, hread, parseCpuList_eq, if_neg hgood, Cpp.ok_bind]
  refine ⟨fun hnone => by simp [hnone], fun hsome hiso => by simp [hsome, hiso],
    fun isolatedValue hsome hiso => ⟨fun hbad => by simp [hsome, hiso, hbad], fun hok hsub => ?_,
      fun hok hsub => ?_⟩⟩
  · have hnone : (((cpuList siblingsValue).erase cpu).sort (· ≤ ·)).find?
        (fun x => !decide (x ∈ cpuList isolatedValue)) = none :=
      List.find?_eq_none.mpr fun x hx => by simpa using hsub ((Finset.mem_sort _).mp hx)
    simp [hsome, hiso, hok, hnone]
  · cases hfind : (((cpuList siblingsValue).erase cpu).sort (· ≤ ·)).find?
        (fun x => !decide (x ∈ cpuList isolatedValue)) with
    | none =>
      refine absurd (fun x hx => ?_) hsub
      simpa using List.find?_eq_none.mp hfind x ((Finset.mem_sort _).mpr hx)
    | some m =>
      obtain ⟨hm, hpm, hleast⟩ := find?_sort_eq_some hfind
      refine ⟨m, hm, by simpa using hpm, fun x hx hxi => hleast x hx (by simpa using hxi), ?_⟩
      simp [hsome, hiso, hok, hfind]

/-- CPU2 with siblings `2-3`, on a data source that answers `2-3` to every read. -/
theorem SmtSiblingIsolatedCheck.evaluate_siblings_three :
    DataSource.read ⟨fun _ => some "2-3", fun _ => none⟩
        ("/sys/devices/system/cpu/cpu" ++ toString (2 : Int) ++ "/topology/thread_siblings_list") =
        some "2-3" ∧ ¬ RangeToIntMax "2-3" ∧
      (((cpuList "2-3").erase 2 = ∅ →
          evaluate ⟨some 2, none⟩ ⟨fun _ => some "2-3", fun _ => none⟩
            ⟨none, none, fun _ => false, fun _ => ⟨[], false⟩⟩ = .ok ⟨kind, .pass, name, "no sibling"⟩) ∧
        ((cpuList "2-3").erase 2 ≠ ∅ →
          DataSource.read ⟨fun _ => some "2-3", fun _ => none⟩ "/sys/devices/system/cpu/isolated" = none →
          evaluate ⟨some 2, none⟩ ⟨fun _ => some "2-3", fun _ => none⟩
            ⟨none, none, fun _ => false, fun _ => ⟨[], false⟩⟩ =
            .ok ⟨kind, .unknown, name, "cannot read isolated"⟩) ∧
        ∀ isolatedValue, (cpuList "2-3").erase 2 ≠ ∅ →
          DataSource.read ⟨fun _ => some "2-3", fun _ => none⟩ "/sys/devices/system/cpu/isolated" =
            some isolatedValue →
          (RangeToIntMax isolatedValue →
            evaluate ⟨some 2, none⟩ ⟨fun _ => some "2-3", fun _ => none⟩
              ⟨none, none, fun _ => false, fun _ => ⟨[], false⟩⟩ = .fault .undefinedBehaviour) ∧
          (¬ RangeToIntMax isolatedValue → (cpuList "2-3").erase 2 ⊆ cpuList isolatedValue →
            evaluate ⟨some 2, none⟩ ⟨fun _ => some "2-3", fun _ => none⟩
              ⟨none, none, fun _ => false, fun _ => ⟨[], false⟩⟩ =
              .ok ⟨kind, .pass, name, "siblings all isolated"⟩) ∧
          (¬ RangeToIntMax isolatedValue → ¬ (cpuList "2-3").erase 2 ⊆ cpuList isolatedValue →
            ∃ m ∈ (cpuList "2-3").erase 2, m ∉ cpuList isolatedValue ∧
              (∀ x ∈ (cpuList "2-3").erase 2, x ∉ cpuList isolatedValue → m ≤ x) ∧
              evaluate ⟨some 2, none⟩ ⟨fun _ => some "2-3", fun _ => none⟩
                ⟨none, none, fun _ => false, fun _ => ⟨[], false⟩⟩ =
                .ok ⟨kind, .fail, name, "sibling CPU" ++ toString m ++ " not isolated"⟩)) :=
  ⟨by decide, by decide, evaluate_siblings 2 none _ _ "2-3" (by decide) (by decide)⟩

end RmpEval
