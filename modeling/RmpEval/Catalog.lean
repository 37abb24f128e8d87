import RmpEval.Checks.System
import RmpEval.Checks.Core
import RmpEval.Checks.Frequency
import RmpEval.Checks.Interrupts
import RmpEval.Checks.Nic

/-!
# The catalog and the audit

`ReportSystemConfiguration` rejects a CPU outside `[0, CpuCount())`, then
evaluates the system checks, the checks of the RT core and, when a NIC is
named, `NicPresenceCheck`; the other checks of the NIC run only when that one
passes.  `reportSystemConfiguration` lists the results it prints, in order.
A check whose evaluation faults ends the audit with that fault: nothing
between the checks and `main` catches it.

Every check labels each result it returns with its own kind and name, so a
report that lists results lists, one for one and in order, results of the
checks of its sections (`reportedChecks`).

## What a check reads of the host

The data source is not the only thing a check reads.  `HostAgrees kind ctx`
relates two hosts that give the same answers to what the check of `kind` asks
them on `ctx`: `uname()` for `PreemptRTActiveCheck`, the queue directory of
the NIC for `RpsDisabledCheck`, and `getifaddrs()` for `NicQuietCheck`.  Every
other check reads nothing of the host, so each check's result is the same on
hosts it does not tell apart.
-/

namespace RmpEval

/-! ## The checks of the catalog -/

/-- `PreemptRTActiveCheck`. -/
def PreemptRTActiveCheck.check : Check := ⟨kind, name, .system, evaluate⟩

/-- `SwapDisabledCheck`. -/
def SwapDisabledCheck.check : Check := ⟨kind, name, .system, evaluate⟩

/-- `TimerMigrationCheck`. -/
def TimerMigrationCheck.check : Check := ⟨kind, name, .system, evaluate⟩

/-- `RtThrottlingCheck`. -/
def RtThrottlingCheck.check : Check := ⟨kind, name, .cpu, evaluate⟩

/-- `ClocksourceCheck`. -/
def ClocksourceCheck.check : Check := ⟨kind, name, .system, evaluate⟩

/-- `CoreIsolatedCheck`. -/
def CoreIsolatedCheck.check : Check := ⟨kind, name, .cpu, evaluate⟩

/-- `NohzFullCheck`. -/
def NohzFullCheck.check : Check := ⟨kind, name, .cpu, evaluate⟩

/-- `RcuNoCbsCheck`. -/
def RcuNoCbsCheck.check : Check := ⟨kind, name, .cpu, evaluate⟩

/-- `CpuGovernorCheck`. -/
def CpuGovernorCheck.check : Check := ⟨kind, name, .cpu, evaluate⟩

/-- `CpuFrequencyCheck`, with the conversion `std::to_string(std::stod(_))` it uses. -/
def CpuFrequencyCheck.check (stod : DoubleText) : Check := ⟨kind, name, .cpu, evaluate stod⟩

/-- `IrqAffinityDefaultAvoidsRtCheck`. -/
def IrqAffinityDefaultAvoidsRtCheck.check : Check := ⟨kind, name, .cpu, evaluate⟩

/-- `NoUnrelatedIrqsOnRtCheck`. -/
def NoUnrelatedIrqsOnRtCheck.check : Check := ⟨kind, name, .system, evaluate⟩

/-- `SmtSiblingIsolatedCheck`. -/
def SmtSiblingIsolatedCheck.check : Check := ⟨kind, name, .cpu, evaluate⟩

/-- `CStatesCappedCheck`. -/
def CStatesCappedCheck.check : Check := ⟨kind, name, .cpu, evaluate⟩

/-- `TurboPolicyCheck`. -/
def TurboPolicyCheck.check : Check := ⟨kind, name, .cpu, evaluate⟩

/-- `NicPresenceCheck`. -/
def NicPresenceCheck.check : Check := ⟨kind, name, .nic, evaluate⟩

/-- `NicLinkUpCheck`. -/
def NicLinkUpCheck.check : Check := ⟨kind, name, .nic, evaluate⟩

/-- `NicQuietCheck`. -/
def NicQuietCheck.check : Check := ⟨kind, name, .nic, evaluate⟩

/-- `NicIrqsPinnedCheck`. -/
def NicIrqsPinnedCheck.check : Check := ⟨kind, name, .nic, evaluate⟩

/-- `RpsDisabledCheck`. -/
def RpsDisabledCheck.check : Check := ⟨kind, name, .nic, evaluate⟩

/-- The system checks, in the order of the report. -/
def systemChecks : List Check :=
  [PreemptRTActiveCheck.check, SwapDisabledCheck.check, TimerMigrationCheck.check,
    RtThrottlingCheck.check, ClocksourceCheck.check]

/-- The checks of the RT core, in the order of the report. -/
def coreChecks (stod : DoubleText) : List Check :=
  [CoreIsolatedCheck.check, NohzFullCheck.check, RcuNoCbsCheck.check, CpuGovernorCheck.check,
    CpuFrequencyCheck.check stod, IrqAffinityDefaultAvoidsRtCheck.check,
    NoUnrelatedIrqsOnRtCheck.check, SmtSiblingIsolatedCheck.check, CStatesCappedCheck.check,
    TurboPolicyCheck.check]

/-- The checks of the NIC after `NicPresenceCheck`, in the order of the report. -/
def nicChecks : List Check :=
  [NicLinkUpCheck.check, NicQuietCheck.check, NicIrqsPinnedCheck.check, RpsDisabledCheck.check]

/-- Every check the report can run. -/
def catalog (stod : DoubleText) : List Check :=
  systemChecks ++ coreChecks stod ++ NicPresenceCheck.check :: nicChecks

/-! ## The audit -/

/-- `CpuCount()`: `sysconf(_SC_NPROCESSORS_CONF)`, or `1` when that is not positive. -/
def cpuCount (configured : Int) : Int := if configured > 0 then configured else 1

/-- The results of a list of checks, in order; the first fault ends the list. -/
def evaluateAll (checks : List Check) (ctx : CheckContext) (ds : DataSource) (host : Host) :
    Cpp (List CheckResult) :=
  checks.mapM fun c => c.evaluate ctx ds host

/-- `ReportSystemConfiguration(cpu, nicName)`: the results it prints, in order,
or `none` when it rejects the CPU.  `configured` is what `sysconf` answers. -/
def reportSystemConfiguration (stod : DoubleText) (configured cpu : Int) (nicName : String)
    (ds : DataSource) (host : Host) : Cpp (Option (List CheckResult)) :=
  if cpu < 0 || cpu ≥ cpuCount configured then .ok none
  else do
    let ctx : CheckContext := ⟨some cpu, if nicName.isEmpty then none else some nicName⟩
    let system ← evaluateAll systemChecks ctx ds host
    let core ← evaluateAll (coreChecks stod) ctx ds host
    match ctx.nic with
    | none => pure (some (system ++ core))
    | some _ => do
      let presence ← NicPresenceCheck.evaluate ctx ds host
      if presence.status = .pass then do
        let nic ← evaluateAll nicChecks ctx ds host
        pure (some (system ++ core ++ presence :: nic))
      else pure (some (system ++ core ++ [presence]))

/-! ## The report's sections

Every check labels each result it returns with its own kind and name.  With
that, a report that lists results lists, one for one and in order, the results
of the checks of its sections. -/

theorem catalog_labelled (stod : DoubleText) : ∀ c ∈ catalog stod, c.Labelled := by
  simp only [catalog, systemChecks, coreChecks, nicChecks, List.cons_append, List.nil_append,
    List.forall_mem_cons, List.not_mem_nil, false_implies, implies_true, and_true]
  exact ⟨PreemptRTActiveCheck.evaluate_isOf, SwapDisabledCheck.evaluate_isOf,
    TimerMigrationCheck.evaluate_isOf, RtThrottlingCheck.evaluate_isOf, ClocksourceCheck.evaluate_isOf,
    CoreIsolatedCheck.evaluate_isOf, NohzFullCheck.evaluate_isOf, RcuNoCbsCheck.evaluate_isOf,
    CpuGovernorCheck.evaluate_isOf, CpuFrequencyCheck.evaluate_isOf stod,
    IrqAffinityDefaultAvoidsRtCheck.evaluate_isOf, NoUnrelatedIrqsOnRtCheck.evaluate_isOf,
    SmtSiblingIsolatedCheck.evaluate_isOf, CStatesCappedCheck.evaluate_isOf,
    TurboPolicyCheck.evaluate_isOf, NicPresenceCheck.evaluate_isOf, NicLinkUpCheck.evaluate_isOf,
    NicQuietCheck.evaluate_isOf, NicIrqsPinnedCheck.evaluate_isOf, RpsDisabledCheck.evaluate_isOf⟩

@[simp] theorem evaluateAll_nil (ctx : CheckContext) (ds : DataSource) (host : Host) :
    evaluateAll [] ctx ds host = .ok [] := rfl

theorem evaluateAll_cons (c : Check) (cs : List Check) (ctx : CheckContext) (ds : DataSource)
    (host : Host) : evaluateAll (c :: cs) ctx ds host =
      (c.evaluate ctx ds host >>= fun r => evaluateAll cs ctx ds host >>= fun rs => pure (r :: rs)) :=
  List.mapM_cons ..

theorem evaluateAll_append (l₁ l₂ : List Check) (ctx : CheckContext) (ds : DataSource)
    (host : Host) : evaluateAll (l₁ ++ l₂) ctx ds host =
      (evaluateAll l₁ ctx ds host >>= fun r₁ =>
        evaluateAll l₂ ctx ds host >>= fun r₂ => pure (r₁ ++ r₂)) :=
  List.mapM_append ..

/-- Labelled checks evaluated in order give one result naming each, in the same order. -/
theorem evaluateAll_forall₂ {checks : List Check} {ctx : CheckContext} {ds : DataSource}
    {host : Host} {rs : List CheckResult} (hl : ∀ c ∈ checks, c.Labelled)
    (h : evaluateAll checks ctx ds host = .ok rs) :
    List.Forall₂ (fun r c => r.IsOf c.kind c.name) rs checks := by
  induction checks generalizing rs with
  | nil => cases h; exact .nil
  | cons c cs ih =>
    rw [evaluateAll_cons] at h
    obtain ⟨r, hr, h⟩ := Cpp.bind_eq_ok.mp h
    obtain ⟨rs', hrs, h⟩ := Cpp.bind_eq_ok.mp h
    cases h
    exact .cons (hl c (.head _) _ _ _ r hr) (ih (fun c' hc' => hl c' (.tail _ hc')) hrs)

/-- The checks whose results the report lists, in order: the system checks,
the checks of the RT core, and when a NIC is named `NicPresenceCheck`,
followed by the other checks of the NIC when it passed. -/
def reportedChecks (stod : DoubleText) (nic : Option String) (present : Bool) : List Check :=
  systemChecks ++ coreChecks stod ++
    match nic with
    | none => []
    | some _ => NicPresenceCheck.check :: if present then nicChecks else []

theorem reportedChecks_subset (stod : DoubleText) (nic : Option String) (present : Bool) :
    ∀ c ∈ reportedChecks stod nic present, c ∈ catalog stod := by
  intro c hc
  simp only [reportedChecks, catalog, List.mem_append] at hc ⊢
  rcases hc with hc | hc
  · exact .inl hc
  · split at hc
    · simp at hc
    · right
      split at hc <;> simp_all

/-- A report that lists results has evaluated the checks of `reportedChecks`
in order, for a CPU in range and the NIC's presence as `NicPresenceCheck`
found it. -/
theorem reportSystemConfiguration_evaluateAll {stod : DoubleText} {configured cpu : Int}
    {nicName : String} {ds : DataSource} {host : Host} {rs : List CheckResult}
    (h : reportSystemConfiguration stod configured cpu nicName ds host = .ok (some rs)) :
    0 ≤ cpu ∧ cpu < cpuCount configured ∧ ∃ present : Bool,
      (present ↔ ∃ p, NicPresenceCheck.evaluate
        ⟨some cpu, if nicName.isEmpty then none else some nicName⟩ ds host = .ok p ∧
          p.status = .pass) ∧
      evaluateAll (reportedChecks stod (if nicName.isEmpty then none else some nicName) present)
        ⟨some cpu, if nicName.isEmpty then none else some nicName⟩ ds host = .ok rs := by
  unfold reportSystemConfiguration at h
  split at h
  · cases h
  rename_i hcpu
  simp only [Bool.or_eq_true, decide_eq_true_eq, not_or, not_lt, not_le] at hcpu
  refine ⟨hcpu.1, hcpu.2, ?_⟩
  dsimp only at h
  obtain ⟨system, hsys, h⟩ := Cpp.bind_eq_ok.mp h
  obtain ⟨core, hcore, h⟩ := Cpp.bind_eq_ok.mp h
  split at h
  case h_1 hnic =>
    cases h
    refine ⟨false, by simp [hnic, NicPresenceCheck.evaluate], ?_⟩
    simp only [hnic] at hsys hcore ⊢
    simp [reportedChecks, evaluateAll_append, hsys, hcore]
  case h_2 nic hnic =>
    obtain ⟨presence, hp, h⟩ := Cpp.bind_eq_ok.mp h
    simp only [hnic] at hsys hcore hp ⊢
    split at h
    case isTrue hpass =>
      obtain ⟨nics, hnics, h⟩ := Cpp.bind_eq_ok.mp h
      simp only [hnic] at hnics
      cases h
      refine ⟨true, by simp [hp, hpass], ?_⟩
      simp [reportedChecks, evaluateAll_append, evaluateAll_cons, hsys, hcore, hnics,
        NicPresenceCheck.check, hp]
    case isFalse hpass =>
      cases h
      refine ⟨false, by simp [hp, hpass], ?_⟩
      simp [reportedChecks, evaluateAll_append, evaluateAll_cons, hsys, hcore,
        NicPresenceCheck.check, hp]

/-- Two hosts give the check of `kind` on `ctx` the same answers. -/
def HostAgrees (kind : CheckKind) (ctx : CheckContext) (h₁ h₂ : Host) : Prop :=
  match kind with
  | .preemptRTActive => h₁.uname = h₂.uname
  | .rpsDisabled => ∀ nic, ctx.nic = some nic →
      h₁.pathExists (RpsDisabledCheck.queueDirectory nic) =
          h₂.pathExists (RpsDisabledCheck.queueDirectory nic) ∧
        h₁.directory (RpsDisabledCheck.queueDirectory nic) =
          h₂.directory (RpsDisabledCheck.queueDirectory nic)
  | .nicQuiet => h₁.interfaceAddresses = h₂.interfaceAddresses
  | _ => True

theorem PreemptRTActiveCheck.evaluate_eq_of_uname (ctx : CheckContext) (ds : DataSource)
    {h₁ h₂ : Host} (h : h₁.uname = h₂.uname) : evaluate ctx ds h₁ = evaluate ctx ds h₂ := by
  simp only [evaluate, h]

theorem RpsDisabledCheck.evaluate_eq_of_queueDirectory (ctx : CheckContext) (ds : DataSource)
    {h₁ h₂ : Host} (h : HostAgrees kind ctx h₁ h₂) : evaluate ctx ds h₁ = evaluate ctx ds h₂ := by
  unfold evaluate
  cases hnic : ctx.nic with
  | none => rfl
  | some nic =>
    obtain ⟨hexists, hdir⟩ := h nic hnic
    simp only [hexists, hdir]

theorem NicQuietCheck.evaluate_eq_of_interfaceAddresses (ctx : CheckContext) (ds : DataSource)
    {h₁ h₂ : Host} (h : h₁.interfaceAddresses = h₂.interfaceAddresses) :
    evaluate ctx ds h₁ = evaluate ctx ds h₂ := by
  simp only [evaluate, h]

/-- Every check of the catalog gives the same result on two hosts that agree
on what it reads of them. -/
theorem catalog_evaluate_eq_of_hostAgrees (stod : DoubleText) :
    ∀ c ∈ catalog stod, ∀ ctx ds h₁ h₂, HostAgrees c.kind ctx h₁ h₂ →
      c.evaluate ctx ds h₁ = c.evaluate ctx ds h₂ := by
  simp only [catalog, systemChecks, coreChecks, nicChecks, List.cons_append, List.nil_append,
    List.forall_mem_cons, List.not_mem_nil, false_implies, implies_true, and_true]
  exact ⟨fun ctx ds _ _ h => PreemptRTActiveCheck.evaluate_eq_of_uname ctx ds h,
    fun _ _ _ _ _ => rfl, fun _ _ _ _ _ => rfl, fun _ _ _ _ _ => rfl, fun _ _ _ _ _ => rfl,
    fun _ _ _ _ _ => rfl, fun _ _ _ _ _ => rfl, fun _ _ _ _ _ => rfl, fun _ _ _ _ _ => rfl,
    fun _ _ _ _ _ => rfl, fun _ _ _ _ _ => rfl, fun _ _ _ _ _ => rfl, fun _ _ _ _ _ => rfl,
    fun _ _ _ _ _ => rfl, fun _ _ _ _ _ => rfl, fun _ _ _ _ _ => rfl, fun _ _ _ _ _ => rfl,
    fun ctx ds _ _ h => NicQuietCheck.evaluate_eq_of_interfaceAddresses ctx ds h, fun _ _ _ _ _ => rfl,
    fun ctx ds _ _ h => RpsDisabledCheck.evaluate_eq_of_queueDirectory ctx ds h⟩

/-- `NicQuietCheck` gives the same result on two hosts with the same address
list, whatever their `uname()` and directories. -/
theorem catalog_evaluate_eq_nicQuiet :
    let h₁ : Host := ⟨some ⟨"6.6.0-rt5", "#1 SMP PREEMPT_RT"⟩, some [⟨some "eth0", some .inet⟩],
      fun _ => true, fun _ => ⟨[], true⟩⟩
    let h₂ : Host := ⟨none, some [⟨some "eth0", some .inet⟩], fun _ => false, fun _ => ⟨[], false⟩⟩
    NicQuietCheck.check ∈ catalog (fun _ => none) ∧
      HostAgrees NicQuietCheck.check.kind ⟨some 1, some "eth0"⟩ h₁ h₂ ∧
      NicQuietCheck.check.evaluate ⟨some 1, some "eth0"⟩ ⟨fun _ => some "up", fun _ => none⟩ h₁ =
        NicQuietCheck.check.evaluate ⟨some 1, some "eth0"⟩ ⟨fun _ => some "up", fun _ => none⟩ h₂ :=
  have hmem : NicQuietCheck.check ∈ catalog (fun _ => none) := by simp [catalog, nicChecks]
  ⟨hmem, rfl, catalog_evaluate_eq_of_hostAgrees _ _ hmem _ _ _ _ rfl⟩

/-- The three checks that read the host give different results on two hosts,
with the same context and data source: `/sys/kernel/realtime` cannot be read
and every other file holds `0`.  The first host's `uname -v` names
`PREEMPT_RT`, its queue directory lists `rx-0`, and `getifaddrs()` lists no
address; on the second `uname()` and `getifaddrs()` fail and the queue
directory does not exist. -/
theorem catalog_reads_host :
    (PreemptRTActiveCheck.check.evaluate ⟨some 1, some "eth0"⟩
        ⟨fun p => if p = "/sys/kernel/realtime" then none else some "0", fun _ => none⟩
        ⟨some ⟨"6.6.0-rt5", "#1 SMP PREEMPT_RT"⟩, some [], fun _ => true,
          fun _ => ⟨[⟨"rx-0", some true⟩], false⟩⟩ =
      .ok ⟨.preemptRTActive, .pass, "PREEMPT_RT active", "uname -v: #1 SMP PREEMPT_RT"⟩ ∧
    PreemptRTActiveCheck.check.evaluate ⟨some 1, some "eth0"⟩
        ⟨fun p => if p = "/sys/kernel/realtime" then none else some "0", fun _ => none⟩
        ⟨none, none, fun _ => false, fun _ => ⟨[], false⟩⟩ =
      .ok ⟨.preemptRTActive, .fail, "PREEMPT_RT active", "No evidence of RT kernel"⟩) ∧
    (RpsDisabledCheck.check.evaluate ⟨some 1, some "eth0"⟩
        ⟨fun p => if p = "/sys/kernel/realtime" then none else some "0", fun _ => none⟩
        ⟨some ⟨"6.6.0-rt5", "#1 SMP PREEMPT_RT"⟩, some [], fun _ => true,
          fun _ => ⟨[⟨"rx-0", some true⟩], false⟩⟩ =
      .ok ⟨.rpsDisabled, .pass, "RPS disabled on NIC", "all zero masks"⟩ ∧
    RpsDisabledCheck.check.evaluate ⟨some 1, some "eth0"⟩
        ⟨fun p => if p = "/sys/kernel/realtime" then none else some "0", fun _ => none⟩
        ⟨none, none, fun _ => false, fun _ => ⟨[], false⟩⟩ =
      .ok ⟨.rpsDisabled, .unknown, "RPS disabled on NIC", "no queues dir"⟩) ∧
    (NicQuietCheck.check.evaluate ⟨some 1, some "eth0"⟩
        ⟨fun p => if p = "/sys/kernel/realtime" then none else some "0", fun _ => none⟩
        ⟨some ⟨"6.6.0-rt5", "#1 SMP PREEMPT_RT"⟩, some [], fun _ => true,
          fun _ => ⟨[⟨"rx-0", some true⟩], false⟩⟩ =
      .ok ⟨.nicQuiet, .pass, "NIC is quiet", "no IPs, no default route"⟩ ∧
    NicQuietCheck.check.evaluate ⟨some 1, some "eth0"⟩
        ⟨fun p => if p = "/sys/kernel/realtime" then none else some "0", fun _ => none⟩
        ⟨none, none, fun _ => false, fun _ => ⟨[], false⟩⟩ =
      .ok ⟨.nicQuiet, .unknown, "NIC is quiet", "addr=?, def4=no, def6=no"⟩) := by
  decide

/-! ## A check that does not return -/

/-- With the isolated list `1-2147483647` the range loop of `ParseCpuList`
overflows its counter: `CoreIsolatedCheck` does not return, and the audit
ends there. -/
theorem audit_isolated_to_intMax (stod : DoubleText) :
    let ds : DataSource := ⟨fun p => if p = "/sys/devices/system/cpu/isolated" then some "1-2147483647"
      else none, fun _ => none⟩
    let host : Host := ⟨none, none, fun _ => false, fun _ => ⟨[], false⟩⟩
    CoreIsolatedCheck.evaluate ⟨some 1, none⟩ ds host = .fault .undefinedBehaviour ∧
      reportSystemConfiguration stod 4 1 "" ds host = .fault .undefinedBehaviour := by
  intro ds host
  have htrim : trim "1-2147483647" = "1-2147483647" := by decide
  have hcore : CoreIsolatedCheck.evaluate ⟨some 1, none⟩ ds host = .fault .undefinedBehaviour := by
    simp [CoreIsolatedCheck.evaluate, ds, htrim, parseCpuList_one_to_intMax]
  have hcores : evaluateAll (coreChecks stod) ⟨some 1, none⟩ ds host = .fault .undefinedBehaviour := by
    simp only [evaluateAll, coreChecks, List.mapM_cons, CoreIsolatedCheck.check, hcore, Cpp.fault_bind]
  obtain ⟨rs, hsys⟩ : ∃ rs, evaluateAll systemChecks ⟨some 1, none⟩ ds host = .ok rs := ⟨_, rfl⟩
  have hnic : (if "".isEmpty = true then none else some "") = (none : Option String) := rfl
  refine ⟨hcore, ?_⟩
  simp only [reportSystemConfiguration, if_neg (by decide : ¬ ((1 : Int) < 0 || 1 ≥ cpuCount 4) = true),
    hnic, hsys, hcores, Cpp.ok_bind, Cpp.fault_bind]

end RmpEval
