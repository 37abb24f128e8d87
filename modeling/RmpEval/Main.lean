import RmpEval.Catalog
import RmpEval.Sender

/-!
# `main`

`main` fills `TestParameters` with its defaults, lets the parser overwrite the
fields of the options given, and then checks the flags: `--help` and
`--version` print and end, `--no-config` with `--only-config` is an error, and
so is an effective user other than root.  Unless `--no-config` is given it
runs the audit on `SendCpu` and the NIC name, which is the sentinel
`NoNicSelected` when no NIC is given.  After `--only-config` and `mlockall` it
converts `SendSleep` from microseconds to nanoseconds, and `BucketWidth` too,
or sets it to `SendSleep * 0.125` when it is `0`.  Then it starts the threads.

None of the parameters is checked.  `SendSleep` and `BucketWidth` are
`uint64_t`, so the conversion wraps, and a zero `--send-sleep` gives a zero
period and a zero bucket width; `SendCpu` and `ReceiveCpu` are whatever the
options say, and the audit only reports an out-of-range `SendCpu`.
-/

namespace RmpEval

/-! ## Arguments -/

/-- Modelled from the spec: the parser is not in the repository, and every
option stores a value of its kind, `uint64_t`, `int`, a string or a flag.
What `ParseArguments` leaves in the variables it was given: for each option on
the command line the value it stored, `none` where the option is absent and
the default stays. -/
structure Arguments where
  nic : Option String
  iterations : Option U64
  sendSleep : Option U64
  sendPriority : Option Int
  receivePriority : Option Int
  sendCpu : Option Int
  receiveCpu : Option Int
  verbose : Bool
  noConfig : Bool
  onlyConfig : Bool
  bucketWidth : Option U64
  help : Bool
  version : Bool
deriving DecidableEq, Repr

/-- `NoNicSelected`, the NIC name of the cyclic mode. -/
def noNicSelected : String := "NoNicSelected"

/-- `DefaultCpuCore`: `std::max(std::thread::hardware_concurrency() - 1, 0U)`
in `unsigned`, stored into an `int` field, where a value past `INT_MAX` wraps. -/
def defaultCpuCore (hardwareConcurrency : Fin (2 ^ 32)) : Int :=
  let core := (max (hardwareConcurrency - 1) 0 : Fin (2 ^ 32)).val
  if core < 2 ^ 31 then core else core - 2 ^ 32

/-- The parameters before parsing. -/
def defaultParameters (hardwareConcurrency : Fin (2 ^ 32)) : TestParameters :=
  ⟨noNicSelected, runIndefinitely, 1000, 42, 45, defaultCpuCore hardwareConcurrency,
    defaultCpuCore hardwareConcurrency, false, 0⟩

/-- The parameters after parsing: each option given overwrites its field. -/
def Arguments.apply (args : Arguments) (p : TestParameters) : TestParameters :=
  ⟨args.nic.getD p.nicName, args.iterations.getD p.iterations, args.sendSleep.getD p.sendSleep,
    args.sendPriority.getD p.sendPriority, args.receivePriority.getD p.receivePriority,
    args.sendCpu.getD p.sendCpu, args.receiveCpu.getD p.receiveCpu, args.verbose || p.isVerbose,
    args.bucketWidth.getD p.bucketWidth⟩

/-! ## The conversion to nanoseconds -/

/-- The `double` nearest `n`, ties to even: `n` itself below `2^53`, else `n`
rounded to `53` significant bits. -/
def roundToDouble (n : Nat) : Nat :=
  if n < 2 ^ 53 then n
  else
    let e := n.log2 - 52
    let q := n / 2 ^ e
    let r := n % 2 ^ e
    (if 2 * r > 2 ^ e || (2 * r = 2 ^ e && q % 2 = 1) then q + 1 else q) * 2 ^ e

/-- `params.SendSleep * 0.125` stored back into `uint64_t`: the `double` of
`SendSleep` scaled by `1/8`, which is exact, and truncated. -/
def autoBucketWidth (sendSleep : U64) : U64 := ((roundToDouble sendSleep.val / 8 : Nat) : U64)

/-- The conversion in `main`: `SendSleep *= NanoPerMicro`, then `BucketWidth`
from `SendSleep` when it is `0`, else `BucketWidth *= NanoPerMicro`. -/
def toNanoseconds (p : TestParameters) : TestParameters :=
  let sendSleep := p.sendSleep * 1000
  { p with
    sendSleep := sendSleep
    bucketWidth := if p.bucketWidth = 0 then autoBucketWidth sendSleep else p.bucketWidth * 1000 }

/-! ## `main` -/

/-- What `main` reads besides its arguments. -/
structure MainEnv where
  hardwareConcurrency : Fin (2 ^ 32)
  euid : Nat
  mlockallSucceeds : Bool
  /-- Whether `EthercatNicTest` is constructed; when its constructor throws,
  `main`'s `catch` returns `1`. -/
  testerConstructed : Bool
  /-- What the audit reads: `sysconf`, the conversion `std::stod` uses, the
  file system and the host. -/
  configured : Int
  stod : DoubleText
  ds : DataSource
  host : Host

/-- How `main` goes on: it returns a code before the measurement, or starts
the threads with `params`, the receiver only when a NIC is named. -/
inductive MainOutcome where
  | exit (code : Nat)
  | measure (params : TestParameters) (withReceiver : Bool)
deriving DecidableEq, Repr

/-- What `main` does after the audit, up to the start of the threads. -/
def startMeasurement (env : MainEnv) (args : Arguments) (params : TestParameters) : MainOutcome :=
  if args.onlyConfig then .exit 0
  else if !env.mlockallSucceeds then .exit 1
  else
    let params := toNanoseconds params
    if params.nicName = noNicSelected then .measure params false
    else if env.testerConstructed then .measure params true
    else .exit 1

/-- `main` up to the start of the threads; `none` is an argument vector the
parser rejects.  An exception of the audit reaches `main`'s `catch`, which
returns `1`. -/
def main (env : MainEnv) (parsed : Option Arguments) : Cpp MainOutcome :=
  match parsed with
  | none => .ok (.exit 1)
  | some args =>
    let params := args.apply (defaultParameters env.hardwareConcurrency)
    if args.help then .ok (.exit 0)
    else if args.version then .ok (.exit 0)
    else if args.noConfig && args.onlyConfig then .ok (.exit 1)
    else if env.euid ≠ 0 then .ok (.exit 1)
    else
      let audit : Cpp Unit :=
        if args.noConfig then .ok ()
        else reportSystemConfiguration env.stod env.configured params.sendCpu params.nicName env.ds
          env.host >>= fun _ => .ok ()
      Cpp.tryCatch (audit >>= fun _ => .ok (startMeasurement env args params)) (.ok (.exit 1))

/-! ## What the threads get -/

theorem toNanoseconds_bucketWidth (p : TestParameters) :
    (toNanoseconds p).bucketWidth =
      if p.bucketWidth = 0 then autoBucketWidth (toNanoseconds p).sendSleep else p.bucketWidth * 1000 := rfl

theorem toNanoseconds_sendSleep (p : TestParameters) :
    (toNanoseconds p).sendSleep.val = 1000 * p.sendSleep.val % 2 ^ 64 := by
  simp only [toNanoseconds]
  rw [Fin.val_mul, Nat.mul_comm]
  rfl

theorem roundToDouble_ge_eight {n : Nat} (h : 8 ≤ n) : 8 ≤ roundToDouble n := by
  unfold roundToDouble
  split
  · exact h
  · rename_i hbig
    have hn : n ≠ 0 := by omega
    have hlog : 53 ≤ n.log2 := (Nat.le_log2 hn).mpr (by omega)
    have hq : 2 ^ 52 ≤ n / 2 ^ (n.log2 - 52) := by
      rw [Nat.le_div_iff_mul_le (Nat.two_pow_pos _), ← Nat.pow_add, show 52 + (n.log2 - 52) = n.log2 by omega]
      exact Nat.log2_self_le hn
    have hpos : 1 ≤ 2 ^ (n.log2 - 52) := Nat.one_le_two_pow
    calc 8 ≤ n / 2 ^ (n.log2 - 52) * 1 := by omega
      _ ≤ n / 2 ^ (n.log2 - 52) * 2 ^ (n.log2 - 52) := Nat.mul_le_mul_left _ hpos
      _ ≤ _ := Nat.mul_le_mul_right _ (by split <;> omega)

/-- A period of at least `8 ns` gives a positive automatic bucket width. -/
theorem autoBucketWidth_pos {s : U64} (h : 8 ≤ s.val) : 0 < (autoBucketWidth s).val := by
  have h8 := roundToDouble_ge_eight h
  have hlt : roundToDouble s.val / 8 < 2 ^ 64 := by
    unfold roundToDouble
    split
    · omega
    · rename_i hbig
      have hn : s.val ≠ 0 := by omega
      have hlog53 : 53 ≤ s.val.log2 := (Nat.le_log2 hn).mpr (by omega)
      have hlog : s.val.log2 < 64 := (Nat.log2_lt hn).mpr s.isLt
      have hq : s.val / 2 ^ (s.val.log2 - 52) < 2 ^ 53 := by
        rw [Nat.div_lt_iff_lt_mul (Nat.two_pow_pos _), ← Nat.pow_add,
          show 53 + (s.val.log2 - 52) = s.val.log2 + 1 by omega]
        exact (Nat.log2_lt hn).mp (Nat.lt_succ_self _)
      have hpow : 2 ^ (s.val.log2 - 52) ≤ 2 ^ 11 := Nat.pow_le_pow_right (by decide) (by omega)
      have : (if 2 * (s.val % 2 ^ (s.val.log2 - 52)) > 2 ^ (s.val.log2 - 52) ||
            (2 * (s.val % 2 ^ (s.val.log2 - 52)) = 2 ^ (s.val.log2 - 52) &&
              s.val / 2 ^ (s.val.log2 - 52) % 2 = 1)
          then s.val / 2 ^ (s.val.log2 - 52) + 1 else s.val / 2 ^ (s.val.log2 - 52)) ≤ 2 ^ 53 := by
        split <;> omega
      calc _ ≤ 2 ^ 53 * 2 ^ (s.val.log2 - 52) / 8 := Nat.div_le_div_right (Nat.mul_le_mul_right _ this)
        _ ≤ 2 ^ 53 * 2 ^ 11 / 8 := Nat.div_le_div_right (Nat.mul_le_mul_left _ hpow)
        _ < 2 ^ 64 := by decide
  simp only [autoBucketWidth, Fin.val_natCast, Nat.mod_eq_of_lt hlt]
  omega

theorem startMeasurement_eq_measure {env : MainEnv} {args : Arguments} {params p : TestParameters}
    {r : Bool} (h : startMeasurement env args params = .measure p r) : p = toNanoseconds params := by
  simp only [startMeasurement] at h
  split_ifs at h <;> cases h <;> rfl

/-- Threads start only with the parsed parameters converted to nanoseconds. -/
theorem main_eq_measure {env : MainEnv} {args : Arguments} {p : TestParameters} {r : Bool}
    (h : main env (some args) = .ok (.measure p r)) :
    p = toNanoseconds (args.apply (defaultParameters env.hardwareConcurrency)) := by
  simp only [main] at h
  split at h
  · cases h
  split at h
  · cases h
  split at h
  · cases h
  split at h
  · cases h
  rcases Cpp.tryCatch_eq_ok.mp h with h | ⟨_, _, _, h⟩
  · obtain ⟨_, -, h⟩ := Cpp.bind_eq_ok.mp h
    exact startMeasurement_eq_measure (Cpp.ok.inj h)
  · cases h

/-- The parameters the threads start with.  `SendSleep` is `1000` times the
`--send-sleep` value modulo `2^64`.  `BucketWidth` is `1000` times the
`--bucket-width` value modulo `2^64`, or the automatic width when that value
is absent or `0`.  The CPUs are the options' values or `DefaultCpuCore`.  A
positive period whose nanoseconds fit in `uint64_t` is kept exactly, and its
automatic bucket width is positive. -/
theorem main_measure_params (env : MainEnv) (args : Arguments) (p : TestParameters) (r : Bool)
    (h : main env (some args) = .ok (.measure p r)) :
    p.sendSleep.val = 1000 * (args.sendSleep.getD 1000).val % 2 ^ 64 ∧
      p.bucketWidth = (if args.bucketWidth.getD 0 = 0 then autoBucketWidth p.sendSleep
        else args.bucketWidth.getD 0 * 1000) ∧
      p.sendCpu = args.sendCpu.getD (defaultCpuCore env.hardwareConcurrency) ∧
      p.receiveCpu = args.receiveCpu.getD (defaultCpuCore env.hardwareConcurrency) ∧
      (0 < (args.sendSleep.getD 1000).val → 1000 * (args.sendSleep.getD 1000).val < 2 ^ 64 →
        p.sendSleep.val = 1000 * (args.sendSleep.getD 1000).val ∧ 0 < p.sendSleep.val ∧
          (args.bucketWidth.getD 0 = 0 → 0 < p.bucketWidth.val)) := by
  obtain rfl := main_eq_measure h
  have hsleep : (args.apply (defaultParameters env.hardwareConcurrency)).sendSleep =
      args.sendSleep.getD 1000 := rfl
  have hbucket : (args.apply (defaultParameters env.hardwareConcurrency)).bucketWidth =
      args.bucketWidth.getD 0 := rfl
  have hs : (toNanoseconds (args.apply (defaultParameters env.hardwareConcurrency))).sendSleep.val =
      1000 * (args.sendSleep.getD 1000).val % 2 ^ 64 := by
    rw [toNanoseconds_sendSleep, hsleep]
  refine ⟨hs, by rw [toNanoseconds_bucketWidth, hbucket], rfl, rfl, fun hpos hlt => ?_⟩
  have hexact : (toNanoseconds (args.apply (defaultParameters env.hardwareConcurrency))).sendSleep.val =
      1000 * (args.sendSleep.getD 1000).val := by
    rw [hs, Nat.mod_eq_of_lt hlt]
  refine ⟨hexact, by omega, fun hb => ?_⟩
  rw [toNanoseconds_bucketWidth, hbucket, if_pos hb]
  exact autoBucketWidth_pos (by omega)

/-- Four CPUs, `--iterations 1000 --no-config`: the sender alone, with a
period of `1 ms` and buckets of `125 µs`, on CPU 3. -/
theorem main_measure_params_default :
    let env : MainEnv := ⟨4, 0, true, true, 4, fun _ => none, ⟨fun _ => none, fun _ => none⟩,
      ⟨none, none, fun _ => false, fun _ => ⟨[], false⟩⟩⟩
    let args : Arguments :=
      ⟨none, some 1000, none, none, none, none, none, false, true, false, none, false, false⟩
    let p : TestParameters := ⟨"NoNicSelected", 1000, 1000000, 42, 45, 3, 3, false, 125000⟩
    main env (some args) = .ok (.measure p false) ∧
      (p.sendSleep.val = 1000 * (args.sendSleep.getD 1000).val % 2 ^ 64 ∧
        p.bucketWidth = (if args.bucketWidth.getD 0 = 0 then autoBucketWidth p.sendSleep
          else args.bucketWidth.getD 0 * 1000) ∧
        p.sendCpu = args.sendCpu.getD (defaultCpuCore env.hardwareConcurrency) ∧
        p.receiveCpu = args.receiveCpu.getD (defaultCpuCore env.hardwareConcurrency) ∧
        (0 < (args.sendSleep.getD 1000).val → 1000 * (args.sendSleep.getD 1000).val < 2 ^ 64 →
          p.sendSleep.val = 1000 * (args.sendSleep.getD 1000).val ∧ 0 < p.sendSleep.val ∧
            (args.bucketWidth.getD 0 = 0 → 0 < p.bucketWidth.val))) :=
  have h : main ⟨4, 0, true, true, 4, fun _ => none, ⟨fun _ => none, fun _ => none⟩,
      ⟨none, none, fun _ => false, fun _ => ⟨[], false⟩⟩⟩
      (some ⟨none, some 1000, none, none, none, none, none, false, true, false, none, false, false⟩) =
      .ok (.measure ⟨"NoNicSelected", 1000, 1000000, 42, 45, 3, 3, false, 125000⟩ false) := by
    decide
  ⟨h, main_measure_params _ _ _ _ h⟩

/-- `--nic eth0 --send-sleep 0 --send-cpu 7 --receive-cpu -1` on four online
CPUs: the audit sees CPU 7 out of range and skips its checks, and `main`
starts the threads with a zero period, a zero bucket width and both CPUs
outside `[0, 4)`. -/
theorem main_unchecked_parameters :
    main ⟨4, 0, true, true, 4, fun _ => none, ⟨fun _ => none, fun _ => none⟩,
        ⟨none, none, fun _ => false, fun _ => ⟨[], false⟩⟩⟩
        (some ⟨some "eth0", none, some 0, none, none, some 7, some (-1), false, false, false, none,
          false, false⟩) =
      .ok (.measure ⟨"eth0", runIndefinitely, 0, 42, 45, 7, -1, false, 0⟩ true) ∧
    cpuCount 4 = 4 := by
  decide

end RmpEval
