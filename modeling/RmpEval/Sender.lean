import Mathlib.Data.ZMod.Defs
import Mathlib.Order.Bounds.Basic

/-!
# The measurement loops

`SenderThread` and `ReceiverThread` run one loop: while `testRunning` is set
and the iteration count is not reached, do the iteration's work, read the
clock, record the interval since the previous reading unless the iteration is
the first or the last, and count.  The sender's work is `Send()`; it then
sleeps to an absolute deadline on the grid `t0 + N * SendSleep`, skipping the
grid points the clock has already passed.  The receiver's work is `Receive()`,
and a failed receive ends its loop.

Each loop is a function of its inputs, one tick per iteration: the value of
`testRunning`, what `Receive()` returned and the clock reading.  What a thread
does is the list of its `AddObservation` calls and, for the sender, the list
of deadlines it passes to `clock_nanosleep`.  A list of ticks shorter than the
run observes its beginning.  Setting up the thread (`ConfigureThisThread`) is
outside the loop and left out.

The catch-up loop `while (current > ToEpoch(next))` need not end: with a zero
period it never moves `next`.  `catchUp` runs it for `catchUpFuel` passes and
is `none` when they run out, which is when the C++ loop runs forever.

* `senderLoop_deadlines`: the deadlines are the grid points whose indices
  `IsGridSchedule` describes, each the first grid point after the previous
  deadline that is not before the clock reading.
* `senderLoop_observations`: when its loop ends, the sender records what the
  receiver records on the same readings.
* `receiverThread_observations`: over a run of `N` iterations the receiver
  records the intervals of iterations `1, …, N-2`.
-/

namespace RmpEval

/-! ## Time -/

/-- `uint64_t`. -/
abbrev U64 := Fin (2 ^ 64)

/-- Modelled from the spec: `NanoPerSec` of `config.h`, the nanoseconds in a second. -/
def nanoPerSec : Nat := 1000000000

/-- `RunIndefinitely`: the largest `uint64_t`. -/
def runIndefinitely : U64 := ⟨2 ^ 64 - 1, by decide⟩

/-- `struct timespec`, as the clock and `AddNanoToTimespec` fill it. -/
structure Timespec where
  tvSec : Nat
  tvNsec : Nat
deriving DecidableEq, Repr

/-- Modelled from the spec: `ToEpoch` of `config.h`, a time in nanoseconds as
`uint64_t`, `tv_sec * NanoPerSec + tv_nsec`. -/
def toEpoch (t : Timespec) : U64 := ((t.tvSec * nanoPerSec + t.tvNsec : Nat) : U64)

/-- `AddNanoToTimespec`: the sum in `uint64_t`, split into seconds and nanoseconds. -/
def addNanoToTimespec (time : Timespec) (nanos : U64) : Timespec :=
  let nanoEpoch := toEpoch time + nanos
  ⟨nanoEpoch.val / nanoPerSec, nanoEpoch.val % nanoPerSec⟩

/-- The normalized time of `v` nanoseconds. -/
def deadline (v : Nat) : Timespec := ⟨v / nanoPerSec, v % nanoPerSec⟩

/-! ## The loops -/

/-- `TestParameters`: the fields the threads and `main` set or read.  The
report sinks are left out. -/
structure TestParameters where
  nicName : String
  iterations : U64
  sendSleep : U64
  sendPriority : Int
  receivePriority : Int
  sendCpu : Int
  receiveCpu : Int
  isVerbose : Bool
  bucketWidth : U64
deriving DecidableEq, Repr

/-- The condition of both loops, once `testRunning` is read. -/
def continues (p : TestParameters) (running : Bool) (index : U64) : Bool :=
  running && (p.iterations == runIndefinitely || index < p.iterations)

theorem continues_true {p : TestParameters} {index : U64} :
    continues p true index = true ↔ p.iterations = runIndefinitely ∨ index.val < p.iterations.val := by
  simp only [continues, Bool.true_and, Bool.or_eq_true, beq_iff_eq, decide_eq_true_eq, Fin.lt_def]

/-- `recordTime`: neither the first nor the last iteration. -/
def recordTime (p : TestParameters) (index : U64) : Bool :=
  index != 0 && index != p.iterations - 1

/-- The `AddObservation(current - previous, index)` calls after an iteration. -/
def observe (p : TestParameters) (index previous current : U64) (observations : List (U64 × U64)) :
    List (U64 × U64) :=
  if recordTime p index then observations ++ [(current - previous, index)] else observations

/-- `while (current > ToEpoch(next)) AddNanoToTimespec(&next, sendSleep)`, for
at most `fuel` passes; `none` when they run out. -/
def catchUp (sendSleep current : U64) : Nat → Timespec → Option Timespec
  | 0, _ => none
  | fuel + 1, next =>
    if current > toEpoch next then catchUp sendSleep current fuel (addNanoToTimespec next sendSleep)
    else some next

/-- Passes after which the catch-up loop runs forever: whether it goes on and
where it goes next depend on `ToEpoch(next)` alone, which has `2^64` values, so
a run of one pass more repeats one of them. -/
def catchUpFuel : Nat := 2 ^ 64 + 1

/-- One tick of the sender: `testRunning` and the clock reading. -/
structure Tick where
  running : Bool
  current : U64

/-- What `SenderThread` keeps, and what it has done. -/
structure SenderState where
  index : U64
  next : Timespec
  previous : U64
  observations : List (U64 × U64)
  deadlines : List Timespec

/-- The sender before its loop, with the clock `t0` read into `next`. -/
def SenderState.start (t0 : Timespec) : SenderState := ⟨0, t0, 0, [], []⟩

/-- One iteration of the sender after reading `current`; `none` when the
catch-up does not end. -/
def senderIteration (p : TestParameters) (st : SenderState) (current : U64) : Option SenderState :=
  (catchUp p.sendSleep current catchUpFuel (addNanoToTimespec st.next p.sendSleep)).map fun next =>
    ⟨st.index + 1, next, current, observe p st.index st.previous current st.observations,
      st.deadlines ++ [next]⟩

/-- The loop of `SenderThread`. -/
def senderLoop (p : TestParameters) : List Tick → SenderState → Option SenderState
  | [], st => some st
  | tick :: ticks, st =>
    if continues p tick.running st.index then
      (senderIteration p st tick.current).bind (senderLoop p ticks)
    else some st

/-- `SenderThread`, from the clock `t0` read before its loop. -/
def senderThread (p : TestParameters) (t0 : Timespec) (ticks : List Tick) : Option SenderState :=
  senderLoop p ticks (SenderState.start t0)

/-- One tick of the receiver: `testRunning`, what `Receive()` returned, and the
clock reading. -/
structure ReceiverTick where
  running : Bool
  received : Bool
  current : U64

/-- What `ReceiverThread` keeps, and its observations. -/
structure ReceiverState where
  index : U64
  previous : U64
  observations : List (U64 × U64)

/-- The loop of `ReceiverThread`: a failed receive clears `testRunning` and
leaves the loop. -/
def receiverLoop (p : TestParameters) : List ReceiverTick → ReceiverState → ReceiverState
  | [], st => st
  | tick :: ticks, st =>
    if continues p tick.running st.index then
      if !tick.received then st
      else
        receiverLoop p ticks
          ⟨st.index + 1, tick.current, observe p st.index st.previous tick.current st.observations⟩
    else st

/-- `ReceiverThread`. -/
def receiverThread (p : TestParameters) (ticks : List ReceiverTick) : ReceiverState :=
  receiverLoop p ticks ⟨0, 0, []⟩

/-! ## The grid -/

/-- `m` is the least grid index after `mPrev` whose point `t0 + m * s` is not
before the reading `c`. -/
def GridLeast (t0 s mPrev c m : Nat) : Prop :=
  IsLeast {m' | mPrev < m' ∧ c ≤ t0 + m' * s} m

/-- `ms` are the grid indices of the deadlines after the readings `cs`, each
the least after the one before, from `mPrev` on. -/
def IsGridSchedule (t0 s : Nat) : Nat → List Nat → List Nat → Prop
  | _, [], [] => True
  | mPrev, c :: cs, m :: ms => GridLeast t0 s mPrev c m ∧ IsGridSchedule t0 s m cs ms
  | _, _, _ => False

/-- The least grid index after `mPrev` not before `c`, computed. -/
def nextGridIndex (t0 s mPrev c : Nat) : Nat := max (mPrev + 1) ((c - t0 + s - 1) / s)

/-- The grid indices after the readings `cs`, computed. -/
def gridIndices (t0 s : Nat) : Nat → List Nat → List Nat
  | _, [] => []
  | mPrev, c :: cs => nextGridIndex t0 s mPrev c :: gridIndices t0 s (nextGridIndex t0 s mPrev c) cs

theorem gridLeast_nextGridIndex (t0 : Nat) {s : Nat} (mPrev c : Nat) (hs : 0 < s) :
    GridLeast t0 s mPrev c (nextGridIndex t0 s mPrev c) := by
  have hceil : c - t0 ≤ (c - t0 + s - 1) / s * s := by
    have h := (Nat.div_lt_iff_lt_mul hs).mp (Nat.lt_succ_self ((c - t0 + s - 1) / s))
    rw [Nat.succ_mul] at h
    omega
  refine ⟨⟨by simp [nextGridIndex], ?_⟩, fun m ⟨hm, hc⟩ => max_le hm ?_⟩
  · have : (c - t0 + s - 1) / s * s ≤ nextGridIndex t0 s mPrev c * s :=
      Nat.mul_le_mul_right _ (le_max_right _ _)
    omega
  · rw [← Nat.lt_succ_iff, Nat.div_lt_iff_lt_mul hs, Nat.succ_mul]
    omega

theorem GridLeast.unique {t0 s mPrev c m m' : Nat} (h : GridLeast t0 s mPrev c m)
    (h' : GridLeast t0 s mPrev c m') : m = m' :=
  IsLeast.unique h h'

/-- With a positive period the grid indices exist and are the computed ones. -/
theorem isGridSchedule_iff {t0 s : Nat} (hs : 0 < s) :
    ∀ (mPrev : Nat) (cs ms : List Nat), IsGridSchedule t0 s mPrev cs ms ↔ ms = gridIndices t0 s mPrev cs
  | _, [], [] => by simp [IsGridSchedule, gridIndices]
  | _, [], _ :: _ => by simp [IsGridSchedule, gridIndices]
  | _, _ :: _, [] => by simp [IsGridSchedule, gridIndices]
  | mPrev, c :: cs, m :: ms => by
    have hnext := gridLeast_nextGridIndex t0 mPrev c hs
    simp only [IsGridSchedule, gridIndices, List.cons.injEq]
    constructor
    · rintro ⟨hm, hms⟩
      obtain rfl := hm.unique hnext
      exact ⟨rfl, (isGridSchedule_iff hs _ cs ms).mp hms⟩
    · rintro ⟨rfl, rfl⟩
      exact ⟨hnext, (isGridSchedule_iff hs _ cs _).mpr rfl⟩

/-! ## Time arithmetic -/

theorem toEpoch_deadline {v : Nat} (hv : v < 2 ^ 64) : (toEpoch (deadline v)).val = v := by
  show ((v / nanoPerSec * nanoPerSec + v % nanoPerSec : Nat) : U64).val = v
  rw [Nat.div_add_mod', Fin.val_natCast, Nat.mod_eq_of_lt hv]

theorem addNanoToTimespec_eq (t : Timespec) (s : U64) :
    addNanoToTimespec t s = deadline (toEpoch t + s).val := rfl

theorem addNanoToTimespec_deadline {v : Nat} (s : U64) (hv : v + s.val < 2 ^ 64) :
    addNanoToTimespec (deadline v) s = deadline (v + s.val) := by
  have hval : (toEpoch (deadline v) + s).val = v + s.val := by
    rw [Fin.val_add, toEpoch_deadline (by omega), Nat.mod_eq_of_lt hv]
  rw [addNanoToTimespec_eq, hval]

theorem U64.val_add_one {a : U64} (h : a.val + 1 < 2 ^ 64) : (a + 1).val = a.val + 1 := by
  rw [Fin.val_add, Fin.val_one', Nat.mod_eq_of_lt (by decide : 1 < 2 ^ 64), Nat.mod_eq_of_lt h]

/-! ## The catch-up loop -/

theorem catchUp_of_le {s current : U64} {next : Timespec} (fuel : Nat)
    (h : current.val ≤ (toEpoch next).val) : catchUp s current (fuel + 1) next = some next := by
  simp [catchUp, Fin.lt_def, Nat.not_lt.mpr h]

theorem catchUp_of_lt {s current : U64} {next : Timespec} (fuel : Nat)
    (h : (toEpoch next).val < current.val) :
    catchUp s current (fuel + 1) next = catchUp s current fuel (addNanoToTimespec next s) := by
  simp [catchUp, Fin.lt_def, h]

/-- From a grid point at or before the least one `M` not before the reading,
the catch-up loop stops at `M`, given a pass for each grid point between. -/
theorem catchUp_grid {s c : U64} {t0 mPrev M : Nat} (hM : GridLeast t0 s.val mPrev c.val M)
    (hwrap : t0 + M * s.val < 2 ^ 64) :
    ∀ fuel m, mPrev < m → m ≤ M → M - m < fuel →
      catchUp s c fuel (deadline (t0 + m * s.val)) = some (deadline (t0 + M * s.val))
  | 0, _, _, _, hfuel => absurd hfuel (Nat.not_lt_zero _)
  | fuel + 1, m, hm, hmM, hfuel => by
    have hle : m * s.val ≤ M * s.val := Nat.mul_le_mul_right _ hmM
    by_cases hc : c.val ≤ t0 + m * s.val
    · obtain rfl : M = m := le_antisymm (hM.2 ⟨hm, hc⟩) hmM
      exact catchUp_of_le fuel (by rw [toEpoch_deadline (by omega)]; exact hc)
    · have hlt : m < M := lt_of_le_of_ne hmM fun e => hc (e ▸ hM.1.2)
      have hnext : t0 + m * s.val + s.val = t0 + (m + 1) * s.val := by rw [Nat.succ_mul, Nat.add_assoc]
      have hle' : (m + 1) * s.val ≤ M * s.val := Nat.mul_le_mul_right _ hlt
      rw [catchUp_of_lt fuel (by rw [toEpoch_deadline (by omega)]; omega),
        addNanoToTimespec_deadline s (by omega), hnext]
      exact catchUp_grid hM hwrap fuel (m + 1) (by omega) hlt (by omega)

/-- With a zero period `next` never moves, and a reading after it keeps the
catch-up loop going forever. -/
theorem catchUp_zero {current : U64} :
    ∀ (fuel : Nat) (next : Timespec), (toEpoch next).val < current.val → catchUp 0 current fuel next = none
  | 0, _, _ => rfl
  | fuel + 1, next, h => by
    have hsame : (toEpoch (addNanoToTimespec next 0)).val = (toEpoch next).val := by
      simp only [addNanoToTimespec, add_zero]
      exact toEpoch_deadline (toEpoch next).isLt
    rw [catchUp_of_lt fuel h]
    exact catchUp_zero fuel _ (by rw [hsame]; exact h)

/-! ## The sender's deadlines -/

/-- A run of the sender's loop on readings whose deadlines do not wrap: the
loop goes through every reading, and the deadlines are the grid points of the
schedule. -/
theorem senderLoop_deadlines (p : TestParameters) (t0 : Nat) (hs : 0 < p.sendSleep.val) :
    ∀ (cs : List U64) (st : SenderState) (mPrev : Nat) (ms : List Nat),
      (p.iterations = runIndefinitely ∨ st.index.val + cs.length ≤ p.iterations.val) →
      IsGridSchedule t0 p.sendSleep.val mPrev (cs.map Fin.val) ms →
      (∀ m ∈ ms, t0 + m * p.sendSleep.val < 2 ^ 64) →
      (toEpoch st.next).val = t0 + mPrev * p.sendSleep.val →
      ∃ st', senderLoop p (cs.map (Tick.mk true)) st = some st' ∧
        st'.deadlines = st.deadlines ++ ms.map fun m => deadline (t0 + m * p.sendSleep.val)
  | [], st, _, [], _, _, _, _ => ⟨st, rfl, by simp⟩
  | [], _, _, _ :: _, _, hsched, _, _ => hsched.elim
  | _ :: _, _, _, [], _, hsched, _, _ => hsched.elim
  | c :: cs, st, mPrev, m :: ms, hiter, ⟨hm, hsched⟩, hwrap, hnext => by
    have hmwrap := hwrap m (List.mem_cons_self _ _)
    have hm1 : (mPrev + 1) * p.sendSleep.val ≤ m * p.sendSleep.val := Nat.mul_le_mul_right _ hm.1.1
    have hmlt : m < 2 ^ 64 := by
      have : m ≤ m * p.sendSleep.val := Nat.le_mul_of_pos_right m hs
      omega
    have hstep : addNanoToTimespec st.next p.sendSleep = deadline (t0 + (mPrev + 1) * p.sendSleep.val) := by
      rw [Nat.succ_mul, ← Nat.add_assoc, ← hnext]
      have hval : (toEpoch st.next + p.sendSleep).val = (toEpoch st.next).val + p.sendSleep.val := by
        rw [Fin.val_add, Nat.mod_eq_of_lt (by rw [hnext]; rw [Nat.succ_mul] at hm1; omega)]
      simp only [addNanoToTimespec, hval, deadline]
    have hcatch := catchUp_grid hm hmwrap catchUpFuel (mPrev + 1) (Nat.lt_succ_self _) hm.1.1
      (by simp only [catchUpFuel]; omega)
    have hcont : continues p true st.index = true :=
      continues_true.mpr (hiter.imp id fun h => by simp only [List.length_cons] at h; omega)
    have hiter' : p.iterations = runIndefinitely ∨ (st.index + 1).val + cs.length ≤ p.iterations.val := by
      rcases hiter with h | h
      · exact .inl h
      · simp only [List.length_cons] at h
        exact .inr (by rw [U64.val_add_one (by omega)]; omega)
    obtain ⟨st', hloop, hdead⟩ := senderLoop_deadlines p t0 hs cs
      ⟨st.index + 1, deadline (t0 + m * p.sendSleep.val), c, observe p st.index st.previous c st.observations,
        st.deadlines ++ [deadline (t0 + m * p.sendSleep.val)]⟩ m ms hiter' hsched
      (fun m' hm' => hwrap m' (List.mem_cons_of_mem _ hm')) (toEpoch_deadline hmwrap)
    refine ⟨st', ?_, ?_⟩
    · simp only [List.map_cons, senderLoop, hcont, if_true, senderIteration, hstep, hcatch,
        Option.map_some', Option.some_bind]
      exact hloop
    · simp [hdead]

/-! ## Observations -/

/-- The readings of a run in which `testRunning` stays set and every receive succeeds. -/
def ReceiverTick.ofReading (c : U64) : ReceiverTick := ⟨true, true, c⟩

/-- The receiver's tick with the sender's reading, the receive succeeding. -/
def Tick.received (t : Tick) : ReceiverTick := ⟨t.running, true, t.current⟩

/-- Where the sender's loop ends, it has recorded what the receiver's loop
records on the same readings. -/
theorem senderLoop_observations (p : TestParameters) :
    ∀ (ticks : List Tick) (st st' : SenderState), senderLoop p ticks st = some st' →
      st'.observations =
        (receiverLoop p (ticks.map Tick.received) ⟨st.index, st.previous, st.observations⟩).observations
  | [], st, st', h => by cases h; rfl
  | tick :: ticks, st, st', h => by
    simp only [senderLoop] at h
    split at h
    · obtain ⟨st₁, hit, hloop⟩ := Option.bind_eq_some.mp h
      obtain ⟨next, -, rfl⟩ := Option.map_eq_some'.mp hit
      simp only [List.map_cons, receiverLoop, Tick.received, *, if_true, Bool.not_true]
      exact senderLoop_observations p ticks _ st' hloop
    · cases h
      simp [List.map_cons, receiverLoop, Tick.received, *]

/-- The observation of iteration `i` of a run of `N = p.iterations` iterations
on `readings`, if the iteration is recorded. -/
def recorded (p : TestParameters) (readings : List U64) (i : Nat) : Option (U64 × U64) :=
  if recordTime p i then some (readings.getD i 0 - readings.getD (i - 1) 0, (i : U64)) else none

/-- The receiver's loop from iteration `k` on, with the reading of iteration
`k - 1` as the previous one. -/
theorem receiverLoop_drop (p : TestParameters) (readings : List U64) (hN : p.iterations ≠ runIndefinitely)
    (hlen : readings.length = p.iterations.val) :
    ∀ (n k : Nat) (prev : U64) (obs : List (U64 × U64)), k + n = p.iterations.val →
      (k = 0 ∨ prev = readings.getD (k - 1) 0) →
      (receiverLoop p ((readings.drop k).map ReceiverTick.ofReading) ⟨k, prev, obs⟩).observations =
        obs ++ (List.range' k n).filterMap (recorded p readings)
  | 0, k, _, obs, hk, _ => by
    simp [List.drop_eq_nil_of_le (show readings.length ≤ k by omega), receiverLoop]
  | n + 1, k, prev, obs, hk, hprev => by
    have hkN : k < readings.length := by omega
    have hNmax : p.iterations.val < 2 ^ 64 - 1 := by
      have := p.iterations.isLt
      have : p.iterations.val ≠ 2 ^ 64 - 1 := fun e => hN (Fin.ext e)
      omega
    have hcont : continues p true (k : U64) = true :=
      continues_true.mpr (.inr (by rw [Fin.val_natCast, Nat.mod_eq_of_lt (by omega)]; omega))
    have hobs : observe p (k : U64) prev (readings.getD k 0) obs =
        obs ++ (recorded p readings k).toList := by
      unfold observe recorded
      by_cases hr : recordTime p (k : U64)
      · rcases hprev with rfl | rfl
        · simp [recordTime] at hr
        · simp [hr, List.getElem?_eq_getElem hkN]
      · simp [hr]
    rw [List.drop_eq_getElem_cons hkN, List.map_cons]
    simp only [receiverLoop, ReceiverTick.ofReading, hcont, if_true, Bool.not_true, Bool.false_eq_true,
      if_false]
    rw [show readings[k] = readings.getD k 0 by simp [List.getElem?_eq_getElem hkN], hobs, ← Nat.cast_succ,
      receiverLoop_drop p readings hN hlen n (k + 1) _ _ (by omega) (.inr (by simp)),
      List.range'_succ, List.filterMap_cons]
    cases recorded p readings k <;> simp

/-- The observations the spec asks of a run of `N` iterations: one for each
index `1, …, N-2`, with the difference of that iteration's reading and the one
before. -/
def intervalObservations (N : Nat) (readings : List U64) : List (U64 × U64) :=
  (List.range' 1 (N - 2)).map fun i => (readings.getD i 0 - readings.getD (i - 1) 0, (i : U64))

theorem filterMap_recorded (p : TestParameters) (readings : List U64) (hN : p.iterations.val < 2 ^ 64 - 1) :
    (List.range' 0 p.iterations.val).filterMap (recorded p readings) =
      intervalObservations p.iterations.val readings := by
  have hrec : ∀ i < p.iterations.val, recordTime p i = true ↔ i ≠ 0 ∧ i ≠ p.iterations.val - 1 := by
    intro i hi
    have hlast : (p.iterations - 1).val = p.iterations.val - 1 :=
      Fin.sub_val_of_le (by simp [Fin.le_def]; omega) |>.trans (by simp)
    simp only [recordTime, Bool.and_eq_true, bne_iff_ne, ne_eq, Fin.ext_iff, hlast, Fin.val_natCast,
      Nat.mod_eq_of_lt (show i < 2 ^ 64 by omega), Fin.val_zero]
  unfold intervalObservations
  match h : p.iterations.val with
  | 0 => rfl
  | 1 => simp [recorded, recordTime]
  | n + 2 =>
    have h0 : recorded p readings 0 = none := by simp [recorded, recordTime]
    have hlast : recorded p readings (1 + n) = none := by
      unfold recorded
      rw [if_neg ((hrec (1 + n) (by omega)).not.mpr (by omega))]
    have hmid : (List.range' 1 n).filterMap (recorded p readings) =
        (List.range' 1 n).map fun i => (readings.getD i 0 - readings.getD (i - 1) 0, (i : U64)) := by
      rw [← List.filterMap_eq_map]
      refine List.filterMap_congr fun i hi => ?_
      rw [List.mem_range'_1] at hi
      unfold recorded
      rw [if_pos ((hrec i (by omega)).mpr ⟨by omega, by omega⟩)]
      rfl
    rw [List.range'_succ, List.range'_concat, List.filterMap_cons, h0, List.filterMap_append, hmid]
    simp [hlast]

theorem receiverThread_observations (p : TestParameters) (readings : List U64)
    (hN : p.iterations ≠ runIndefinitely) (hlen : readings.length = p.iterations.val) :
    (receiverThread p (readings.map ReceiverTick.ofReading)).observations =
      intervalObservations p.iterations.val readings := by
  have hNmax : p.iterations.val < 2 ^ 64 - 1 := by
    have := p.iterations.isLt
    have : p.iterations.val ≠ 2 ^ 64 - 1 := fun e => hN (Fin.ext e)
    omega
  have h := receiverLoop_drop p readings hN hlen p.iterations.val 0 0 [] (by simp) (.inl rfl)
  simp only [List.drop_zero, Nat.cast_zero, List.nil_append] at h
  rw [receiverThread, h, filterMap_recorded p readings hNmax]

/-! ## Runs of the threads -/

/-- With a positive period, over clock readings whose deadlines stay below
`2^64`, every iteration of the sender ends and sleeps to the normalized time
`t0 + m_k * SendSleep`, where `m_k` is the least grid index after `m_{k-1}`
(from `m_{-1} = 0`) that is not before the reading `c_k`. -/
theorem senderThread_deadlines (p : TestParameters) (t0 : Timespec) (readings : List U64)
    (hs : 0 < p.sendSleep.val)
    (hiter : p.iterations = runIndefinitely ∨ readings.length ≤ p.iterations.val)
    (hwrap : ∀ ms, IsGridSchedule (toEpoch t0).val p.sendSleep.val 0 (readings.map Fin.val) ms →
      ∀ m ∈ ms, (toEpoch t0).val + m * p.sendSleep.val < 2 ^ 64) :
    ∃ st ms, senderThread p t0 (readings.map (Tick.mk true)) = some st ∧
      IsGridSchedule (toEpoch t0).val p.sendSleep.val 0 (readings.map Fin.val) ms ∧
      st.deadlines = ms.map fun m => deadline ((toEpoch t0).val + m * p.sendSleep.val) := by
  have hsched : IsGridSchedule (toEpoch t0).val p.sendSleep.val 0 (readings.map Fin.val)
      (gridIndices (toEpoch t0).val p.sendSleep.val 0 (readings.map Fin.val)) :=
    (isGridSchedule_iff hs 0 _ _).mpr rfl
  obtain ⟨st, hloop, hdead⟩ := senderLoop_deadlines p _ hs readings (SenderState.start t0) 0 _
    (by simpa [SenderState.start, List.length_map] using hiter) hsched (hwrap _ hsched)
    (by simp [SenderState.start])
  exact ⟨st, _, hloop, hsched, by simpa [SenderState.start] using hdead⟩

/-- A late wake with a period of one microsecond, across a second boundary. -/
theorem senderThread_deadlines_late_wake :
    let p : TestParameters := ⟨"NoNicSelected", runIndefinitely, 1000, 42, 45, 3, 3, false, 125⟩
    let t0 : Timespec := ⟨5, 999999500⟩
    let readings : List U64 := [5999999900, 6000004200, 6000004300]
    0 < p.sendSleep.val ∧ (p.iterations = runIndefinitely ∨ readings.length ≤ p.iterations.val) ∧
      (∀ ms, IsGridSchedule (toEpoch t0).val p.sendSleep.val 0 (readings.map Fin.val) ms →
        ∀ m ∈ ms, (toEpoch t0).val + m * p.sendSleep.val < 2 ^ 64) ∧
      ∃ st ms, senderThread p t0 (readings.map (Tick.mk true)) = some st ∧
        IsGridSchedule (toEpoch t0).val p.sendSleep.val 0 (readings.map Fin.val) ms ∧
        st.deadlines = ms.map fun m => deadline ((toEpoch t0).val + m * p.sendSleep.val) :=
  by
    intro p t0 readings
    have hs : 0 < p.sendSleep.val := by decide
    have hwrap : ∀ ms, IsGridSchedule (toEpoch t0).val p.sendSleep.val 0 (readings.map Fin.val) ms →
        ∀ m ∈ ms, (toEpoch t0).val + m * p.sendSleep.val < 2 ^ 64 := fun ms h => by
      rw [isGridSchedule_iff hs] at h
      subst h
      decide
    exact ⟨hs, .inl rfl, hwrap, senderThread_deadlines p t0 readings hs (.inl rfl) hwrap⟩

/-- Over a run of `N ≠ RunIndefinitely` iterations in which `testRunning`
stays set, the receiver, every receive succeeding, records one interval for
each index `1, …, N-2`.  The sender records the same when its period is
positive and its deadlines stay below `2^64`, so that each catch-up ends. -/
theorem threads_record_interior (p : TestParameters) (readings : List U64)
    (hN : p.iterations ≠ runIndefinitely) (hlen : readings.length = p.iterations.val) :
    (receiverThread p (readings.map ReceiverTick.ofReading)).observations =
        intervalObservations p.iterations.val readings ∧
      ∀ t0 : Timespec, 0 < p.sendSleep.val →
        (∀ ms, IsGridSchedule (toEpoch t0).val p.sendSleep.val 0 (readings.map Fin.val) ms →
          ∀ m ∈ ms, (toEpoch t0).val + m * p.sendSleep.val < 2 ^ 64) →
        ∃ st, senderThread p t0 (readings.map (Tick.mk true)) = some st ∧
          st.observations = intervalObservations p.iterations.val readings := by
  refine ⟨receiverThread_observations p readings hN hlen, fun t0 hs hwrap => ?_⟩
  have hsched : IsGridSchedule (toEpoch t0).val p.sendSleep.val 0 (readings.map Fin.val)
      (gridIndices (toEpoch t0).val p.sendSleep.val 0 (readings.map Fin.val)) :=
    (isGridSchedule_iff hs 0 _ _).mpr rfl
  obtain ⟨st, hloop, -⟩ := senderLoop_deadlines p _ hs readings (SenderState.start t0) 0 _
    (.inr (by simp [SenderState.start, hlen])) hsched (hwrap _ hsched) (by simp [SenderState.start])
  refine ⟨st, hloop, ?_⟩
  have hticks : (readings.map (Tick.mk true)).map Tick.received = readings.map ReceiverTick.ofReading := by
    simp [Function.comp_def, Tick.received, ReceiverTick.ofReading]
  rw [senderLoop_observations p _ _ st hloop, hticks]
  exact receiverThread_observations p readings hN hlen

/-- A run of four iterations: both threads record the intervals of iterations
1 and 2. -/
theorem threads_record_interior_four :
    let p : TestParameters := ⟨"eth0", 4, 1000, 42, 45, 3, 3, false, 125⟩
    let readings : List U64 := [10, 20, 35, 50]
    p.iterations ≠ runIndefinitely ∧ readings.length = p.iterations.val ∧
      ((receiverThread p (readings.map ReceiverTick.ofReading)).observations =
          intervalObservations p.iterations.val readings ∧
        ∀ t0 : Timespec, 0 < p.sendSleep.val →
          (∀ ms, IsGridSchedule (toEpoch t0).val p.sendSleep.val 0 (readings.map Fin.val) ms →
            ∀ m ∈ ms, (toEpoch t0).val + m * p.sendSleep.val < 2 ^ 64) →
          ∃ st, senderThread p t0 (readings.map (Tick.mk true)) = some st ∧
            st.observations = intervalObservations p.iterations.val readings) :=
  have hN : (4 : U64) ≠ runIndefinitely := by decide
  have hlen : ([10, 20, 35, 50] : List U64).length = (4 : U64).val := rfl
  ⟨hN, hlen, threads_record_interior ⟨"eth0", 4, 1000, 42, 45, 3, 3, false, 125⟩ _ hN hlen⟩

/-- With `SendSleep = 0` the first catch-up never ends once the clock has
passed `t0`: the sender records nothing of a run of three iterations, where
the interval of iteration 1 is due. -/
theorem senderThread_zero_sleep :
    senderThread ⟨"NoNicSelected", 3, 0, 42, 45, 3, 3, false, 0⟩ ⟨0, 0⟩
        [⟨true, 1⟩, ⟨true, 2⟩, ⟨true, 3⟩] = none ∧
      intervalObservations 3 [1, 2, 3] = [(1, 1)] := by
  have hnone : catchUp 0 1 catchUpFuel (addNanoToTimespec ⟨0, 0⟩ 0) = none :=
    catchUp_zero _ _ (by decide)
  have hcont : continues ⟨"NoNicSelected", 3, 0, 42, 45, 3, 3, false, 0⟩ true 0 = true := by decide
  refine ⟨?_, by decide⟩
  simp only [senderThread, senderLoop, SenderState.start, hcont, if_true, senderIteration, hnone,
    Option.map_none', Option.none_bind]

end RmpEval
