import RmpEval.Sender

/-!
# The threads of a measurement

Once `main` has converted the parameters, it starts the measurement threads,
waits for them and prints the final report.  Two atomic flags coordinate them.
The loops of `SenderThread` and `ReceiverThread` read `testRunning` at each
iteration, and a worker that fails clears it.  `ReportThread` reads
`liveReport` before each render.

*The system.*  A `World` holds what `main` has left to do, the two flags and
the state of each thread.  A step is one action of one thread (`Action`), and
a run is any interleaving of steps from `World.init` (`Reachable`).  An
iteration of a worker is three actions: the loop condition, the call to
`Send()` or `Receive()`, and the rest.  The rest reads the clock, records and,
for the sender, sleeps, as `senderIteration` and `receiverLoop` compute it.
A sender whose catch-up loop never ends (`senderIteration` is `none`) has no
next step.  Exceptions are caught at the thread's boundary, and the `catch`
clears `testRunning`.  The set-up, `Send()`, `Receive()` and the recording may
throw, since their code is not in the repository.  In the cyclic mode the
tester is `nullptr`, so the sender's iteration calls nothing.  What the
threads record and the reporter renders is left out, as `TimerReport` and the
table are not in the repository either.

*Ghost state.*  Each worker keeps the clock readings of the iterations it has
done.  It also counts the calls to `Send()` or
`Receive()` it makes once `testRunning` is already clear.

*Results.*
* `reachable_joined`: when `main` is at its final report, every thread it
  started has ended, and in the cyclic mode no receiver ever ran.
* `reachable_flags`: `liveReport` is clear only once the workers have ended,
  and `testRunning` only once one of them has.
* `reachable_calls_after_clear`: once `testRunning` is clear, each worker
  makes at most one more call to `Send()` or `Receive()`.
* `reachable_refines`: in every interleaving, each worker's state is what its
  sequential loop computes over its readings, `testRunning` set throughout.
* `reachable_intervals`, `reachable_deadlines`: in every interleaving, a
  worker that has done all `N` iterations has recorded the intervals of
  iterations `1, …, N-2`, and the sender's deadlines are the grid points
  `IsGridSchedule` describes.
* `reachable_cyclic_threw`: in the cyclic mode with `RunIndefinitely`, `main`
  gets past the join of the sender only when the sender has thrown.
-/

namespace RmpEval

/-! ## `main` from the start of the threads -/

/-- An operation of `main` after the start of the measurement. -/
inductive MainOp where
  | startReceiver
  | startSender
  | startReporter
  | joinReceiver
  | joinSender
  | joinReporter
  | clearTestRunning
  | clearLiveReport
  | printReport
deriving DecidableEq, Repr

/-- What `main` does from the start of the threads.  With a NIC it starts the
receiver, the sender and the reporter, joins the receiver, clears
`testRunning` and joins the sender.  In the cyclic mode it starts the sender
and the reporter, joins the sender and clears `testRunning`.  Then it clears
`liveReport`, joins the reporter and prints the report. -/
def mainProgram : Bool → List MainOp
  | true => [.startReceiver, .startSender, .startReporter, .joinReceiver, .clearTestRunning,
      .joinSender, .clearLiveReport, .joinReporter, .printReport]
  | false => [.startSender, .startReporter, .joinSender, .clearTestRunning, .clearLiveReport,
      .joinReporter, .printReport]

/-! ## The threads -/

/-- Where a worker is. -/
inductive LoopPc where
  /-- Its `std::thread` is not constructed yet. -/
  | unstarted
  /-- In `ConfigureThisThread` and the set-up before the loop. -/
  | configuring
  /-- At the loop condition. -/
  | checking
  /-- Before `Send()` or `Receive()`. -/
  | working
  /-- After it: the clock, the observation, the sleep and `++index`. -/
  | timing
  /-- Out of the loop. -/
  | finished
  /-- Out through the `catch`, which cleared `testRunning`. -/
  | threw
deriving DecidableEq, Repr

/-- A worker whose `join` returns. -/
def LoopPc.ended : LoopPc → Bool
  | .finished | .threw => true
  | _ => false

theorem LoopPc.ended_iff {pc : LoopPc} : pc.ended = true ↔ pc = .finished ∨ pc = .threw := by
  cases pc <;> simp [LoopPc.ended]

/-- Where `ReportThread` is. -/
inductive ReporterPc where
  | unstarted
  /-- At `while (liveReport.load())`. -/
  | checking
  /-- Rendering under the lock, then sleeping. -/
  | printing
  | finished
deriving DecidableEq, Repr

/-- `SenderThread`. -/
structure SenderLocal where
  pc : LoopPc
  /-- The clock read into `next` before the loop. -/
  start : Timespec
  state : SenderState
  /-- Ghost: the clock readings of the iterations done. -/
  readings : List U64
  /-- Ghost: the calls to `Send()` made with `testRunning` clear. -/
  callsAfterClear : Nat

/-- `ReceiverThread`. -/
structure ReceiverLocal where
  pc : LoopPc
  state : ReceiverState
  /-- Ghost: the clock readings of the iterations done. -/
  readings : List U64
  /-- Ghost: the calls to `Receive()` made with `testRunning` clear. -/
  callsAfterClear : Nat

/-- The measurement: `main`'s remaining operations, `testRunning`,
`liveReport` and the threads. -/
structure World where
  main : List MainOp
  testRunning : Bool
  liveReport : Bool
  sender : SenderLocal
  receiver : ReceiverLocal
  reporter : ReporterPc

/-- The measurement as `main` starts it: both flags set, no thread running. -/
def World.init (withReceiver : Bool) : World :=
  ⟨mainProgram withReceiver, true, true, ⟨.unstarted, ⟨0, 0⟩, .start ⟨0, 0⟩, [], 0⟩,
    ⟨.unstarted, ⟨0, 0, []⟩, [], 0⟩, .unstarted⟩

/-- An action of a worker. -/
inductive WorkerAction where
  /-- The set-up returns; the sender reads the clock `t0` into `next`. -/
  | configured (t0 : Timespec)
  /-- An exception reaches the `catch`. -/
  | throws
  /-- The loop condition. -/
  | check
  /-- `Send()` returns, or `Receive()` returns `received`. -/
  | call (received : Bool)
  /-- The rest of the iteration, with the clock reading `current`. -/
  | time (current : U64)

/-- An action of the measurement. -/
inductive Action where
  | main
  | sender (a : WorkerAction)
  | receiver (a : WorkerAction)
  | reporter

/-- Where a worker may throw: in the set-up, the call, and the recording. -/
def LoopPc.mayThrow (pc : LoopPc) : Bool :=
  pc == .configuring || pc == .working || pc == .timing

theorem LoopPc.mayThrow_started {pc : LoopPc} (h : pc.mayThrow) :
    pc ≠ .unstarted ∧ pc.ended = false := by
  cases pc <;> simp_all [LoopPc.mayThrow, LoopPc.ended]

/-- The loop condition: go on to the call, or leave the loop. -/
def checkPc (p : TestParameters) (running : Bool) (index : U64) : LoopPc :=
  if continues p running index then .working else .finished

/-- One action of `SenderThread`, given `testRunning`: the sender after it and
`testRunning` after it.  Without a tester the iteration calls nothing. -/
def senderStep (p : TestParameters) (withTester running : Bool) (s : SenderLocal) :
    WorkerAction → Option (SenderLocal × Bool)
  | .configured t0 =>
    if s.pc = .configuring then some ({ s with pc := .checking, start := t0, state := .start t0 }, running)
    else none
  | .throws => if s.pc.mayThrow then some ({ s with pc := .threw }, false) else none
  | .check => if s.pc = .checking then some ({ s with pc := checkPc p running s.state.index }, running) else none
  | .call _ =>
    if s.pc = .working then
      some ({ s with
        pc := .timing
        callsAfterClear := if withTester && !running then s.callsAfterClear + 1 else s.callsAfterClear },
        running)
    else none
  | .time current =>
    if s.pc = .timing then
      (senderIteration p s.state current).map fun st =>
        ({ s with pc := .checking, state := st, readings := s.readings ++ [current] }, running)
    else none

/-- One action of `ReceiverThread`: a failed receive clears `testRunning` and
leaves the loop. -/
def receiverStep (p : TestParameters) (running : Bool) (r : ReceiverLocal) :
    WorkerAction → Option (ReceiverLocal × Bool)
  | .configured _ => if r.pc = .configuring then some ({ r with pc := .checking }, running) else none
  | .throws => if r.pc.mayThrow then some ({ r with pc := .threw }, false) else none
  | .check => if r.pc = .checking then some ({ r with pc := checkPc p running r.state.index }, running) else none
  | .call received =>
    if r.pc = .working then
      let calls := if running then r.callsAfterClear else r.callsAfterClear + 1
      some (if received then ({ r with pc := .timing, callsAfterClear := calls }, running)
        else ({ r with pc := .finished, callsAfterClear := calls }, false))
    else none
  | .time current =>
    if r.pc = .timing then
      some ({ r with
        pc := .checking
        state := ⟨r.state.index + 1, current,
          observe p r.state.index r.state.previous current r.state.observations⟩
        readings := r.readings ++ [current] }, running)
    else none

/-- One action of `ReportThread`, given `liveReport`. -/
def reporterStep (live : Bool) : ReporterPc → Option ReporterPc
  | .checking => some (if live then .printing else .finished)
  | .printing => some .checking
  | _ => none

/-- What one operation of `main` does; a `join` waits for its thread to end. -/
def runOp (w : World) : MainOp → Option World
  | .startReceiver => some { w with receiver := { w.receiver with pc := .configuring } }
  | .startSender => some { w with sender := { w.sender with pc := .configuring } }
  | .startReporter => some { w with reporter := .checking }
  | .joinReceiver => if w.receiver.pc.ended then some w else none
  | .joinSender => if w.sender.pc.ended then some w else none
  | .joinReporter => if w.reporter = .finished then some w else none
  | .clearTestRunning => some { w with testRunning := false }
  | .clearLiveReport => some { w with liveReport := false }
  | .printReport => some w

/-- `main`'s next operation. -/
def mainStep (w : World) : Option World :=
  match w.main with
  | [] => none
  | op :: rest => runOp { w with main := rest } op

/-- One step of the measurement.  `withReceiver` is the mode `main` chose: a
NIC and its tester, or the cyclic mode. -/
def World.step (p : TestParameters) (withReceiver : Bool) (w : World) : Action → Option World
  | .main => mainStep w
  | .sender a =>
    (senderStep p withReceiver w.testRunning w.sender a).map fun (s, running) =>
      { w with sender := s, testRunning := running }
  | .receiver a =>
    (receiverStep p w.testRunning w.receiver a).map fun (r, running) =>
      { w with receiver := r, testRunning := running }
  | .reporter => (reporterStep w.liveReport w.reporter).map fun r => { w with reporter := r }

/-- The worlds some interleaving reaches. -/
inductive Reachable (p : TestParameters) (withReceiver : Bool) : World → Prop where
  | init : Reachable p withReceiver (World.init withReceiver)
  | step {w w' : World} (a : Action) :
      Reachable p withReceiver w → w.step p withReceiver a = some w' → Reachable p withReceiver w'

/-! ## One worker -/

section Workers

variable {p : TestParameters}

theorem checkPc_cases (p : TestParameters) (running : Bool) (index : U64) :
    checkPc p running index = .working ∨ checkPc p running index = .finished := by
  unfold checkPc; split <;> simp

theorem checkPc_eq_working {running : Bool} {index : U64} (h : checkPc p running index = .working) :
    running = true ∧ continues p true index = true := by
  unfold checkPc at h
  split at h
  · rename_i hc
    cases running
    · simp [continues] at hc
    · exact ⟨rfl, hc⟩
  · cases h

theorem senderLoop_tick {st : SenderState} (current : U64) (rest : List Tick)
    (h : continues p true st.index = true) :
    senderLoop p (Tick.mk true current :: rest) st = (senderIteration p st current).bind (senderLoop p rest) := by
  simp [senderLoop, h]

theorem senderIteration_index {st st' : SenderState} {current : U64}
    (h : senderIteration p st current = some st') : st'.index = st.index + 1 := by
  obtain ⟨_, -, rfl⟩ := Option.map_eq_some'.mp h
  rfl

/-- An iteration that passed the loop condition does not wrap the index. -/
theorem index_succ_val {index : U64} (hN : p.iterations ≠ runIndefinitely)
    (h : continues p true index = true) : (index + 1).val = index.val + 1 := by
  have hlt := (continues_true.mp h).resolve_left hN
  have := p.iterations.isLt
  exact U64.val_add_one (by omega)

/-- What holds of `SenderThread` at every step: its state is the run of
`senderLoop` over its readings, an iteration under way passed the loop condition,
and it calls `Send()` at most once with `testRunning` clear. -/
structure SenderInv (p : TestParameters) (running : Bool) (s : SenderLocal) : Prop where
  fresh : s.pc = .unstarted ∨ s.pc = .configuring → s.readings = []
  refines : ∀ rest,
    senderLoop p (s.readings.map (Tick.mk true) ++ rest) (.start s.start) = senderLoop p rest s.state
  busy : s.pc = .working ∨ s.pc = .timing → continues p true s.state.index = true
  counted : p.iterations ≠ runIndefinitely →
    s.state.index.val = s.readings.length ∧ s.readings.length ≤ p.iterations.val
  calls_le : s.callsAfterClear ≤ 1
  calls_working : s.pc = .working → s.callsAfterClear = 0
  calls_running : running = true → s.callsAfterClear = 0

theorem SenderInv.clear {running : Bool} {s : SenderLocal} (hi : SenderInv p running s) :
    SenderInv p false s :=
  { hi with calls_running := fun h => nomatch h }

theorem SenderInv.step {withTester running running' : Bool} {s s' : SenderLocal} {a : WorkerAction}
    (hi : SenderInv p running s) (h : senderStep p withTester running s a = some (s', running')) :
    SenderInv p running' s' := by
  cases a with
  | configured t0 =>
    simp only [senderStep] at h
    split_ifs at h with hpc
    cases h
    have hnil := hi.fresh (.inr hpc)
    exact ⟨by simp, by simp [hnil], by simp, by simp [hnil, SenderState.start], hi.calls_le,
      by simp, hi.calls_running⟩
  | throws =>
    simp only [senderStep] at h
    split_ifs at h
    cases h
    exact ⟨by simp, hi.refines, by simp, hi.counted, hi.calls_le, by simp, fun h => nomatch h⟩
  | check =>
    simp only [senderStep] at h
    split_ifs at h with hpc
    cases h
    have hcases := checkPc_cases p running s.state.index
    refine ⟨fun hu => ?_, hi.refines, fun hw => ?_, hi.counted, hi.calls_le, fun hw => ?_,
      hi.calls_running⟩
    · rcases hcases with hc | hc <;> simp [hc] at hu
    · rcases hw with hw | hw
      · exact (checkPc_eq_working hw).2
      · rcases hcases with hc | hc <;> simp [hc] at hw
    · exact hi.calls_running (checkPc_eq_working hw).1
  | call _ =>
    simp only [senderStep] at h
    split_ifs at h with hpc hcall <;> cases h
    · have h0 := hi.calls_working hpc
      refine ⟨by simp, hi.refines, fun _ => hi.busy (.inl hpc), hi.counted, by simp [h0], by simp,
        fun hr => ?_⟩
      simp [hr] at hcall
    · exact ⟨by simp, hi.refines, fun _ => hi.busy (.inl hpc), hi.counted, hi.calls_le, by simp,
        hi.calls_running⟩
  | time current =>
    simp only [senderStep] at h
    split_ifs at h with hpc
    obtain ⟨st, hst, hs'⟩ := Option.map_eq_some'.mp h
    cases hs'
    have hbusy := hi.busy (.inr hpc)
    refine ⟨by simp, fun rest => ?_, by simp, fun hN => ?_, hi.calls_le, by simp, hi.calls_running⟩
    · rw [List.map_append, List.map_singleton, List.append_assoc, List.singleton_append, hi.refines,
        senderLoop_tick _ _ hbusy, hst, Option.some_bind]
    · have := hi.counted hN
      have hlt := (continues_true.mp hbusy).resolve_left hN
      simp only [senderIteration_index hst, index_succ_val hN hbusy, List.length_append,
        List.length_singleton]
      omega

theorem receiverLoop_tick {st : ReceiverState} (current : U64) (rest : List ReceiverTick)
    (h : continues p true st.index = true) :
    receiverLoop p (ReceiverTick.ofReading current :: rest) st =
      receiverLoop p rest ⟨st.index + 1, current, observe p st.index st.previous current st.observations⟩ := by
  simp [receiverLoop, ReceiverTick.ofReading, h]

/-- What holds of `ReceiverThread` at every step, as `SenderInv` for the sender. -/
structure ReceiverInv (p : TestParameters) (running : Bool) (r : ReceiverLocal) : Prop where
  refines : ∀ rest,
    receiverLoop p (r.readings.map ReceiverTick.ofReading ++ rest) ⟨0, 0, []⟩ = receiverLoop p rest r.state
  busy : r.pc = .working ∨ r.pc = .timing → continues p true r.state.index = true
  counted : p.iterations ≠ runIndefinitely →
    r.state.index.val = r.readings.length ∧ r.readings.length ≤ p.iterations.val
  calls_le : r.callsAfterClear ≤ 1
  calls_working : r.pc = .working → r.callsAfterClear = 0
  calls_running : running = true → r.callsAfterClear = 0

theorem ReceiverInv.clear {running : Bool} {r : ReceiverLocal} (hi : ReceiverInv p running r) :
    ReceiverInv p false r :=
  { hi with calls_running := fun h => nomatch h }

theorem ReceiverInv.step {running running' : Bool} {r r' : ReceiverLocal} {a : WorkerAction}
    (hi : ReceiverInv p running r) (h : receiverStep p running r a = some (r', running')) :
    ReceiverInv p running' r' := by
  cases a with
  | configured _ =>
    simp only [receiverStep] at h
    split_ifs at h
    cases h
    exact ⟨hi.refines, by simp, hi.counted, hi.calls_le, by simp, hi.calls_running⟩
  | throws =>
    simp only [receiverStep] at h
    split_ifs at h
    cases h
    exact ⟨hi.refines, by simp, hi.counted, hi.calls_le, by simp, fun h => nomatch h⟩
  | check =>
    simp only [receiverStep] at h
    split_ifs at h
    cases h
    have hcases := checkPc_cases p running r.state.index
    refine ⟨hi.refines, fun hw => ?_, hi.counted, hi.calls_le, fun hw => ?_, hi.calls_running⟩
    · rcases hw with hw | hw
      · exact (checkPc_eq_working hw).2
      · rcases hcases with hc | hc <;> simp [hc] at hw
    · exact hi.calls_running (checkPc_eq_working hw).1
  | call received =>
    simp only [receiverStep] at h
    split_ifs at h with hpc <;> cases h <;> have h0 := hi.calls_working hpc <;>
      exact ⟨hi.refines, fun _ => hi.busy (.inl hpc), hi.counted, by simp [h0], by simp,
        fun _ => by simp_all⟩
  | time current =>
    simp only [receiverStep] at h
    split_ifs at h with hpc
    cases h
    have hbusy := hi.busy (.inr hpc)
    refine ⟨fun rest => ?_, by simp, fun hN => ?_, hi.calls_le, by simp, hi.calls_running⟩
    · rw [List.map_append, List.map_singleton, List.append_assoc, List.singleton_append, hi.refines,
        receiverLoop_tick _ _ hbusy]
    · have := hi.counted hN
      have hlt := (continues_true.mp hbusy).resolve_left hN
      simp only [index_succ_val hN hbusy, List.length_append, List.length_singleton]
      omega

end Workers

/-! ## `main`'s order -/

/-- The order of `main`'s operations, as a property of those it has done. -/
def Ordered (b : Bool) (done : List MainOp) : Prop :=
  (.joinSender ∈ done → .startSender ∈ done) ∧
  (.joinReceiver ∈ done → .startReceiver ∈ done) ∧
  (.joinReporter ∈ done → .startReporter ∈ done) ∧
  (.clearTestRunning ∈ done → (if b then .joinReceiver else .joinSender) ∈ done) ∧
  (.clearLiveReport ∈ done → .joinSender ∈ done ∧ (b = true → .joinReceiver ∈ done)) ∧
  ((mainProgram b).length ≤ done.length + 1 →
    .joinSender ∈ done ∧ .joinReporter ∈ done ∧ (b = true → .joinReceiver ∈ done)) ∧
  (b = false → .startReceiver ∉ done)

theorem ordered_take (b : Bool) : ∀ k ≤ (mainProgram b).length, Ordered b ((mainProgram b).take k) := by
  intro k hk
  refine ⟨?_, ?_, ?_, ?_, ?_, ?_, ?_⟩ <;> revert k <;> cases b <;> decide

/-- What `main` has done is a prefix of its program: it comes in order, and
the next operation is not among it. -/
theorem ordered_of_append {b : Bool} {done rest : List MainOp} (h : done ++ rest = mainProgram b) :
    Ordered b done ∧ ∀ op rest', rest = op :: rest' → op ∉ done := by
  have htake : done = (mainProgram b).take done.length := by simp [← h]
  refine ⟨htake ▸ ordered_take b _ (by simp [← h]), ?_⟩
  rintro op rest' rfl
  have hnodup : (mainProgram b).Nodup := by cases b <;> decide
  rw [← h] at hnodup
  exact fun hop => List.disjoint_of_nodup_append hnodup hop (List.mem_cons_self op rest')

/-! ## Every reachable world -/

section World

variable {p : TestParameters} {b : Bool}

/-- A sender that steps has started and not ended; it may only clear
`testRunning`, and then by throwing. -/
theorem senderStep_frame {withTester running : Bool} {s : SenderLocal} {a : WorkerAction}
    {x : SenderLocal × Bool} (h : senderStep p withTester running s a = some x) :
    s.pc ≠ .unstarted ∧ s.pc.ended = false ∧ (x.2 = running ∨ x.2 = false ∧ x.1.pc = .threw) := by
  cases a <;> simp only [senderStep] at h <;> split_ifs at h with hpc
  all_goals first
    | (cases h; simp [hpc, LoopPc.ended]; done)
    | (cases h; simp [LoopPc.mayThrow_started hpc])
    | (obtain ⟨_, -, rfl⟩ := Option.map_eq_some'.mp h; simp [hpc, LoopPc.ended])

/-- A receiver that steps has started and not ended; it may only clear
`testRunning` by leaving its loop. -/
theorem receiverStep_frame {running : Bool} {r : ReceiverLocal} {a : WorkerAction}
    {x : ReceiverLocal × Bool} (h : receiverStep p running r a = some x) :
    r.pc ≠ .unstarted ∧ r.pc.ended = false ∧ (x.2 = running ∨ x.2 = false ∧ x.1.pc.ended) := by
  cases a <;> simp only [receiverStep] at h <;> split_ifs at h with hpc <;> cases h
  all_goals first
    | (simp [hpc, LoopPc.ended]; done)
    | simp [LoopPc.mayThrow_started hpc, LoopPc.ended_iff]

theorem reporterStep_frame {live : Bool} {r r' : ReporterPc} (h : reporterStep live r = some r') :
    r ≠ .unstarted ∧ r ≠ .finished := by
  cases r <;> simp [reporterStep] at h ⊢

/-- What `main`'s progress says of the threads, `done` being the operations
it has done. -/
structure Lifecycle (done : List MainOp) (w : World) : Prop where
  sender_unstarted : .startSender ∉ done → w.sender.pc = .unstarted
  sender_joined : .joinSender ∈ done → w.sender.pc.ended
  receiver_unstarted : .startReceiver ∉ done → w.receiver.pc = .unstarted
  receiver_joined : .joinReceiver ∈ done → w.receiver.pc.ended
  reporter_unstarted : .startReporter ∉ done → w.reporter = .unstarted
  reporter_joined : .joinReporter ∈ done → w.reporter = .finished
  live_set : .clearLiveReport ∉ done → w.liveReport = true

/-- An operation of `main` that starts no thread keeps the lifecycle, when it
keeps the threads, changes `liveReport` only to clear it, and a `join` finds
its thread ended. -/
theorem Lifecycle.snoc {done : List MainOp} {w w' : World} {op : MainOp} (hl : Lifecycle done w)
    (hw : w'.sender = w.sender ∧ w'.receiver = w.receiver ∧ w'.reporter = w.reporter ∧
      (op ≠ .clearLiveReport → w'.liveReport = w.liveReport))
    (hjoin : (op = .joinSender → w.sender.pc.ended) ∧ (op = .joinReceiver → w.receiver.pc.ended) ∧
      (op = .joinReporter → w.reporter = .finished)) :
    Lifecycle (done ++ [op]) w' := by
  obtain ⟨hs, hr, hp, hlv⟩ := hw
  obtain ⟨hjs, hjr, hjp⟩ := hjoin
  refine ⟨fun h => ?_, fun h => ?_, fun h => ?_, fun h => ?_, fun h => ?_, fun h => ?_, fun h => ?_⟩
  · rw [hs]; exact hl.sender_unstarted (mt (List.mem_append_left _) h)
  · rw [hs]; rcases List.mem_append.mp h with h | h
    exacts [hl.sender_joined h, hjs (List.mem_singleton.mp h).symm]
  · rw [hr]; exact hl.receiver_unstarted (mt (List.mem_append_left _) h)
  · rw [hr]; rcases List.mem_append.mp h with h | h
    exacts [hl.receiver_joined h, hjr (List.mem_singleton.mp h).symm]
  · rw [hp]; exact hl.reporter_unstarted (mt (List.mem_append_left _) h)
  · rw [hp]; rcases List.mem_append.mp h with h | h
    exacts [hl.reporter_joined h, hjp (List.mem_singleton.mp h).symm]
  · rw [hlv fun hop => h (hop ▸ List.mem_append_right _ (List.mem_singleton_self _))]
    exact hl.live_set (mt (List.mem_append_left _) h)

/-- What holds of every reachable world. -/
structure Inv (p : TestParameters) (b : Bool) (w : World) : Prop where
  progress : ∃ done, done ++ w.main = mainProgram b ∧ Lifecycle done w
  running : w.testRunning = false → w.sender.pc.ended ∨ w.receiver.pc.ended
  sender : SenderInv p w.testRunning w.sender
  receiver : ReceiverInv p w.testRunning w.receiver

theorem Inv.init : Inv p b (World.init b) :=
  ⟨⟨[], rfl, ⟨fun _ => rfl, nofun, fun _ => rfl, nofun, fun _ => rfl, nofun, fun _ => rfl⟩⟩, nofun,
    ⟨fun _ => rfl, fun _ => rfl, nofun, fun _ => ⟨rfl, Nat.zero_le _⟩, Nat.zero_le _, fun _ => rfl,
      fun _ => rfl⟩,
    ⟨fun _ => rfl, nofun, fun _ => ⟨rfl, Nat.zero_le _⟩, Nat.zero_le _, fun _ => rfl, fun _ => rfl⟩⟩

/-- `main`'s step keeps the invariant: a `join` returns only once its thread
has ended, and `testRunning` is cleared only after the join the program puts
before it. -/
theorem Inv.main_step {w w' : World} {done : List MainOp} (hi : Inv p b w)
    (hdone : done ++ w.main = mainProgram b) (hl : Lifecycle done w) (h : mainStep w = some w') :
    Inv p b w' := by
  unfold mainStep at h
  split at h
  · cases h
  rename_i op rest hmain
  rw [hmain] at hdone
  have hop : op ∉ done := (ordered_of_append hdone).2 op rest rfl
  have hord := (ordered_of_append hdone).1
  have hdone' : (done ++ [op]) ++ rest = mainProgram b := by simpa using hdone
  have hord' := (ordered_of_append hdone').1
  cases op with
  | startReceiver =>
    cases h
    have hu := hl.receiver_unstarted hop
    refine ⟨⟨_, hdone', fun h => hl.sender_unstarted (by simpa using h),
      fun h => hl.sender_joined (by simpa using h), fun h => by simp at h,
      fun h => absurd (hord.2.1 (by simpa using h)) hop, fun h => hl.reporter_unstarted (by simpa using h),
      fun h => hl.reporter_joined (by simpa using h), fun h => hl.live_set (by simpa using h)⟩,
      fun hf => (hi.running hf).imp_right fun h => by simp [hu, LoopPc.ended] at h, hi.sender,
      { hi.receiver with busy := nofun, calls_working := nofun }⟩
  | startSender =>
    cases h
    have hu := hl.sender_unstarted hop
    refine ⟨⟨_, hdone', fun h => by simp at h, fun h => absurd (hord.1 (by simpa using h)) hop,
      fun h => hl.receiver_unstarted (by simpa using h), fun h => hl.receiver_joined (by simpa using h),
      fun h => hl.reporter_unstarted (by simpa using h), fun h => hl.reporter_joined (by simpa using h),
      fun h => hl.live_set (by simpa using h)⟩,
      fun hf => (hi.running hf).imp_left fun h => by simp [hu, LoopPc.ended] at h,
      { hi.sender with fresh := fun _ => hi.sender.fresh (.inl hu), busy := nofun, calls_working := nofun },
      hi.receiver⟩
  | startReporter =>
    cases h
    exact ⟨⟨_, hdone', fun h => hl.sender_unstarted (by simpa using h),
      fun h => hl.sender_joined (by simpa using h), fun h => hl.receiver_unstarted (by simpa using h),
      fun h => hl.receiver_joined (by simpa using h), fun h => by simp at h,
      fun h => absurd (hord.2.2.1 (by simpa using h)) hop, fun h => hl.live_set (by simpa using h)⟩,
      hi.running, hi.sender, hi.receiver⟩
  | joinReceiver =>
    simp only [runOp] at h
    split at h
    · rename_i hend
      cases h
      exact ⟨⟨_, hdone', hl.snoc ⟨rfl, rfl, rfl, fun _ => rfl⟩ ⟨nofun, fun _ => hend, nofun⟩⟩,
        hi.running, hi.sender, hi.receiver⟩
    · cases h
  | joinSender =>
    simp only [runOp] at h
    split at h
    · rename_i hend
      cases h
      exact ⟨⟨_, hdone', hl.snoc ⟨rfl, rfl, rfl, fun _ => rfl⟩ ⟨fun _ => hend, nofun, nofun⟩⟩,
        hi.running, hi.sender, hi.receiver⟩
    · cases h
  | joinReporter =>
    simp only [runOp] at h
    split at h
    · rename_i hend
      cases h
      exact ⟨⟨_, hdone', hl.snoc ⟨rfl, rfl, rfl, fun _ => rfl⟩ ⟨nofun, nofun, fun _ => hend⟩⟩,
        hi.running, hi.sender, hi.receiver⟩
    · cases h
  | clearTestRunning =>
    cases h
    have hjoined : w.sender.pc.ended ∨ w.receiver.pc.ended := by
      have := hord'.2.2.2.1 (by simp)
      cases b
      · exact .inl (hl.sender_joined (by simpa using this))
      · exact .inr (hl.receiver_joined (by simpa using this))
    exact ⟨⟨_, hdone', hl.snoc ⟨rfl, rfl, rfl, fun _ => rfl⟩ ⟨nofun, nofun, nofun⟩⟩,
      fun _ => hjoined, hi.sender.clear, hi.receiver.clear⟩
  | clearLiveReport =>
    cases h
    exact ⟨⟨_, hdone', hl.snoc ⟨rfl, rfl, rfl, fun h => absurd rfl h⟩ ⟨nofun, nofun, nofun⟩⟩,
      hi.running, hi.sender, hi.receiver⟩
  | printReport =>
    cases h
    exact ⟨⟨_, hdone', hl.snoc ⟨rfl, rfl, rfl, fun _ => rfl⟩ ⟨nofun, nofun, nofun⟩⟩,
      hi.running, hi.sender, hi.receiver⟩

theorem Inv.step {w w' : World} {a : Action} (hi : Inv p b w) (h : w.step p b a = some w') :
    Inv p b w' := by
  obtain ⟨done, hdone, hl⟩ := hi.progress
  cases a with
  | main => exact hi.main_step hdone hl h
  | sender a =>
    obtain ⟨⟨s', r'⟩, hs, rfl⟩ := Option.map_eq_some'.mp h
    obtain ⟨hstarted, hlive, hr'⟩ := senderStep_frame hs
    refine ⟨⟨done, hdone, { hl with
      sender_unstarted := fun h => absurd (hl.sender_unstarted h) hstarted
      sender_joined := fun h => by simp [hl.sender_joined h] at hlive }⟩, ?_, hi.sender.step hs, ?_⟩
    · rcases hr' with rfl | ⟨rfl, hthrew⟩
      · exact fun hf => (hi.running hf).imp_left fun h => by simp [h] at hlive
      · exact fun _ => .inl (by simp only at hthrew; simp [hthrew, LoopPc.ended])
    · rcases hr' with rfl | ⟨rfl, -⟩
      · exact hi.receiver
      · exact hi.receiver.clear
  | receiver a =>
    obtain ⟨⟨r', running'⟩, hr, rfl⟩ := Option.map_eq_some'.mp h
    obtain ⟨hstarted, hlive, hrun⟩ := receiverStep_frame hr
    refine ⟨⟨done, hdone, { hl with
      receiver_unstarted := fun h => absurd (hl.receiver_unstarted h) hstarted
      receiver_joined := fun h => by simp [hl.receiver_joined h] at hlive }⟩, ?_, ?_, hi.receiver.step hr⟩
    · rcases hrun with rfl | ⟨rfl, hended⟩
      · exact fun hf => (hi.running hf).imp_right fun h => by simp [h] at hlive
      · exact fun _ => .inr hended
    · rcases hrun with rfl | ⟨rfl, -⟩
      · exact hi.sender
      · exact hi.sender.clear
  | reporter =>
    obtain ⟨r', hr, rfl⟩ := Option.map_eq_some'.mp h
    obtain ⟨hstarted, hnotfin⟩ := reporterStep_frame hr
    exact ⟨⟨done, hdone, { hl with
      reporter_unstarted := fun h => absurd (hl.reporter_unstarted h) hstarted
      reporter_joined := fun h => absurd (hl.reporter_joined h) hnotfin }⟩,
      hi.running, hi.sender, hi.receiver⟩

theorem Reachable.inv {w : World} (h : Reachable p b w) : Inv p b w := by
  induction h with
  | init => exact Inv.init
  | step _ _ hstep ih => exact ih.step hstep

/-- In the cyclic mode with `RunIndefinitely` the sender leaves its loop only
by throwing: the loop condition holds while `testRunning` is set, and before
`main` has joined the sender only the sender's own `catch` clears it. -/
theorem Reachable.cyclic {w : World} (h : Reachable p false w) (hN : p.iterations = runIndefinitely) :
    w.sender.pc ≠ .finished ∧ (w.testRunning = false → w.sender.pc = .threw) := by
  induction h with
  | init => simp [World.init]
  | @step w₀ w₁ a hr hstep ih =>
    obtain ⟨done, hdone, hl⟩ := hr.inv.progress
    cases a with
    | main =>
      simp only [World.step, mainStep] at hstep
      split at hstep
      · cases hstep
      rename_i op rest hmain
      rw [hmain] at hdone
      have hord' :=
        (ordered_of_append (show (done ++ [op]) ++ rest = mainProgram false by simpa using hdone)).1
      cases op <;> simp only [runOp] at hstep <;> try split at hstep
      all_goals first
        | (cases hstep; exact ih)
        | cases hstep
      · have hu := hl.sender_unstarted ((ordered_of_append hdone).2 _ rest rfl)
        exact ⟨by simp, fun hf => by simp [hu] at ih; exact absurd hf (by simpa using ih)⟩
      · have hjoined := hl.sender_joined (by simpa using hord'.2.2.2.1 (by simp))
        exact ⟨ih.1, fun _ => (LoopPc.ended_iff.mp hjoined).resolve_left ih.1⟩
    | sender a =>
      obtain ⟨⟨s', r'⟩, hs, rfl⟩ := Option.map_eq_some'.mp hstep
      obtain ⟨-, hlive, hr'⟩ := senderStep_frame hs
      have hrun : w₀.testRunning = true := by
        by_contra hf
        simp [ih.2 (by simpa using hf), LoopPc.ended] at hlive
      rcases hr' with rfl | ⟨rfl, hthrew⟩
      · refine ⟨?_, fun hf => absurd hrun (by simpa using hf)⟩
        rw [hrun] at hs
        cases a <;> simp only [senderStep] at hs <;> split_ifs at hs
        all_goals first
          | (simp only [Option.some.injEq, Prod.mk.injEq] at hs; rw [← hs.1]; simp [checkPc, continues, hN])
          | (obtain ⟨_, -, hs⟩ := Option.map_eq_some'.mp hs; cases hs; simp)
      · exact ⟨by simp only at hthrew; simp [hthrew], fun _ => hthrew⟩
    | receiver a =>
      obtain ⟨x, hx, rfl⟩ := Option.map_eq_some'.mp hstep
      have hu := hl.receiver_unstarted ((ordered_of_append hdone).1.2.2.2.2.2.2 rfl)
      exact absurd hu (receiverStep_frame hx).1
    | reporter =>
      obtain ⟨r', -, rfl⟩ := Option.map_eq_some'.mp hstep
      exact ih

end World

/-! ## Concrete runs -/

/-- The world after taking `actions` in order from `w`, if each can be taken. -/
def runActions (p : TestParameters) (b : Bool) : World → List Action → Option World
  | w, [] => some w
  | w, a :: actions => (w.step p b a).bind fun w' => runActions p b w' actions

theorem Reachable.of_runActions {p : TestParameters} {b : Bool} {w w' : World} (actions : List Action)
    (h : Reachable p b w) (hrun : runActions p b w actions = some w') : Reachable p b w' := by
  induction actions generalizing w with
  | nil => cases hrun; exact h
  | cons a actions ih =>
    obtain ⟨w₁, h₁, h₂⟩ := Option.bind_eq_some.mp hrun
    exact ih (.step a h h₁) h₂

/-! ## What every interleaving guarantees -/

section Results

variable {p : TestParameters} {b : Bool}

/-- When `main` reaches its final report, the threads it started have ended:
the sender, the reporter and, with a NIC, the receiver.  In the cyclic mode
the receiver never started. -/
theorem reachable_joined {w : World} (h : Reachable p b w) (hfinal : w.main = [.printReport]) :
    w.sender.pc.ended ∧ w.reporter = .finished ∧
      (b = true → w.receiver.pc.ended) ∧ (b = false → w.receiver.pc = .unstarted) := by
  obtain ⟨done, hdone, hl⟩ := h.inv.progress
  obtain ⟨-, -, -, -, -, hlast, hcyclic⟩ := (ordered_of_append hdone).1
  obtain ⟨hs, hr, hrec⟩ := hlast (by rw [← hdone, List.length_append, hfinal]; simp)
  exact ⟨hl.sender_joined hs, hl.reporter_joined hr, fun hb => hl.receiver_joined (hrec hb),
    fun hb => hl.receiver_unstarted (hcyclic hb)⟩

/-- A cyclic run in which the sender throws: `main` joins it, clears both
flags and joins the reporter. -/
theorem reachable_joined_cyclic :
    ∃ w, Reachable ⟨"NoNicSelected", runIndefinitely, 1000000, 42, 45, 3, 3, false, 125000⟩ false w ∧
      w.main = [.printReport] ∧ w.sender.pc.ended ∧ w.reporter = .finished ∧
      (false = true → w.receiver.pc.ended) ∧ (false = false → w.receiver.pc = .unstarted) := by
  have hrun : Reachable ⟨"NoNicSelected", runIndefinitely, 1000000, 42, 45, 3, 3, false, 125000⟩ false _ :=
    .of_runActions [.main, .main, .sender (.configured ⟨0, 0⟩), .sender .check, .sender .throws, .main, .main,
      .main, .reporter, .main] .init rfl
  exact ⟨_, hrun, rfl, reachable_joined hrun rfl⟩

/-- `liveReport` is clear only once the workers have ended, and `testRunning`
only once one of them has. -/
theorem reachable_flags {w : World} (h : Reachable p b w) :
    (w.liveReport = false → w.sender.pc.ended ∧ (b = true → w.receiver.pc.ended)) ∧
      (w.testRunning = false → w.sender.pc.ended ∨ w.receiver.pc.ended) := by
  obtain ⟨done, hdone, hl⟩ := h.inv.progress
  obtain ⟨-, -, -, -, hlive, -, -⟩ := (ordered_of_append hdone).1
  refine ⟨fun hf => ?_, h.inv.running⟩
  have hclear : .clearLiveReport ∈ done := by
    by_contra hn
    simp [hl.live_set hn] at hf
  exact ⟨hl.sender_joined (hlive hclear).1, fun hb => hl.receiver_joined ((hlive hclear).2 hb)⟩

/-- The cyclic run above ends with both flags clear. -/
theorem reachable_flags_cyclic :
    ∃ w, Reachable ⟨"NoNicSelected", runIndefinitely, 1000000, 42, 45, 3, 3, false, 125000⟩ false w ∧
      w.liveReport = false ∧ w.testRunning = false ∧
      (w.liveReport = false → w.sender.pc.ended ∧ (false = true → w.receiver.pc.ended)) ∧
      (w.testRunning = false → w.sender.pc.ended ∨ w.receiver.pc.ended) := by
  have hrun : Reachable ⟨"NoNicSelected", runIndefinitely, 1000000, 42, 45, 3, 3, false, 125000⟩ false _ :=
    .of_runActions [.main, .main, .sender (.configured ⟨0, 0⟩), .sender .check, .sender .throws, .main, .main,
      .main] .init rfl
  exact ⟨_, hrun, rfl, rfl, reachable_flags hrun⟩

/-- Once `testRunning` is clear, each worker calls `Send()` or `Receive()` at
most once more: a worker already past the loop condition makes its call, and
its next loop condition fails. -/
theorem reachable_calls_after_clear {w : World} (h : Reachable p b w) :
    w.sender.callsAfterClear ≤ 1 ∧ w.receiver.callsAfterClear ≤ 1 :=
  ⟨h.inv.sender.calls_le, h.inv.receiver.calls_le⟩

/-- With a NIC, the receiver passes its loop condition, the sender throws in
its set-up and clears `testRunning`, and the receiver still calls `Receive()`. -/
theorem reachable_calls_after_clear_receive :
    ∃ w, Reachable ⟨"eth0", runIndefinitely, 1000000, 42, 45, 3, 3, false, 125000⟩ true w ∧
      w.receiver.callsAfterClear = 1 ∧ w.sender.callsAfterClear ≤ 1 ∧ w.receiver.callsAfterClear ≤ 1 := by
  have hrun : Reachable ⟨"eth0", runIndefinitely, 1000000, 42, 45, 3, 3, false, 125000⟩ true _ :=
    .of_runActions [.main, .main, .receiver (.configured ⟨0, 0⟩), .receiver .check, .sender .throws,
      .receiver (.call true)] .init rfl
  exact ⟨_, hrun, rfl, reachable_calls_after_clear hrun⟩

/-- In every interleaving each worker's state is its sequential loop over the
clock readings it took, `testRunning` set throughout: `senderThread` from the
clock read before the loop, and `receiverThread` with every receive
succeeding. -/
theorem reachable_refines {w : World} (h : Reachable p b w) :
    senderThread p w.sender.start (w.sender.readings.map (Tick.mk true)) = some w.sender.state ∧
      receiverThread p (w.receiver.readings.map ReceiverTick.ofReading) = w.receiver.state := by
  have hs := h.inv.sender.refines []
  have hr := h.inv.receiver.refines []
  simp only [List.append_nil] at hs hr
  exact ⟨hs, hr⟩

/-- A cyclic run with one iteration of the sender, read at `5`. -/
theorem reachable_refines_cyclic :
    ∃ w, Reachable ⟨"NoNicSelected", runIndefinitely, 1000000, 42, 45, 3, 3, false, 125000⟩ false w ∧
      w.sender.readings = [5] ∧
      senderThread ⟨"NoNicSelected", runIndefinitely, 1000000, 42, 45, 3, 3, false, 125000⟩ w.sender.start
          (w.sender.readings.map (Tick.mk true)) = some w.sender.state ∧
      receiverThread ⟨"NoNicSelected", runIndefinitely, 1000000, 42, 45, 3, 3, false, 125000⟩
          (w.receiver.readings.map ReceiverTick.ofReading) = w.receiver.state := by
  have hrun : Reachable ⟨"NoNicSelected", runIndefinitely, 1000000, 42, 45, 3, 3, false, 125000⟩ false _ :=
    .of_runActions [.main, .main, .sender (.configured ⟨0, 0⟩), .sender .check, .sender (.call true),
      .sender (.time 5)] .init rfl
  exact ⟨_, hrun, rfl, reachable_refines hrun⟩

/-- In every interleaving, a worker that has done all `N` iterations has
recorded the intervals of iterations `1, …, N-2` between its clock readings. -/
theorem reachable_intervals {w : World} (h : Reachable p b w) (hN : p.iterations ≠ runIndefinitely) :
    (w.sender.readings.length = p.iterations.val →
      w.sender.state.observations = intervalObservations p.iterations.val w.sender.readings) ∧
    (w.receiver.readings.length = p.iterations.val →
      w.receiver.state.observations = intervalObservations p.iterations.val w.receiver.readings) := by
  have hs := h.inv.sender.refines []
  have hr := h.inv.receiver.refines []
  simp only [List.append_nil, receiverLoop] at hs hr
  refine ⟨fun hlen => ?_, fun hlen => ?_⟩
  · have hticks : (w.sender.readings.map (Tick.mk true)).map Tick.received =
        w.sender.readings.map ReceiverTick.ofReading := by
      simp [Function.comp_def, Tick.received, ReceiverTick.ofReading]
    rw [senderLoop_observations p _ _ _ hs, hticks]
    exact receiverThread_observations p _ hN hlen
  · rw [← hr]
    exact receiverThread_observations p _ hN hlen

/-- A receiver that does its three iterations, read at `10`, `20` and `35`,
records the interval of iteration 1. -/
theorem reachable_intervals_three :
    ∃ w, Reachable ⟨"eth0", 3, 1000000, 42, 45, 3, 3, false, 125000⟩ true w ∧
      (3 : U64) ≠ runIndefinitely ∧ w.receiver.readings = [10, 20, 35] ∧
      w.receiver.state.observations = [(10, 1)] ∧
      (w.sender.readings.length = 3 →
        w.sender.state.observations = intervalObservations 3 w.sender.readings) ∧
      (w.receiver.readings.length = 3 →
        w.receiver.state.observations = intervalObservations 3 w.receiver.readings) := by
  have hrun : Reachable ⟨"eth0", 3, 1000000, 42, 45, 3, 3, false, 125000⟩ true _ :=
    .of_runActions [.main, .receiver (.configured ⟨0, 0⟩),
      .receiver .check, .receiver (.call true), .receiver (.time 10),
      .receiver .check, .receiver (.call true), .receiver (.time 20),
      .receiver .check, .receiver (.call true), .receiver (.time 35)] .init rfl
  exact ⟨_, hrun, by decide, rfl, rfl, reachable_intervals hrun (by decide)⟩

/-- In every interleaving, with a positive period and deadlines below `2^64`,
the deadlines the sender has slept to are the grid points of its readings:
each the first point after the previous deadline not before the reading. -/
theorem reachable_deadlines {w : World} (h : Reachable p b w) (hs : 0 < p.sendSleep.val)
    (hwrap : ∀ ms, IsGridSchedule (toEpoch w.sender.start).val p.sendSleep.val 0
        (w.sender.readings.map Fin.val) ms →
      ∀ m ∈ ms, (toEpoch w.sender.start).val + m * p.sendSleep.val < 2 ^ 64) :
    ∃ ms, IsGridSchedule (toEpoch w.sender.start).val p.sendSleep.val 0 (w.sender.readings.map Fin.val) ms ∧
      w.sender.state.deadlines =
        ms.map fun m => deadline ((toEpoch w.sender.start).val + m * p.sendSleep.val) := by
  have hloop := h.inv.sender.refines []
  simp only [List.append_nil] at hloop
  have hsched : IsGridSchedule (toEpoch w.sender.start).val p.sendSleep.val 0 (w.sender.readings.map Fin.val)
      (gridIndices (toEpoch w.sender.start).val p.sendSleep.val 0 (w.sender.readings.map Fin.val)) :=
    (isGridSchedule_iff hs 0 _ _).mpr rfl
  have hiter : p.iterations = runIndefinitely ∨
      (SenderState.start w.sender.start).index.val + w.sender.readings.length ≤ p.iterations.val := by
    by_cases hN : p.iterations = runIndefinitely
    · exact .inl hN
    · exact .inr (by simpa [SenderState.start] using (h.inv.sender.counted hN).2)
  obtain ⟨st, hst, hdead⟩ := senderLoop_deadlines p _ hs _ _ 0 _ hiter hsched (hwrap _ hsched)
    (by simp [SenderState.start])
  rw [hloop] at hst
  cases hst
  exact ⟨_, hsched, by simpa [SenderState.start] using hdead⟩

/-- A cyclic iteration that reads the clock at `1500000`, past the first grid
point `1000000`: the sender sleeps to `2000000`. -/
theorem reachable_deadlines_late :
    ∃ w, Reachable ⟨"NoNicSelected", runIndefinitely, 1000000, 42, 45, 3, 3, false, 125000⟩ false w ∧
      w.sender.state.deadlines = [deadline 2000000] ∧
      ∃ ms, IsGridSchedule (toEpoch w.sender.start).val 1000000 0 (w.sender.readings.map Fin.val) ms ∧
        w.sender.state.deadlines = ms.map fun m => deadline ((toEpoch w.sender.start).val + m * 1000000) := by
  have hrun : Reachable ⟨"NoNicSelected", runIndefinitely, 1000000, 42, 45, 3, 3, false, 125000⟩ false _ :=
    .of_runActions [.main, .main, .sender (.configured ⟨0, 0⟩), .sender .check, .sender (.call true),
      .sender (.time 1500000)] .init rfl
  refine ⟨_, hrun, rfl, reachable_deadlines hrun (by decide) fun ms hms => ?_⟩
  rw [isGridSchedule_iff (by decide)] at hms
  subst hms
  decide

/-- In the cyclic mode with `RunIndefinitely`, `main` gets past the join of the
sender only once the sender has thrown: without an exception the cyclic loop
never ends, and `main` never prints its final report. -/
theorem reachable_cyclic_threw {w : World} (h : Reachable p false w) (hN : p.iterations = runIndefinitely)
    (hjoined : .joinSender ∉ w.main) : w.sender.pc = .threw := by
  obtain ⟨done, hdone, hl⟩ := h.inv.progress
  have hmem : .joinSender ∈ done := by
    have : MainOp.joinSender ∈ done ++ w.main := by rw [hdone]; decide
    simpa [hjoined] using this
  exact (LoopPc.ended_iff.mp (hl.sender_joined hmem)).resolve_left (h.cyclic hN).1

/-- The cyclic run in which the sender throws gets past the join. -/
theorem reachable_cyclic_threw_run :
    ∃ w, Reachable ⟨"NoNicSelected", runIndefinitely, 1000000, 42, 45, 3, 3, false, 125000⟩ false w ∧
      (runIndefinitely : U64) = runIndefinitely ∧ .joinSender ∉ w.main ∧ w.sender.pc = .threw := by
  have hrun : Reachable ⟨"NoNicSelected", runIndefinitely, 1000000, 42, 45, 3, 3, false, 125000⟩ false _ :=
    .of_runActions [.main, .main, .sender (.configured ⟨0, 0⟩), .sender .check, .sender .throws, .main] .init rfl
  exact ⟨_, hrun, rfl, by decide, reachable_cyclic_threw hrun rfl (by decide)⟩

end Results

end RmpEval
