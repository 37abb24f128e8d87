import Mathlib.Logic.Function.Basic

/-!
# `FileDescriptor`

`FileDescriptor` owns one file descriptor, and holds `-1` (or any negative
value) when it owns none.  `Release()` hands the descriptor out without closing
it, `Reset(newFd)` closes the one it holds unless `newFd` is the same, and the
destructor is `Reset()`.  Moves go through `Release()`: the object moved to
takes the descriptor and the one moved from is left with `-1`; a
self-assignment does nothing.

The program's objects are `Handles`: each live object, by its address, with
its `fd`.  `step` is one operation on them: the objects after it and the
`close()` calls it makes.  `Admissible` is what the caller promises: a
descriptor given to the constructor or to `Reset` is owned by no other object.
`FdRun` is a sequence of admissible operations.

Over every run from no objects, no descriptor has two owners, and a step calls
`close()` only on the descriptor of the object it runs on, which is then owned
by none (`step_closes_owned`).  Ownership of a descriptor begins only when it
is given to a constructor or to `Reset` (`step_unowned`) and a close ends it,
so over a run a descriptor is closed at most once for each time it was handed
over (`FdRun.countP_closes_le`).
Destroying an object or resetting it to another descriptor closes the old one
exactly once (`step_replaces`), and `Release()` closes nothing
(`step_release`).  `SetLatencyTarget()` hands the descriptor it opens to the
caller's object without a `close()` (`setLatencyTarget_run`), so
`/dev/cpu_dma_latency` stays open while `main` holds it.
-/

namespace RmpEval

namespace FileDescriptor

/-- `Release()`: the value returned, and the new `fd`. -/
def release (fd : Int) : Int × Int := (fd, -1)

/-- `Reset(newFd)`: the descriptor passed to `close()`, if any, and the new `fd`. -/
def reset (fd newFd : Int) : Option Int × Int :=
  (if newFd ≠ fd ∧ fd ≥ 0 then some fd else none, newFd)

@[simp] theorem release_fst (fd : Int) : (release fd).1 = fd := rfl

@[simp] theorem release_snd (fd : Int) : (release fd).2 = -1 := rfl

@[simp] theorem reset_snd (fd newFd : Int) : (reset fd newFd).2 = newFd := rfl

end FileDescriptor

/-! ## Objects and operations -/

/-- The live `FileDescriptor` objects, by address, with their `fd`. -/
structure Handles where
  fd : Nat → Option Int

/-- No object yet. -/
def Handles.empty : Handles := ⟨fun _ => none⟩

/-- The objects with the one at `h` set to `v` (`none`: not live). -/
def Handles.set (s : Handles) (h : Nat) (v : Option Int) : Handles := ⟨Function.update s.fd h v⟩

@[simp] theorem Handles.set_fd_self (s : Handles) (h : Nat) (v : Option Int) :
    (s.set h v).fd h = v := Function.update_same _ _ _

@[simp] theorem Handles.set_fd_ne (s : Handles) {h h' : Nat} (v : Option Int) (hne : h' ≠ h) :
    (s.set h v).fd h' = s.fd h' := Function.update_noteq hne _ _

/-- One operation on the object at address `h`. -/
inductive FdOp where
  /-- `FileDescriptor h(fd)`. -/
  | construct (h : Nat) (fd : Int)
  /-- `FileDescriptor h{}`. -/
  | constructDefault (h : Nat)
  /-- `h.Release()`. -/
  | release (h : Nat)
  /-- `h.Reset(newFd)`. -/
  | reset (h : Nat) (newFd : Int)
  /-- `FileDescriptor h(std::move(other))`. -/
  | moveConstruct (h other : Nat)
  /-- `h = std::move(other)`. -/
  | moveAssign (h other : Nat)
  /-- `h` goes out of scope. -/
  | destroy (h : Nat)
deriving DecidableEq, Repr

/-- The object whose member runs. -/
def FdOp.target : FdOp → Nat
  | .construct h _ | .constructDefault h | .release h | .reset h _ | .moveConstruct h _
  | .moveAssign h _ | .destroy h => h

/-- A call `close(fd)` made by the object at `handle`. -/
structure Close where
  handle : Nat
  fd : Int
deriving DecidableEq, Repr

/-- The `close()` calls of `Reset` on the object at `h`. -/
def closesOf (h : Nat) (closed : Option Int) : List Close := closed.toList.map (⟨h, ·⟩)

/-- One operation: the objects after it and the `close()` calls it makes;
`none` when it names an object that is not live, or constructs a live one. -/
def step (s : Handles) : FdOp → Option (Handles × List Close)
  | .construct h fd => if (s.fd h).isSome then none else some (s.set h (some fd), [])
  | .constructDefault h => if (s.fd h).isSome then none else some (s.set h (some (-1)), [])
  | .release h => (s.fd h).map fun fd => (s.set h (some (FileDescriptor.release fd).2), [])
  | .reset h newFd => (s.fd h).map fun fd =>
    (s.set h (some (FileDescriptor.reset fd newFd).2), closesOf h (FileDescriptor.reset fd newFd).1)
  | .moveConstruct h other =>
    if (s.fd h).isSome then none
    else (s.fd other).map fun ofd =>
      ((s.set other (some (FileDescriptor.release ofd).2)).set h (some (FileDescriptor.release ofd).1),
        [])
  | .moveAssign h other =>
    if h = other then (s.fd h).map fun _ => (s, [])
    else (s.fd h).bind fun fd => (s.fd other).map fun ofd =>
      let taken := (FileDescriptor.release ofd).1
      ((s.set other (some (FileDescriptor.release ofd).2)).set h
          (some (FileDescriptor.reset fd taken).2),
        closesOf h (FileDescriptor.reset fd taken).1)
  | .destroy h => (s.fd h).map fun fd =>
    (s.set h none, closesOf h (FileDescriptor.reset fd (-1)).1)

/-! ## Ownership -/

/-- The object at `h` owns the descriptor `fd`. -/
def Owns (s : Handles) (h : Nat) (fd : Int) : Prop := 0 ≤ fd ∧ s.fd h = some fd

/-- No descriptor has two owners. -/
def UniqueOwners (s : Handles) : Prop := ∀ h₁ h₂ fd, Owns s h₁ fd → Owns s h₂ fd → h₁ = h₂

/-- The caller's promise: a descriptor given to the constructor or to `Reset`
is owned by no other object. -/
def Admissible (s : Handles) : FdOp → Prop
  | .construct h fd | .reset h fd => ∀ h', h' ≠ h → ¬ Owns s h' fd
  | _ => True

/-- The operation hands `fd` to a constructor or to `Reset`. -/
def FdOp.Acquires (fd : Int) : FdOp → Prop
  | .construct _ fd' | .reset _ fd' => fd' = fd
  | _ => False

instance (fd : Int) : DecidablePred (FdOp.Acquires fd)
  | .construct _ fd' | .reset _ fd' => inferInstanceAs (Decidable (fd' = fd))
  | .constructDefault _ | .release _ | .moveConstruct _ _ | .moveAssign _ _ | .destroy _ =>
    inferInstanceAs (Decidable False)

/-- The operation leaves its object with another descriptor than `fd`, or
destroys it: `Reset` to another descriptor, a move from another object, the
destructor. -/
def FdOp.Replaces (fd : Int) : FdOp → Prop
  | .reset _ newFd => newFd ≠ fd
  | .moveAssign h other => h ≠ other
  | .destroy _ => True
  | _ => False

/-- Admissible operations, one after the other, with their `close()` calls. -/
inductive FdRun : Handles → List FdOp → Handles → List Close → Prop
  | nil (s : Handles) : FdRun s [] s []
  | cons {s s₁ s' : Handles} {op : FdOp} {ops : List FdOp} {cs₁ cs : List Close} :
      Admissible s op → step s op = some (s₁, cs₁) → FdRun s₁ ops s' cs →
      FdRun s (op :: ops) s' (cs₁ ++ cs)

/-! ## One step -/

section Step

variable {s s' : Handles} {op : FdOp} {cs : List Close}

/-! What each operation does, when it runs. -/

theorem step_construct_eq_some {h : Nat} {fd : Int} :
    step s (.construct h fd) = some (s', cs) ↔ s.fd h = none ∧ s' = s.set h (some fd) ∧ cs = [] := by
  cases e : s.fd h <;> simp [step, e, eq_comm]

theorem step_constructDefault_eq_some {h : Nat} :
    step s (.constructDefault h) = some (s', cs) ↔
      s.fd h = none ∧ s' = s.set h (some (-1)) ∧ cs = [] := by
  cases e : s.fd h <;> simp [step, e, eq_comm]

theorem step_release_eq_some {h : Nat} :
    step s (.release h) = some (s', cs) ↔
      (∃ fd, s.fd h = some fd) ∧ s' = s.set h (some (-1)) ∧ cs = [] := by
  cases e : s.fd h <;> simp [step, e, eq_comm]

theorem step_reset_eq_some {h : Nat} {newFd : Int} :
    step s (.reset h newFd) = some (s', cs) ↔
      ∃ fd, s.fd h = some fd ∧ s' = s.set h (some newFd) ∧
        cs = closesOf h (FileDescriptor.reset fd newFd).1 := by
  cases e : s.fd h <;> simp [step, e, eq_comm]

theorem step_moveConstruct_eq_some {h other : Nat} :
    step s (.moveConstruct h other) = some (s', cs) ↔
      s.fd h = none ∧ ∃ ofd, s.fd other = some ofd ∧
        s' = (s.set other (some (-1))).set h (some ofd) ∧ cs = [] := by
  cases e : s.fd h <;> cases e' : s.fd other <;> simp [step, e, e', eq_comm]

theorem step_moveAssign_self_eq_some {h : Nat} :
    step s (.moveAssign h h) = some (s', cs) ↔ (∃ fd, s.fd h = some fd) ∧ s' = s ∧ cs = [] := by
  cases e : s.fd h <;> simp [step, e, eq_comm]

theorem step_moveAssign_eq_some {h other : Nat} (hne : h ≠ other) :
    step s (.moveAssign h other) = some (s', cs) ↔
      ∃ fd ofd, s.fd h = some fd ∧ s.fd other = some ofd ∧
        s' = (s.set other (some (-1))).set h (some ofd) ∧
        cs = closesOf h (FileDescriptor.reset fd ofd).1 := by
  cases e : s.fd h <;> cases e' : s.fd other <;> simp [step, hne, e, e', eq_comm]

theorem step_destroy_eq_some {h : Nat} :
    step s (.destroy h) = some (s', cs) ↔
      ∃ fd, s.fd h = some fd ∧ s' = s.set h none ∧ cs = closesOf h (FileDescriptor.reset fd (-1)).1 := by
  cases e : s.fd h <;> simp [step, e, eq_comm]

theorem owns_set_self {h : Nat} {v : Option Int} {fd : Int} :
    Owns (s.set h v) h fd ↔ 0 ≤ fd ∧ v = some fd := by
  simp [Owns]

theorem owns_set_ne {h h' : Nat} {v : Option Int} {fd : Int} (hne : h' ≠ h) :
    Owns (s.set h v) h' fd ↔ Owns s h' fd := by
  simp [Owns, hne]

/-- Setting one object keeps owners unique when its new descriptor has no other owner. -/
theorem UniqueOwners.set {h : Nat} {v : Option Int} (hu : UniqueOwners s)
    (hv : ∀ fd, 0 ≤ fd → v = some fd → ∀ h', h' ≠ h → ¬ Owns s h' fd) :
    UniqueOwners (s.set h v) := by
  intro h₁ h₂ fd o₁ o₂
  by_cases e₁ : h₁ = h <;> by_cases e₂ : h₂ = h
  · rw [e₁, e₂]
  · subst e₁
    rw [owns_set_self] at o₁
    exact absurd ((owns_set_ne e₂).mp o₂) (hv fd o₁.1 o₁.2 h₂ e₂)
  · subst e₂
    rw [owns_set_self] at o₂
    exact absurd ((owns_set_ne e₁).mp o₁) (hv fd o₂.1 o₂.2 h₁ e₁)
  · exact hu h₁ h₂ fd ((owns_set_ne e₁).mp o₁) ((owns_set_ne e₂).mp o₂)

theorem mem_closesOf {h : Nat} {fd newFd : Int} {c : Close} :
    c ∈ closesOf h (FileDescriptor.reset fd newFd).1 ↔ c = ⟨h, fd⟩ ∧ newFd ≠ fd ∧ 0 ≤ fd := by
  unfold closesOf FileDescriptor.reset
  split_ifs with hc <;> simp [hc, and_comm]

/-- The object a move leaves with `-1` owns nothing. -/
theorem owns_of_owns_set_neg {other h : Nat} {fd : Int} (o : Owns (s.set other (some (-1))) h fd) :
    Owns s h fd := by
  by_cases e : h = other
  · subst e
    obtain ⟨hpos, e⟩ := owns_set_self.mp o
    cases e
    omega
  · exact (owns_set_ne e).mp o

/-- A move leaves the descriptor of `other` with `h` alone: `other` holds `-1`. -/
theorem UniqueOwners.move {h other : Nat} {ofd : Int} (hu : UniqueOwners s)
    (hother : s.fd other = some ofd) (hne : h ≠ other) :
    UniqueOwners ((s.set other (some (-1))).set h (some ofd)) := by
  refine (hu.set fun fd hfd e => by cases e; omega).set fun fd hfd e h' hh' o => ?_
  cases e
  by_cases ho : h' = other
  · subst ho
    obtain ⟨-, e⟩ := owns_set_self.mp o
    cases e
    omega
  · exact ho (hu _ _ _ (owns_of_owns_set_neg o) ⟨hfd, hother⟩)

/-- An admissible step keeps owners unique. -/
theorem step_uniqueOwners (hu : UniqueOwners s) (ha : Admissible s op)
    (hstep : step s op = some (s', cs)) : UniqueOwners s' := by
  cases op with
  | construct h fd =>
    obtain ⟨-, rfl, -⟩ := step_construct_eq_some.mp hstep
    exact hu.set fun _ _ e => by cases e; exact ha
  | constructDefault h =>
    obtain ⟨-, rfl, -⟩ := step_constructDefault_eq_some.mp hstep
    exact hu.set fun _ hfd e => by cases e; omega
  | release h =>
    obtain ⟨-, rfl, -⟩ := step_release_eq_some.mp hstep
    exact hu.set fun _ hfd e => by cases e; omega
  | reset h newFd =>
    obtain ⟨-, -, rfl, -⟩ := step_reset_eq_some.mp hstep
    exact hu.set fun _ _ e => by cases e; exact ha
  | moveConstruct h other =>
    obtain ⟨hh, ofd, hofd, rfl, -⟩ := step_moveConstruct_eq_some.mp hstep
    exact hu.move hofd fun e => by rw [e, hofd] at hh; cases hh
  | moveAssign h other =>
    by_cases hne : h = other
    · subst hne
      obtain ⟨-, rfl, -⟩ := step_moveAssign_self_eq_some.mp hstep
      exact hu
    · obtain ⟨-, ofd, -, hofd, rfl, -⟩ := (step_moveAssign_eq_some hne).mp hstep
      exact hu.move hofd hne
  | destroy h =>
    obtain ⟨-, -, rfl, -⟩ := step_destroy_eq_some.mp hstep
    exact hu.set fun _ _ e => by cases e

/-- Setting the object at `h` to anything but `fd`, when no other object owns
`fd`, leaves `fd` with no owner. -/
theorem unowned_set {h : Nat} {fd : Int} {v : Option Int} (hnone : ∀ h', h' ≠ h → ¬ Owns s h' fd)
    (hv : 0 ≤ fd → v ≠ some fd) : ∀ h', ¬ Owns (s.set h v) h' fd := by
  intro h' o
  by_cases e : h' = h
  · subst e
    exact hv (owns_set_self.mp o).1 (owns_set_self.mp o).2
  · exact hnone h' e ((owns_set_ne e).mp o)

/-- A move of a descriptor with no owner leaves it with none. -/
theorem unowned_move {h other : Nat} {fd ofd : Int} (hnone : ∀ h', ¬ Owns s h' fd)
    (hother : s.fd other = some ofd) :
    ∀ h', ¬ Owns ((s.set other (some (-1))).set h (some ofd)) h' fd :=
  unowned_set (fun h' _ o => hnone h' (owns_of_owns_set_neg o))
    fun hfd e => by cases e; exact hnone other ⟨hfd, hother⟩

theorem length_closesOf_le (h : Nat) (closed : Option Int) : (closesOf h closed).length ≤ 1 := by
  cases closed <;> simp [closesOf]

theorem closesOf_reset_of_ne {h : Nat} {fd newFd : Int} (hne : newFd ≠ fd) (hfd : 0 ≤ fd) :
    closesOf h (FileDescriptor.reset fd newFd).1 = [⟨h, fd⟩] := by
  simp [closesOf, FileDescriptor.reset, hne, hfd]

/-- `Reset` on an object that owns its descriptor, when the object then holds
`v` and no other object gains a descriptor: at most one `close()`, of that
descriptor, which is then owned by none. -/
theorem closesOf_owned {h : Nat} {fd newFd : Int} {mid : Handles} {v : Option Int}
    (hu : UniqueOwners s) (hfd : s.fd h = some fd) (hmid : ∀ h' fd', Owns mid h' fd' → Owns s h' fd')
    (hv : newFd ≠ fd → v ≠ some fd) :
    (closesOf h (FileDescriptor.reset fd newFd).1).length ≤ 1 ∧
      ∀ c ∈ closesOf h (FileDescriptor.reset fd newFd).1,
        c.handle = h ∧ Owns s c.handle c.fd ∧ ∀ h', ¬ Owns (mid.set h v) h' c.fd := by
  refine ⟨length_closesOf_le _ _, fun c hc => ?_⟩
  obtain ⟨rfl, hne, hpos⟩ := mem_closesOf.mp hc
  exact ⟨rfl, ⟨hpos, hfd⟩,
    unowned_set (fun h' hh' o => hh' (hu _ _ _ (hmid _ _ o) ⟨hpos, hfd⟩)) fun _ => hv hne⟩

/-- A step calls `close()` at most once, on the descriptor its own object
owned, and then no object owns it. -/
theorem step_closes_owned (hu : UniqueOwners s) (hstep : step s op = some (s', cs)) :
    cs.length ≤ 1 ∧
      ∀ c ∈ cs, c.handle = op.target ∧ Owns s c.handle c.fd ∧ ∀ h, ¬ Owns s' h c.fd := by
  have some_ne : ∀ {a b : Int}, a ≠ b → some a ≠ some b := fun hne e => hne (Option.some.inj e)
  cases op with
  | construct h fd =>
    obtain ⟨-, -, rfl⟩ := step_construct_eq_some.mp hstep
    simp
  | constructDefault h =>
    obtain ⟨-, -, rfl⟩ := step_constructDefault_eq_some.mp hstep
    simp
  | release h =>
    obtain ⟨-, -, rfl⟩ := step_release_eq_some.mp hstep
    simp
  | reset h newFd =>
    obtain ⟨fd, hfd, rfl, rfl⟩ := step_reset_eq_some.mp hstep
    exact closesOf_owned hu hfd (fun _ _ => id) some_ne
  | moveConstruct h other =>
    obtain ⟨-, -, -, -, rfl⟩ := step_moveConstruct_eq_some.mp hstep
    simp
  | moveAssign h other =>
    by_cases hne : h = other
    · subst hne
      obtain ⟨-, -, rfl⟩ := step_moveAssign_self_eq_some.mp hstep
      simp
    · obtain ⟨fd, ofd, hfd, -, rfl, rfl⟩ := (step_moveAssign_eq_some hne).mp hstep
      exact closesOf_owned hu hfd (fun _ _ => owns_of_owns_set_neg) some_ne
  | destroy h =>
    obtain ⟨fd, hfd, rfl, rfl⟩ := step_destroy_eq_some.mp hstep
    exact closesOf_owned hu hfd (fun _ _ => id) fun _ e => by cases e

/-- Destroying an object, resetting it to another descriptor, or moving
another object's descriptor into it closes the descriptor it owned, once. -/
theorem step_replaces (hu : UniqueOwners s) (hstep : step s op = some (s', cs)) {fd : Int}
    (hown : Owns s op.target fd) (hrep : op.Replaces fd) : cs = [⟨op.target, fd⟩] := by
  obtain ⟨hpos, hfd⟩ := hown
  cases op with
  | construct | constructDefault | release | moveConstruct => exact hrep.elim
  | reset h newFd =>
    obtain ⟨_, hfd₀, -, rfl⟩ := step_reset_eq_some.mp hstep
    cases hfd.symm.trans hfd₀
    exact closesOf_reset_of_ne hrep hpos
  | moveAssign h other =>
    obtain ⟨_, ofd, hfd₀, hofd, -, rfl⟩ := (step_moveAssign_eq_some hrep).mp hstep
    cases hfd.symm.trans hfd₀
    exact closesOf_reset_of_ne (fun e => hrep (hu _ _ _ ⟨hpos, hfd⟩ ⟨hpos, e ▸ hofd⟩)) hpos
  | destroy h =>
    obtain ⟨_, hfd₀, -, rfl⟩ := step_destroy_eq_some.mp hstep
    cases hfd.symm.trans hfd₀
    exact closesOf_reset_of_ne (by omega) hpos

/-- `Release()` closes nothing: its object holds `-1` and the others are unchanged. -/
theorem step_release {h : Nat} (hstep : step s (.release h) = some (s', cs)) :
    cs = [] ∧ s'.fd h = some (-1) ∧ ∀ h', h' ≠ h → s'.fd h' = s.fd h' := by
  obtain ⟨-, rfl, rfl⟩ := step_release_eq_some.mp hstep
  exact ⟨rfl, by simp, fun h' hne => Handles.set_fd_ne _ _ hne⟩

/-- A step that does not hand `fd` over gives it no owner when it had none. -/
theorem step_unowned (hstep : step s op = some (s', cs)) {fd : Int} (hnone : ∀ h, ¬ Owns s h fd)
    (hacq : ¬ op.Acquires fd) : ∀ h, ¬ Owns s' h fd := by
  have hfree : ∀ {h : Nat}, ∀ h', h' ≠ h → ¬ Owns s h' fd := fun h' _ => hnone h'
  cases op with
  | construct h fd' =>
    obtain ⟨-, rfl, -⟩ := step_construct_eq_some.mp hstep
    exact unowned_set hfree fun _ e => hacq (by cases e; rfl)
  | constructDefault h =>
    obtain ⟨-, rfl, -⟩ := step_constructDefault_eq_some.mp hstep
    exact unowned_set hfree fun hfd e => by cases e; omega
  | release h =>
    obtain ⟨-, rfl, -⟩ := step_release_eq_some.mp hstep
    exact unowned_set hfree fun hfd e => by cases e; omega
  | reset h newFd =>
    obtain ⟨-, -, rfl, -⟩ := step_reset_eq_some.mp hstep
    exact unowned_set hfree fun _ e => hacq (by cases e; rfl)
  | moveConstruct h other =>
    obtain ⟨-, ofd, hofd, rfl, -⟩ := step_moveConstruct_eq_some.mp hstep
    exact unowned_move hnone hofd
  | moveAssign h other =>
    by_cases hne : h = other
    · subst hne
      obtain ⟨-, rfl, -⟩ := step_moveAssign_self_eq_some.mp hstep
      exact hnone
    · obtain ⟨-, ofd, -, hofd, rfl, -⟩ := (step_moveAssign_eq_some hne).mp hstep
      exact unowned_move hnone hofd
  | destroy h =>
    obtain ⟨-, -, rfl, -⟩ := step_destroy_eq_some.mp hstep
    exact unowned_set hfree fun _ e => by cases e

end Step

/-! ## Runs -/

theorem uniqueOwners_empty : UniqueOwners Handles.empty := fun _ _ _ ⟨_, e⟩ => by cases e

theorem FdRun.uniqueOwners {s s' : Handles} {ops : List FdOp} {cs : List Close}
    (hrun : FdRun s ops s' cs) (hu : UniqueOwners s) : UniqueOwners s' := by
  induction hrun with
  | nil => exact hu
  | cons ha hstep _ ih => exact ih (step_uniqueOwners hu ha hstep)

/-- Over a run, each descriptor is closed at most once for each time it is
handed over, and once more if an object owned it at the start. -/
theorem FdRun.countP_closes_le {s s' : Handles} {ops : List FdOp} {cs : List Close}
    (hrun : FdRun s ops s' cs) (hu : UniqueOwners s) (fd : Int) :
    ((∀ h, ¬ Owns s h fd) → cs.countP (·.fd = fd) ≤ ops.countP (·.Acquires fd)) ∧
      cs.countP (·.fd = fd) ≤ ops.countP (·.Acquires fd) + 1 := by
  induction hrun with
  | nil => simp
  | @cons s s₁ _ op _ cs₁ _ ha hstep _ ih =>
    obtain ⟨ih₁, ih₂⟩ := ih (step_uniqueOwners hu ha hstep)
    obtain ⟨hlen, hcloses⟩ := step_closes_owned hu hstep
    rw [List.countP_append, List.countP_cons]
    by_cases hc : ∃ c ∈ cs₁, c.fd = fd
    · obtain ⟨c, hc, rfl⟩ := hc
      obtain ⟨-, hown, hfree⟩ := hcloses c hc
      have : cs₁.countP (·.fd = c.fd) ≤ 1 := Nat.le_trans (List.countP_le_length _) hlen
      exact ⟨fun hnone => absurd hown (hnone _), by have := ih₁ hfree; omega⟩
    · have h0 : cs₁.countP (·.fd = fd) = 0 :=
        List.countP_eq_zero.mpr fun c hc' e => hc ⟨c, hc', by simpa using e⟩
      refine ⟨fun hnone => ?_, by split <;> omega⟩
      by_cases hacq : op.Acquires fd
      · simp only [hacq, decide_True, if_true]
        omega
      · have := ih₁ (step_unowned hstep hnone hacq)
        simp only [hacq, decide_False, Bool.false_eq_true, if_false]
        omega

/-! ## `SetLatencyTarget` -/

/-- `SetLatencyTarget()` returning into the caller's object `result`: the
operations on it and on the function's `latencyTargetFd`.  `opened` is what
`open("/dev/cpu_dma_latency", O_RDWR)` gave, `none` when `stat` or `open`
failed and the function returns `FileDescriptor{}`.  The local object is
returned by the move the language falls back on when the copy is not elided. -/
def setLatencyTarget (result latencyTargetFd : Nat) (opened : Option Int) : List FdOp :=
  match opened with
  | none => [.constructDefault result]
  | some rawFd => [.construct latencyTargetFd rawFd, .moveConstruct result latencyTargetFd,
      .destroy latencyTargetFd]

/-- Every run from no objects: no descriptor has two owners, and each is closed
at most once for each time it is handed to a constructor or to `Reset`.  From
the state reached, a step calls `close()` only on the descriptor of its own
object, which then has no owner; destroying an object, resetting it to another
descriptor or moving another's descriptor into it closes the descriptor it
owned exactly once; and `Release()` closes nothing and leaves the others as
they were. -/
theorem fileDescriptor_ownership {ops : List FdOp} {s : Handles} {cs : List Close}
    (hrun : FdRun Handles.empty ops s cs) :
    UniqueOwners s ∧
      (∀ fd, cs.countP (·.fd = fd) ≤ ops.countP (·.Acquires fd)) ∧
      ∀ op s' cs', step s op = some (s', cs') →
        (∀ c ∈ cs', c.handle = op.target ∧ Owns s c.handle c.fd ∧ ∀ h, ¬ Owns s' h c.fd) ∧
        (∀ fd, Owns s op.target fd → op.Replaces fd → cs' = [⟨op.target, fd⟩]) ∧
        ∀ h, op = .release h →
          cs' = [] ∧ s'.fd h = some (-1) ∧ ∀ h', h' ≠ h → s'.fd h' = s.fd h' := by
  have hu := hrun.uniqueOwners uniqueOwners_empty
  refine ⟨hu, fun fd => (hrun.countP_closes_le uniqueOwners_empty fd).1 fun _ ⟨_, e⟩ => (by cases e),
    fun op s' cs' hstep => ⟨(step_closes_owned hu hstep).2, fun _ => step_replaces hu hstep, ?_⟩⟩
  rintro h rfl
  exact step_release hstep

/-- `SetLatencyTarget()`: the descriptor opened is moved into the caller's
object, the local one is destroyed holding `-1`, and the caller's object closes
the descriptor when it goes. -/
theorem fileDescriptor_ownership_latency_target :
    FdRun Handles.empty (setLatencyTarget 1 0 (some 3) ++ [.destroy 1])
        (((((Handles.empty.set 0 (some 3)).set 0 (some (-1))).set 1 (some 3)).set 0 none).set 1 none)
        [⟨1, 3⟩] ∧
      UniqueOwners (((((Handles.empty.set 0 (some 3)).set 0 (some (-1))).set 1 (some 3)).set 0
          none).set 1 none) ∧
      (∀ fd, [(⟨1, 3⟩ : Close)].countP (·.fd = fd) ≤
        (setLatencyTarget 1 0 (some 3) ++ [FdOp.destroy 1]).countP (·.Acquires fd)) ∧
      ∀ op s' cs', step (((((Handles.empty.set 0 (some 3)).set 0 (some (-1))).set 1 (some 3)).set 0
          none).set 1 none) op = some (s', cs') →
        (∀ c ∈ cs', c.handle = op.target ∧
          Owns (((((Handles.empty.set 0 (some 3)).set 0 (some (-1))).set 1 (some 3)).set 0
            none).set 1 none) c.handle c.fd ∧ ∀ h, ¬ Owns s' h c.fd) ∧
        (∀ fd, Owns (((((Handles.empty.set 0 (some 3)).set 0 (some (-1))).set 1 (some 3)).set 0
            none).set 1 none) op.target fd → op.Replaces fd → cs' = [⟨op.target, fd⟩]) ∧
        ∀ h, op = .release h → cs' = [] ∧ s'.fd h = some (-1) ∧ ∀ h', h' ≠ h →
          s'.fd h' = (((((Handles.empty.set 0 (some 3)).set 0 (some (-1))).set 1 (some 3)).set 0
            none).set 1 none).fd h' := by
  have hrun : FdRun Handles.empty (setLatencyTarget 1 0 (some 3) ++ [.destroy 1])
      (((((Handles.empty.set 0 (some 3)).set 0 (some (-1))).set 1 (some 3)).set 0 none).set 1 none)
      [⟨1, 3⟩] :=
    @FdRun.cons _ _ _ (.construct 0 3) _ [] _ (fun _ _ ⟨_, e⟩ => by cases e) rfl <|
      @FdRun.cons _ _ _ (.moveConstruct 1 0) _ [] _ trivial rfl <|
      @FdRun.cons _ _ _ (.destroy 0) _ [] _ trivial rfl <|
      @FdRun.cons _ _ _ (.destroy 1) _ [⟨1, 3⟩] _ trivial rfl <| .nil _
  exact ⟨hrun, fileDescriptor_ownership hrun⟩

end RmpEval
