import Mathlib.Data.Int.Interval

/-!
# The C++ runtime of the evaluator

The audit and the measurement loops are C++.  Besides returning, a computation
of theirs can throw an exception or reach behaviour the language leaves
undefined.  `Cpp α` is the outcome of such a computation: a value, or a
`Fault` saying how it ended instead.  `Cpp.tryCatch` is `try { } catch (...) { }`,
which catches every exception and no undefined behaviour.

Machine integers are `Int` with their range as a predicate, after the range
predicates of the `i64` models in the examples: arithmetic whose exact value
leaves the range is `Fault.undefinedBehaviour`.

`std::stoi` and `std::stoll` are modelled through the scan `strtol` and
`strtoll` make: white space, one optional sign, then the longest run of
decimal digits.  A text with no such digits throws `std::invalid_argument`;
a value outside the target type throws `std::out_of_range`.  Only a prefix is
read, so `"2abc"` converts to `2`.

Strings are `String`, one `Char` for each byte of the C++ string.  The
character classes are those of the `"C"` locale the program runs in.
-/

namespace RmpEval

/-! ## Outcomes -/

/-- How a computation of the evaluator ends when it does not return. -/
inductive Fault where
  /-- `std::invalid_argument`, from a numeric conversion of a text with no digits. -/
  | invalidArgument
  /-- `std::out_of_range`, from `substr` past the end or a conversion out of range. -/
  | outOfRange
  /-- `std::filesystem::filesystem_error`, from a directory iteration that fails.
  The path its `what()` names is left out. -/
  | filesystemError
  /-- Signed overflow, which the language leaves undefined. -/
  | undefinedBehaviour
deriving DecidableEq, Repr

/-- Whether `catch (...)` catches the fault: every exception, no undefined behaviour. -/
def Fault.isException : Fault → Bool
  | .undefinedBehaviour => false
  | _ => true

/-- The outcome of a C++ computation. -/
inductive Cpp (α : Type) where
  | ok (a : α)
  | fault (f : Fault)
deriving DecidableEq, Repr

namespace Cpp

/-- Sequencing: a fault skips the rest. -/
def bind {α β : Type} : Cpp α → (α → Cpp β) → Cpp β
  | .ok a, f => f a
  | .fault e, _ => .fault e

instance : Monad Cpp where
  pure := .ok
  bind := Cpp.bind

instance : LawfulMonad Cpp :=
  LawfulMonad.mk' Cpp (fun x => by cases x <;> rfl) (fun _ _ => rfl) (fun x _ _ => by cases x <;> rfl)

@[simp] theorem pure_eq {α : Type} (a : α) : (pure a : Cpp α) = .ok a := rfl

@[simp] theorem ok_bind {α β : Type} (a : α) (f : α → Cpp β) : (Cpp.ok a >>= f) = f a := rfl

@[simp] theorem fault_bind {α β : Type} (e : Fault) (f : α → Cpp β) :
    (Cpp.fault e >>= f) = .fault e := rfl

@[simp] theorem map_ok {α β : Type} (f : α → β) (a : α) : f <$> Cpp.ok a = .ok (f a) := rfl

@[simp] theorem map_fault {α β : Type} (f : α → β) (e : Fault) : f <$> (Cpp.fault e : Cpp α) = .fault e :=
  rfl

/-- `try { x } catch (...) { handler }`. -/
def tryCatch {α : Type} (x : Cpp α) (handler : Cpp α) : Cpp α :=
  match x with
  | .ok a => .ok a
  | .fault e => if e.isException then handler else .fault e

@[simp] theorem tryCatch_ok {α : Type} (a : α) (h : Cpp α) : tryCatch (.ok a) h = .ok a := rfl

theorem tryCatch_eq_ok {α : Type} {x h : Cpp α} {a : α} :
    tryCatch x h = .ok a ↔ x = .ok a ∨ ∃ e, x = .fault e ∧ e.isException ∧ h = .ok a := by
  cases x with
  | ok b => simp [tryCatch]
  | fault e => cases he : e.isException <;> simp [tryCatch, he]

theorem tryCatch_ok_eq_fault {α : Type} {x : Cpp α} {a : α} {e : Fault} :
    tryCatch x (.ok a) = .fault e ↔ x = .fault e ∧ e.isException = false := by
  cases x with
  | ok b => simp [tryCatch]
  | fault e₀ => cases h : e₀.isException <;> simp [tryCatch, h] <;> rintro rfl <;> exact h

/-- The value of a computation that returned. -/
def IsOk {α : Type} (x : Cpp α) : Prop := ∃ a, x = .ok a

theorem bind_eq_ok {α β : Type} {x : Cpp α} {f : α → Cpp β} {b : β} :
    (x >>= f) = .ok b ↔ ∃ a, x = .ok a ∧ f a = .ok b := by
  cases x <;> simp [Cpp.bind, bind]

theorem bind_eq_fault {α β : Type} {x : Cpp α} {f : α → Cpp β} {e : Fault} :
    (x >>= f) = .fault e ↔ x = .fault e ∨ ∃ a, x = .ok a ∧ f a = .fault e := by
  cases x <;> simp [Cpp.bind, bind]

/-! ## What a computation returns

`Returns P x`: every value `x` returns satisfies `P`.  It says nothing of a
computation that faults, and it follows the way a computation is built: one
rule for a value, one for a sequence, one for a branch. -/

/-- Every value the computation returns satisfies `P`. -/
def Returns {α : Type} (P : α → Prop) (x : Cpp α) : Prop := ∀ a, x = .ok a → P a

section Returns

variable {α β : Type} {P : α → Prop}

@[simp] theorem returns_ok {a : α} : Returns P (.ok a) ↔ P a :=
  ⟨fun h => h a rfl, fun h _ e => by cases e; exact h⟩

@[simp] theorem returns_fault {e : Fault} : Returns P (.fault e) := fun _ e => by cases e

theorem returns_bind_iff {x : Cpp β} {f : β → Cpp α} :
    Returns P (x >>= f) ↔ ∀ b, x = .ok b → Returns P (f b) := by
  cases x <;> simp

theorem returns_ite {c : Prop} [Decidable c] {x y : Cpp α} :
    Returns P (if c then x else y) ↔ (c → Returns P x) ∧ (¬c → Returns P y) := by
  split_ifs with h <;> simp [h]

theorem Returns.bind {Q : β → Prop} {x : Cpp β} {f : β → Cpp α}
    (hx : Returns Q x) (hf : ∀ b, Q b → Returns P (f b)) : Returns P (x >>= f) :=
  returns_bind_iff.mpr fun b hb => hf b (hx b hb)

/-- A continuation that returns only values satisfying `P` does so after any computation. -/
theorem returns_bind {x : Cpp β} {f : β → Cpp α} (hf : ∀ b, Returns P (f b)) :
    Returns P (x >>= f) :=
  returns_bind_iff.mpr fun b _ => hf b

end Returns

end Cpp

/-! ## Integers -/

/-- `INT_MIN`. -/
def intMin : Int := -2147483648

/-- `INT_MAX`. -/
def intMax : Int := 2147483647

/-- The minimum of `int64_t`. -/
def int64Min : Int := -9223372036854775808

/-- The maximum of `int64_t`. -/
def int64Max : Int := 9223372036854775807

/-- A value of `int64_t`. -/
def InInt64 (v : Int) : Prop := int64Min ≤ v ∧ v ≤ int64Max

instance (v : Int) : Decidable (InInt64 v) := inferInstanceAs (Decidable (_ ∧ _))

/-- The result of `int64_t` arithmetic whose exact value is `v`. -/
def int64Result (v : Int) : Cpp Int :=
  if InInt64 v then .ok v else .fault .undefinedBehaviour

theorem int64Result_of_inInt64 {v : Int} (h : InInt64 v) : int64Result v = .ok v := by
  simp [int64Result, h]

/-! ## Characters -/

/-- `std::isspace` in the `"C"` locale. -/
def isSpace (c : Char) : Bool :=
  c == ' ' || c == '\t' || c == '\n' || c == '\x0b' || c == '\x0c' || c == '\r'

/-! ## `substr` -/

/-- `s.substr(pos, n)`; `std::out_of_range` when `pos` is past the end. -/
def substr (s : String) (pos : Nat) (n : Nat) : Cpp String :=
  if pos ≤ s.length then .ok ⟨(s.data.drop pos).take n⟩ else .fault .outOfRange

/-- `s.substr(pos)`, to the end of the string. -/
def substrFrom (s : String) (pos : Nat) : Cpp String :=
  if pos ≤ s.length then .ok ⟨s.data.drop pos⟩ else .fault .outOfRange

theorem substr_of_le {s : String} {pos : Nat} (n : Nat) (h : pos ≤ s.length) :
    substr s pos n = .ok ⟨(s.data.drop pos).take n⟩ := if_pos h

theorem substrFrom_of_le {s : String} {pos : Nat} (h : pos ≤ s.length) :
    substrFrom s pos = .ok ⟨s.data.drop pos⟩ := if_pos h

theorem substr_fault {s : String} {pos n : Nat} {e : Fault} (h : substr s pos n = .fault e) :
    e.isException := by
  unfold substr at h; split at h <;> cases h; rfl

theorem substrFrom_fault {s : String} {pos : Nat} {e : Fault} (h : substrFrom s pos = .fault e) :
    e.isException := by
  unfold substrFrom at h; split at h <;> cases h; rfl

/-! ## Numeric conversions -/

/-- The value of a run of decimal digits. -/
def digitsValue (ds : List Char) : Nat :=
  ds.foldl (fun acc d => 10 * acc + (d.toNat - '0'.toNat)) 0

/-- What `strtol` reads in base 10: white space, an optional sign and the
longest run of digits after it; `none` when no digit is there. -/
def scanInteger (s : List Char) : Option Int :=
  let (negative, rest) : Bool × List Char :=
    match s.dropWhile isSpace with
    | '-' :: t => (true, t)
    | '+' :: t => (false, t)
    | t => (false, t)
  let ds := rest.takeWhile Char.isDigit
  if ds.isEmpty then none
  else some (if negative then -(digitsValue ds : Int) else digitsValue ds)

theorem isSpace_of_isDigit {c : Char} (h : c.isDigit) : isSpace c = false := by
  unfold isSpace
  by_contra hs
  simp only [Bool.not_eq_false, Bool.or_eq_true, beq_iff_eq] at hs
  rcases hs with (((((rfl | rfl) | rfl) | rfl) | rfl) | rfl) <;> revert h <;> decide

/-- A text that starts with a digit reads as the digits it starts with. -/
theorem scanInteger_of_isDigit {c : Char} {cs : List Char} (hc : c.isDigit) :
    scanInteger (c :: cs) = some (digitsValue ((c :: cs).takeWhile Char.isDigit) : Int) := by
  have hminus : c ≠ '-' := by rintro rfl; exact absurd hc (by decide)
  have hplus : c ≠ '+' := by rintro rfl; exact absurd hc (by decide)
  simp [scanInteger, isSpace_of_isDigit hc, hminus, hplus, List.takeWhile_cons, hc]

/-- A conversion to a type with range `[lo, hi]`, as `std::stoi` and `std::stoll` make it. -/
def convertInteger (lo hi : Int) (s : String) : Cpp Int :=
  match scanInteger s.data with
  | none => .fault .invalidArgument
  | some v => if lo ≤ v ∧ v ≤ hi then .ok v else .fault .outOfRange

/-- `std::stoi`. -/
def stoi (s : String) : Cpp Int := convertInteger intMin intMax s

/-- `std::stoll`. -/
def stoll (s : String) : Cpp Int := convertInteger int64Min int64Max s

/-- A conversion either returns a value in range or throws. -/
theorem convertInteger_cases (lo hi : Int) (s : String) :
    (∃ v, convertInteger lo hi s = .ok v ∧ lo ≤ v ∧ v ≤ hi) ∨
      convertInteger lo hi s = .fault .invalidArgument ∨
      convertInteger lo hi s = .fault .outOfRange := by
  unfold convertInteger
  split
  · exact .inr (.inl rfl)
  · split
    · exact .inl ⟨_, rfl, ‹_›⟩
    · exact .inr (.inr rfl)

/-- What a conversion throws, `catch (...)` catches. -/
theorem convertInteger_fault_isException {lo hi : Int} {s : String} {e : Fault}
    (h : convertInteger lo hi s = .fault e) : e.isException := by
  rcases convertInteger_cases lo hi s with ⟨v, hv, -⟩ | hv | hv <;> rw [hv] at h <;> cases h <;> rfl

/-- `std::stoi` of a text that a computation throwing only exceptions produced
throws only exceptions. -/
theorem bind_stoi_fault {x : Cpp String} {e : Fault} (hx : ∀ e₀, x = .fault e₀ → e₀.isException)
    (h : (x >>= stoi) = .fault e) : e.isException := by
  cases x with
  | fault e₀ => cases h; exact hx _ rfl
  | ok t => exact convertInteger_fault_isException h

theorem bind_stoi_le_intMax {x : Cpp String} {v : Int} (h : (x >>= stoi) = .ok v) : v ≤ intMax := by
  obtain ⟨t, -, ht⟩ := Cpp.bind_eq_ok.mp h
  rcases convertInteger_cases intMin intMax t with ⟨w, hw, -, hle⟩ | hw | hw <;>
    simp only [stoi, hw] at ht <;> cases ht
  exact hle

/-- A conversion never ends in undefined behaviour: what it does not return, `catch (...)` catches. -/
theorem tryCatch_convertInteger {α : Type} (lo hi : Int) (s : String) (f : Int → α) (h : Cpp α) :
    Cpp.tryCatch (convertInteger lo hi s >>= fun v => .ok (f v)) h =
      match convertInteger lo hi s with
      | .ok v => .ok (f v)
      | .fault _ => h := by
  rcases convertInteger_cases lo hi s with ⟨v, hv, -⟩ | hv | hv <;> simp [hv, Cpp.tryCatch, Fault.isException]

end RmpEval
