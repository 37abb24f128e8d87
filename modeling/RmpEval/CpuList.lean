import RmpEval.Text

/-!
# `ParseCpuList`

`ParseCpuList` turns a CPU list such as `"1-3,5,7-8"` into a `std::set<int>`.
It trims the text, splits it at commas with `std::getline`, trims each field,
and splits a field at its first dash.  Each side is converted by `std::stoi`
inside a `try`, whose `catch (...)` drops the field.

Because `std::stoi` reads a prefix and only the first dash splits, the fields
that are dropped are those whose sides have no leading numeral or do not fit
an `int`.  `"2abc"` gives `{2}`, `"1-2-3"` gives `{1, 2}`, and `"3--5"` reads
its right side as `-5` and gives every integer from `-5` to `3`.

The range loop `for (int i = start; i <= end; ++i)` is `insertRange`.  Its
counter is an `int`: a range ending at `INT_MAX` increments it past `INT_MAX`,
which is undefined behaviour and is not caught.  Every other way a field can
fail throws, and is caught, so `ParseCpuList` returns exactly on the texts
with no range field reaching `INT_MAX` (`parseCpuList_returns_iff`).
-/

namespace RmpEval

/-! ## The range loop -/

/-- `for (int i = start; i <= stop; ++i) out.insert(i)`, from counter `i`, for
at most `passes` passes of the body. -/
def insertRange (stop : Int) : Nat → Int → Finset Int → Cpp (Finset Int)
  | 0, _, out => .ok out
  | passes + 1, i, out =>
    if i ≤ stop then
      if i = intMax then .fault .undefinedBehaviour
      else insertRange stop passes (i + 1) (insert i out)
    else .ok out

/-- The loop of a field `start-stop`, with as many passes as its condition allows. -/
def rangeLoop (start stop : Int) (out : Finset Int) : Cpp (Finset Int) :=
  insertRange stop (stop - start + 1).toNat start out

/-! ## Fields and lists -/

/-- The body of `ParseCpuList`'s loop: one comma-separated field. -/
def parseCpuListField (out : Finset Int) (field : String) : Cpp (Finset Int) :=
  let token := trim field
  if token.isEmpty then .ok out
  else
    Cpp.tryCatch
      (match findChar token '-' 0 with
        | none => do
          let value ← stoi token
          pure (insert value out)
        | some dash => do
          let start ← substr token 0 dash >>= stoi
          let stop ← substrFrom token (dash + 1) >>= stoi
          if start > stop then rangeLoop stop start out else rangeLoop start stop out)
      (.ok out)

/-- `ParseCpuList`. -/
def parseCpuList (str : String) : Cpp (Finset Int) :=
  let trimmed := trim str
  if trimmed.isEmpty then .ok ∅
  else (getlines ',' trimmed).foldlM parseCpuListField ∅

/-! ## The range loop inserts the interval -/

theorem insertRange_of_lt (stop : Int) (passes : Nat) (i : Int) (out : Finset Int)
    (hpasses : stop + 1 - i ≤ passes) (hstop : stop < intMax) :
    insertRange stop passes i out = .ok (out ∪ Finset.Icc i stop) := by
  induction passes generalizing i out with
  | zero =>
    have : Finset.Icc i stop = ∅ := Finset.Icc_eq_empty (by omega)
    simp [insertRange, this]
  | succ passes ih =>
    by_cases hi : i ≤ stop
    · have hne : i ≠ intMax := by omega
      rw [insertRange, if_pos hi, if_neg hne, ih (i + 1) _ (by omega)]
      congr 1
      ext x
      by_cases hx : x ∈ out <;> simp [hx]
      omega
    · have : Finset.Icc i stop = ∅ := Finset.Icc_eq_empty (by omega)
      simp [insertRange, hi, this]

/-- A range that does not reach `INT_MAX` inserts every integer between its ends. -/
theorem rangeLoop_of_lt {start stop : Int} (out : Finset Int) (hstop : stop < intMax) :
    rangeLoop start stop out = .ok (out ∪ Finset.Icc start stop) :=
  insertRange_of_lt stop _ start out (by omega) hstop

/-- A nonempty range ending at `INT_MAX` increments its counter past `INT_MAX`. -/
theorem insertRange_intMax (passes : Nat) (i : Int) (out : Finset Int)
    (hi : i ≤ intMax) (hpasses : intMax + 1 - i ≤ passes) :
    insertRange intMax passes i out = .fault .undefinedBehaviour := by
  induction passes generalizing i out with
  | zero => omega
  | succ passes ih =>
    by_cases h : i = intMax
    · simp [insertRange, h]
    · rw [insertRange, if_pos hi, if_neg h]
      exact ih (i + 1) _ (by omega) (by omega)

theorem rangeLoop_intMax {start : Int} (out : Finset Int) (h : start ≤ intMax) :
    rangeLoop start intMax out = .fault .undefinedBehaviour :=
  insertRange_intMax _ start out h (by omega)

/-! ## One field -/

/-- A field with a dash whose two sides convert is the range loop between
them, under the `catch (...)` of the field. -/
theorem parseCpuListField_range (out : Finset Int) (field : String) (dash : Nat) (start stop : Int)
    (hne : (trim field).isEmpty = false) (hdash : findChar (trim field) '-' 0 = some dash)
    (hstart : substr (trim field) 0 dash >>= stoi = .ok start)
    (hstop : substrFrom (trim field) (dash + 1) >>= stoi = .ok stop) :
    parseCpuListField out field =
      Cpp.tryCatch (if start > stop then rangeLoop stop start out else rangeLoop start stop out) (.ok out) := by
  simp only [parseCpuListField, hne, hdash, hstart, hstop, Cpp.ok_bind]
  rfl

/-- The list `1-2147483647` runs the range loop up to `INT_MAX`, whose last
increment overflows; `catch (...)` does not catch that. -/
theorem parseCpuList_one_to_intMax : parseCpuList "1-2147483647" = .fault .undefinedBehaviour := by
  have hfield := parseCpuListField_range ∅ "1-2147483647" 1 1 intMax
    (by decide) (by decide) (by decide) (by decide)
  have hlines : getlines ',' (trim "1-2147483647") = ["1-2147483647"] := by decide
  have hne : (trim "1-2147483647").isEmpty = false := by decide
  simp only [parseCpuList, hne, hlines, List.foldlM_cons, hfield, List.foldlM_nil]
  rw [if_neg (by decide), rangeLoop_intMax _ (by decide)]
  rfl

/-! ## Which texts `ParseCpuList` returns on

Every exception of a field is caught, so the only way a field ends
`ParseCpuList` is the range loop's overflow.  `fieldRange` names the loop a
field runs: the field has a dash and both of its sides convert. -/

/-- The ends of the loop a field runs, smaller first, when it runs one. -/
def fieldRange (field : String) : Option (Int × Int) :=
  match findChar (trim field) '-' 0 with
  | none => none
  | some dash =>
    match substr (trim field) 0 dash >>= stoi, substrFrom (trim field) (dash + 1) >>= stoi with
    | .ok start, .ok stop => some (min start stop, max start stop)
    | _, _ => none

theorem fieldRange_eq_some {field : String} {lo hi : Int} (h : fieldRange field = some (lo, hi)) :
    ∃ dash start stop, findChar (trim field) '-' 0 = some dash ∧
      substr (trim field) 0 dash >>= stoi = .ok start ∧
      substrFrom (trim field) (dash + 1) >>= stoi = .ok stop ∧ lo = min start stop ∧
      hi = max start stop := by
  unfold fieldRange at h
  split at h
  · cases h
  · rename_i dash hdash
    split at h
    · rename_i start stop hstart hstop
      cases h
      exact ⟨dash, start, stop, hdash, hstart, hstop, rfl, rfl⟩
    · cases h

/-- The swap runs the loop from the smaller end to the larger. -/
theorem rangeLoop_swap (start stop : Int) (out : Finset Int) :
    (if start > stop then rangeLoop stop start out else rangeLoop start stop out) =
      rangeLoop (min start stop) (max start stop) out := by
  split_ifs with h
  · rw [min_eq_right h.le, max_eq_left h.le]
  · rw [min_eq_left (not_lt.mp h), max_eq_right (not_lt.mp h)]

theorem rangeLoop_eq_fault_iff {lo hi : Int} (out : Finset Int) {e : Fault} (hlo : lo ≤ hi)
    (hhi : hi ≤ intMax) : rangeLoop lo hi out = .fault e ↔ e = .undefinedBehaviour ∧ hi = intMax := by
  rcases hhi.lt_or_eq with h | rfl
  · simp [rangeLoop_of_lt out h, h.ne]
  · simp [rangeLoop_intMax out hlo, eq_comm]

theorem findChar_of_isEmpty {s : String} (c : Char) (h : s.isEmpty) : findChar s c 0 = none := by
  rw [(String.isEmpty_iff s).mp h]
  rfl

/-- A field ends `ParseCpuList` exactly when its range reaches `INT_MAX`, and
then with undefined behaviour. -/
theorem parseCpuListField_eq_fault_iff (out : Finset Int) (field : String) (e : Fault) :
    parseCpuListField out field = .fault e ↔
      e = .undefinedBehaviour ∧ ∃ lo, fieldRange field = some (lo, intMax) := by
  unfold parseCpuListField fieldRange
  dsimp only
  by_cases hempty : (trim field).isEmpty
  · simp [hempty, findChar_of_isEmpty '-' hempty]
  rw [if_neg hempty, Cpp.tryCatch_ok_eq_fault]
  cases hdash : findChar (trim field) '-' 0 with
  | none =>
    simp only [Cpp.bind_eq_fault, Cpp.pure_eq, reduceCtorEq, and_false, exists_false, or_false,
      iff_false, not_and, Bool.not_eq_false]
    exact fun h => convertInteger_fault_isException h
  | some dash =>
    cases hstart : substr (trim field) 0 dash >>= stoi with
    | fault e₁ =>
      have h₁ := bind_stoi_fault (fun _ => substr_fault) hstart
      simp only [hstart, Cpp.fault_bind, Cpp.fault.injEq]
      constructor
      · rintro ⟨rfl, h⟩; simp [h₁] at h
      · rintro ⟨-, lo, h⟩; cases h
    | ok start =>
      cases hstop : substrFrom (trim field) (dash + 1) >>= stoi with
      | fault e₂ =>
        have h₂ := bind_stoi_fault (fun _ => substrFrom_fault) hstop
        simp only [hstart, hstop, Cpp.ok_bind, Cpp.fault_bind, Cpp.fault.injEq]
        constructor
        · rintro ⟨rfl, h⟩; simp [h₂] at h
        · rintro ⟨-, lo, h⟩; cases h
      | ok stop =>
        simp only [hstart, hstop, Cpp.ok_bind, rangeLoop_swap, Option.some.injEq, Prod.mk.injEq]
        rw [rangeLoop_eq_fault_iff out min_le_max
          (max_le (bind_stoi_le_intMax hstart) (bind_stoi_le_intMax hstop))]
        constructor
        · rintro ⟨⟨rfl, h⟩, -⟩; exact ⟨rfl, _, rfl, h⟩
        · rintro ⟨rfl, lo, -, h⟩; exact ⟨⟨rfl, h⟩, rfl⟩

/-- A range field below `INT_MAX` inserts every integer between its ends. -/
theorem parseCpuListField_of_fieldRange {field : String} {lo hi : Int} (out : Finset Int)
    (h : fieldRange field = some (lo, hi)) (hhi : hi < intMax) :
    parseCpuListField out field = .ok (out ∪ Finset.Icc lo hi) := by
  obtain ⟨dash, start, stop, hdash, hstart, hstop, rfl, rfl⟩ := fieldRange_eq_some h
  have hne : (trim field).isEmpty = false := by
    cases he : (trim field).isEmpty
    · rfl
    · rw [findChar_of_isEmpty '-' he] at hdash; cases hdash
  rw [parseCpuListField_range out field dash start stop hne hdash hstart hstop, rangeLoop_swap,
    rangeLoop_of_lt out hhi, Cpp.tryCatch_ok]

/-- The loop over the fields stops at the first field that ends it. -/
theorem foldlM_parseCpuListField_eq_fault_iff (fields : List String) (out : Finset Int) (e : Fault) :
    fields.foldlM parseCpuListField out = .fault e ↔
      e = .undefinedBehaviour ∧ ∃ field ∈ fields, ∃ lo, fieldRange field = some (lo, intMax) := by
  induction fields generalizing out with
  | nil => simp
  | cons field rest ih =>
    rw [List.foldlM_cons]
    cases hf : parseCpuListField out field with
    | ok out' =>
      have hgood : ¬ ∃ lo, fieldRange field = some (lo, intMax) := fun hbad => by
        simpa [hf] using (parseCpuListField_eq_fault_iff out field _).mpr ⟨rfl, hbad⟩
      simp only [Cpp.ok_bind, ih, List.mem_cons, or_and_right, exists_or, exists_eq_left, hgood,
        false_or]
    | fault e₀ =>
      obtain ⟨rfl, hbad⟩ := (parseCpuListField_eq_fault_iff out field e₀).mp hf
      simp only [Cpp.fault_bind, Cpp.fault.injEq, List.mem_cons, or_and_right, exists_or,
        exists_eq_left, hbad, true_or, and_true]
      exact eq_comm

theorem parseCpuList_eq_fault_iff (s : String) (e : Fault) :
    parseCpuList s = .fault e ↔
      e = .undefinedBehaviour ∧
        ∃ field ∈ getlines ',' (trim s), ∃ lo, fieldRange field = some (lo, intMax) := by
  unfold parseCpuList
  dsimp only
  split
  · rename_i hempty
    simp [(String.isEmpty_iff _).mp hempty, getlines, getlinesAux]
  · exact foldlM_parseCpuListField_eq_fault_iff _ _ _

/-- `ParseCpuList` returns on every text but those with a field whose range
reaches `INT_MAX`, where the last increment of the counter is undefined; a
range below `INT_MAX` inserts each of the `stop - start + 1` integers between
its ends. -/
theorem parseCpuList_returns_iff (s : String) :
    ((∃ S, parseCpuList s = .ok S) ↔
      ¬ ∃ field ∈ getlines ',' (trim s), ∃ lo, fieldRange field = some (lo, intMax)) ∧
    (∀ e, parseCpuList s = .fault e ↔ e = .undefinedBehaviour ∧
      ∃ field ∈ getlines ',' (trim s), ∃ lo, fieldRange field = some (lo, intMax)) ∧
    (∀ field lo hi out, fieldRange field = some (lo, hi) → hi < intMax →
      parseCpuListField out field = .ok (out ∪ Finset.Icc lo hi) ∧
        (Finset.Icc lo hi).card = (hi + 1 - lo).toNat) := by
  have hfault := parseCpuList_eq_fault_iff s
  refine ⟨⟨?_, fun hgood => ?_⟩, hfault, fun field lo hi out h hhi =>
    ⟨parseCpuListField_of_fieldRange out h hhi, Int.card_Icc lo hi⟩⟩
  · rintro ⟨S, hS⟩ hbad
    cases hS.symm.trans ((hfault _).mpr ⟨rfl, hbad⟩)
  · cases h : parseCpuList s with
    | ok S => exact ⟨S, rfl⟩
    | fault e => exact absurd ((hfault e).mp h).2 hgood

/-! ## What a CPU list denotes

`fieldCpus` is the set a field names, read off the field alone: the integers
of its range when both sides of its first dash convert, the value of a field
without a dash that converts, and nothing otherwise.  A list denotes the union
of its fields (`cpuList`).  Whenever `ParseCpuList` returns, it returns that
set (`parseCpuList_eq`). -/

/-- The integers a field of a CPU list names. -/
def fieldCpus (field : String) : Finset Int :=
  match findChar (trim field) '-' 0 with
  | none =>
    match stoi (trim field) with
    | .ok v => {v}
    | .fault _ => ∅
  | some _ =>
    match fieldRange field with
    | some (lo, hi) => Finset.Icc lo hi
    | none => ∅

/-- The set a CPU list denotes: what its comma-separated fields name. -/
def cpuList (s : String) : Finset Int :=
  (getlines ',' (trim s)).foldr (fun field acc => fieldCpus field ∪ acc) ∅

/-- Some range field of the list ends at `INT_MAX`. -/
def RangeToIntMax (s : String) : Prop :=
  ∃ field ∈ getlines ',' (trim s), ∃ lo, fieldRange field = some (lo, intMax)

instance (s : String) : Decidable (RangeToIntMax s) :=
  decidable_of_iff (∃ field ∈ getlines ',' (trim s), (fieldRange field).map Prod.snd = some intMax) <| by
    simp only [RangeToIntMax, Option.map_eq_some', Prod.exists, exists_eq_right]

@[simp] theorem cpuList_trim (s : String) : cpuList (trim s) = cpuList s := by
  rw [cpuList, trim_trim]
  rfl

@[simp] theorem rangeToIntMax_trim (s : String) : RangeToIntMax (trim s) ↔ RangeToIntMax s := by
  rw [RangeToIntMax, trim_trim]
  rfl

theorem mem_cpuList {cpu : Int} {s : String} :
    cpu ∈ cpuList s ↔ ∃ field ∈ getlines ',' (trim s), cpu ∈ fieldCpus field := by
  unfold cpuList
  induction getlines ',' (trim s) with
  | nil => simp
  | cons field rest ih => simp [ih]

/-- A field that `ParseCpuList` gets through adds what it names. -/
theorem parseCpuListField_eq_ok {out out' : Finset Int} {field : String}
    (h : parseCpuListField out field = .ok out') : out' = out ∪ fieldCpus field := by
  unfold parseCpuListField at h
  dsimp only at h
  by_cases hempty : (trim field).isEmpty
  · rw [if_pos hempty] at h
    cases h
    have hnil : trim field = "" := (String.isEmpty_iff _).mp hempty
    simp [fieldCpus, hnil, findChar, charIndex, stoi, convertInteger, scanInteger]
  rw [if_neg hempty, Cpp.tryCatch_eq_ok] at h
  unfold fieldCpus
  cases hdash : findChar (trim field) '-' 0 with
  | none =>
    simp only [hdash] at h ⊢
    rcases h with h | ⟨e, he, -, h⟩
    · obtain ⟨v, hv, h⟩ := Cpp.bind_eq_ok.mp h
      rw [hv, ← Cpp.ok.inj h, Finset.insert_eq, Finset.union_comm]
    · obtain ⟨e', hv, rfl⟩ : ∃ e', stoi (trim field) = .fault e' ∧ e' = e := by
        cases hv : stoi (trim field) with
        | ok v => rw [hv] at he; cases he
        | fault e' => rw [hv] at he; cases he; exact ⟨_, rfl, rfl⟩
      rw [hv, ← Cpp.ok.inj h, Finset.union_empty]
  | some dash =>
    simp only [hdash] at h ⊢
    cases hr : fieldRange field with
    | some r =>
      obtain ⟨lo, hi⟩ := r
      obtain ⟨dash', start, stop, hdash', hstart, hstop, rfl, rfl⟩ := fieldRange_eq_some hr
      cases hdash.symm.trans hdash'
      rw [← Cpp.tryCatch_eq_ok] at h
      simp only [hstart, hstop, Cpp.ok_bind, rangeLoop_swap] at h
      have hle : max start stop ≤ intMax :=
        max_le (bind_stoi_le_intMax hstart) (bind_stoi_le_intMax hstop)
      rcases hle.lt_or_eq with hlt | heq
      · rw [rangeLoop_of_lt out hlt, Cpp.tryCatch_ok] at h
        exact (Cpp.ok.inj h).symm
      · rw [heq, rangeLoop_intMax out (heq ▸ min_le_max)] at h
        cases h
    | none =>
      rcases h with h | ⟨e, -, -, h⟩
      · obtain ⟨start, hstart, h⟩ := Cpp.bind_eq_ok.mp h
        obtain ⟨stop, hstop, -⟩ := Cpp.bind_eq_ok.mp h
        simp [fieldRange, hdash, hstart, hstop] at hr
      · rw [← Cpp.ok.inj h, Finset.union_empty]

theorem foldlM_parseCpuListField_eq_ok {fields : List String} {out S : Finset Int}
    (h : fields.foldlM parseCpuListField out = .ok S) :
    S = out ∪ fields.foldr (fun field acc => fieldCpus field ∪ acc) ∅ := by
  induction fields generalizing out with
  | nil => simpa using (Cpp.ok.inj h).symm
  | cons field rest ih =>
    rw [List.foldlM_cons] at h
    obtain ⟨out', hfield, h⟩ := Cpp.bind_eq_ok.mp h
    rw [ih h, parseCpuListField_eq_ok hfield, List.foldr_cons, Finset.union_assoc]

/-- `ParseCpuList` is undefined on a list with a range to `INT_MAX`, and
returns the set the list denotes on every other. -/
theorem parseCpuList_eq (s : String) :
    parseCpuList s = if RangeToIntMax s then .fault .undefinedBehaviour else .ok (cpuList s) := by
  split_ifs with hbad
  · exact (parseCpuList_eq_fault_iff s _).mpr ⟨rfl, hbad⟩
  · cases h : parseCpuList s with
    | fault e => exact absurd ((parseCpuList_eq_fault_iff s e).mp h).2 hbad
    | ok S =>
      simp only [parseCpuList] at h
      split at h
      · rename_i hempty
        cases h
        simp [cpuList, (String.isEmpty_iff _).mp hempty, getlines, getlinesAux]
      · rw [foldlM_parseCpuListField_eq_ok h, Finset.empty_union]
        rfl

/-- `ParseCpuList` returns exactly on the lists without a range to `INT_MAX`,
and what it returns are the integers some field of the trimmed list names. -/
theorem parseCpuList_eq_ok_iff (s : String) (S : Finset Int) :
    parseCpuList s = .ok S ↔
      ¬ RangeToIntMax s ∧ ∀ cpu, cpu ∈ S ↔ ∃ field ∈ getlines ',' (trim s), cpu ∈ fieldCpus field := by
  rw [parseCpuList_eq]
  split_ifs with hbad
  · simp [hbad]
  · simp only [Cpp.ok.injEq, hbad, not_false_eq_true, true_and, ← mem_cpuList]
    exact ⟨fun h cpu => by rw [h], fun h => (Finset.ext h).symm⟩

/-! ## Fields the spec says are dropped are read -/

/-- `"3--5"` has two dashes, so the spec drops it; the code reads `"-5"` after
the first dash and inserts every integer from `-5` to `3`. -/
theorem parseCpuList_three_dash_dash_five :
    parseCpuList "3--5" = .ok (Finset.Icc (-5) 3) := by
  rw [show parseCpuList "3--5" = rangeLoop (-5) 3 ∅ from rfl, rangeLoop_of_lt _ (by decide)]
  simp

end RmpEval
