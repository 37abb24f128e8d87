import RmpEval.Check
import RmpEval.CpuList

/-!
# The checks that read `/proc/interrupts`

`NoUnrelatedIrqsOnRtCheck` maps the RT core to a column of the table and
collects the rows with a positive count there whose label does not contain
the NIC name.  `NicIrqsPinnedCheck` collects the rows that mention the NIC and
reads the affinity of each of their IRQs.

The table is read in two stages.  The first line containing `CPU0` is the
header: its words starting with `CPU` are numbered from `0`, and the RT core's
column is the number of the last one naming it.  Every later line is a row.  A
row counts when, after leading white space, it starts with a digit and has a
`:` somewhere; the IRQ number is the text up to that colon.  After the colon,
the words made of digits are the counts, numbered from `0`; the first other
word and everything after it on the line is the label.  A count that does not
fit an `int64_t` reads as `0`.

The filter the labels are matched against is the context's NIC name, or the
empty string when the context has none, and every label contains the empty
string: without a NIC only unlabeled rows are offenders.
-/

namespace RmpEval

/-- Modelled from the spec: `CpuPrefix` of `config.h`, as the header of
`/proc/interrupts` names its columns `CPU<N>`. -/
def cpuPrefix : String := "CPU"

/-- Modelled from the spec: `MaxIrqsToShow` of `config.h`, as the failure
lists "up to a small fixed number (e.g., 5)" of offenders. -/
def maxIrqsToShow : Nat := 5

namespace NoUnrelatedIrqsOnRtCheck

def kind : CheckKind := .noUnrelatedIrqsOnRt

def name : String := "No unrelated IRQs on RT core"

/-! ## The header -/

/-- The loop over the header's words: `index` numbers the words that start
with `CPU`, and `column` is the last number whose word names `cpu`. -/
def headerScan (cpu : Int) : List String → Int → Int → Cpp Int
  | [], _, column => .ok column
  | word :: rest, index, column =>
    if startsWith word cpuPrefix then do
      let index := index + 1
      let suffix ← substrFrom word cpuPrefix.length
      headerScan cpu rest index (if toString cpu = suffix then index else column)
    else headerScan cpu rest index column

/-! ## A row -/

/-- The loop over the words after a row's colon, as `>>` extracts them with
the rest of the line after each: `index` numbers the words of digits, `value`
is the count read at `cpuColumn`.  The result is the offender entry, if any. -/
def columnScan (cpuColumn : Int) (nicFilter irqNumber : String) :
    List (String × String) → Int → Int → Cpp (Option String)
  | [], _, value => .ok (if value > 0 then some (irqNumber ++ " (unlabeled)") else none)
  | (token, rest) :: more, index, value =>
    if token.data.all Char.isDigit then do
      let index := index + 1
      let value ← if index = cpuColumn then Cpp.tryCatch (stoll token) (.ok 0) else pure value
      columnScan cpuColumn nicFilter irqNumber more index value
    else
      let label := token ++ ⟨getlineRest rest.data⟩
      .ok (if value > 0 && !contains label nicFilter then some (irqNumber ++ " " ++ trim label)
        else none)

/-- One row after the header. -/
def rowOffender (cpuColumn : Int) (nicFilter line : String) : Cpp (Option String) :=
  let pos := (line.data.takeWhile isSpace).length
  match line.data.drop pos with
  | c :: _ =>
    if c.isDigit then
      match findChar line ':' pos with
      | some colon => do
        let irqNumber ← substr line pos (colon - pos)
        let columns ← substrFrom line (colon + 1)
        columnScan cpuColumn nicFilter irqNumber (extractions columns) (-1) 0
      | none => .ok none
    else .ok none
  | [] => .ok none

/-! ## The table -/

/-- What the loop over the lines keeps. -/
structure IrqScan where
  cpuColumn : Int
  headerDone : Bool
  offenders : List String

/-- One line of `/proc/interrupts`. -/
def scanLine (cpu : Int) (nicFilter : String) (scan : IrqScan) (line : String) : Cpp IrqScan :=
  if line.isEmpty then .ok scan
  else if !scan.headerDone then
    if contains line (cpuPrefix ++ "0") then do
      let column ← headerScan cpu (words line) (-1) scan.cpuColumn
      pure { scan with cpuColumn := column, headerDone := true }
    else .ok scan
  else do
    let offender ← rowOffender scan.cpuColumn nicFilter line
    pure { scan with offenders := scan.offenders ++ offender.toList }

/-- The reason of a failure: the first `MaxIrqsToShow` offenders and how many more. -/
def offendersText (offenders : List String) : String :=
  ", ".intercalate (offenders.take maxIrqsToShow) ++
    if offenders.length > maxIrqsToShow then
      ", +" ++ toString (offenders.length - maxIrqsToShow) ++ " more"
    else ""

/-- `NoUnrelatedIrqsOnRtCheck::Evaluate`. -/
def evaluate (ctx : CheckContext) (ds : DataSource) (_ : Host) : Cpp CheckResult :=
  match ctx.cpu with
  | none => .ok ⟨kind, .unknown, name, "no CPU subject"⟩
  | some cpu =>
    match ds.read "/proc/interrupts" with
    | none => .ok ⟨kind, .unknown, name, "cannot read /proc/interrupts"⟩
    | some content => do
      let scan ← (lines content).foldlM (scanLine cpu (ctx.nic.getD "")) ⟨-1, false, []⟩
      if scan.cpuColumn < 0 then pure ⟨kind, .unknown, name, "could not map CPU column"⟩
      else if scan.offenders.isEmpty then pure ⟨kind, .pass, name, "clean"⟩
      else pure ⟨kind, .fail, name, offendersText scan.offenders⟩

/-! ## What counts as an offender -/

/-- The count fields of a row and its label, from the words `>>` extracts
after its colon: the leading words of digits, and the text from the first
other word to the end of the line. -/
def splitCounts : List (String × String) → List String × Option String
  | [] => ([], none)
  | (token, rest) :: more =>
    if token.data.all Char.isDigit then Prod.map (token :: ·) id (splitCounts more)
    else ([], some (token ++ ⟨getlineRest rest.data⟩))

/-- The counts and label of a row: `none` unless, after white space, the row
starts with a digit and has a colon. -/
def rowFields (line : String) : Option (List String × Option String) :=
  match line.data.dropWhile isSpace with
  | c :: _ =>
    if c.isDigit then
      (charIndex ':' line.data).map fun colon => splitCounts (extractions ⟨line.data.drop (colon + 1)⟩)
    else none
  | [] => none

/-- A count as the check reads it: `std::stoll`, and `0` when that throws. -/
def countValue (token : String) : Int :=
  match stoll token with
  | .ok v => v
  | .fault _ => 0

/-- The count of a row in a column, `0` when the row has no such count. -/
def countAt (column : Nat) (counts : List String) : Int :=
  (counts[column]?.map countValue).getD 0

/-- A row that puts an unrelated IRQ on the RT core: a positive count in its
column, and no label or a label without the filter. -/
def Offends (column : Nat) (nicFilter row : String) : Prop :=
  ∃ counts label, rowFields row = some (counts, label) ∧ 0 < countAt column counts ∧
    ∀ l, label = some l → ¬ contains l nicFilter

/-- The entry a row adds to the offenders when its count at the RT core is `value`. -/
def offenderEntry (irqNumber nicFilter : String) (label : Option String) (value : Int) :
    Option String :=
  match label with
  | none => if value > 0 then some (irqNumber ++ " (unlabeled)") else none
  | some l => if value > 0 && !contains l nicFilter then some (irqNumber ++ " " ++ trim l) else none

theorem tryCatch_stoll (token : String) : Cpp.tryCatch (stoll token) (.ok 0) = .ok (countValue token) := by
  unfold countValue
  rcases convertInteger_cases int64Min int64Max token with ⟨v, hv, -⟩ | hv | hv <;>
    simp [stoll, hv, Cpp.tryCatch, Fault.isException]

/-- The scan of a row's words, from the `k`-th count on. -/
theorem columnScan_eq (column : Nat) (nicFilter irqNumber : String) (xs : List (String × String))
    (k : Nat) (v : Int) :
    columnScan column nicFilter irqNumber xs ((k : Int) - 1) v =
      .ok (offenderEntry irqNumber nicFilter (splitCounts xs).2
        (if k ≤ column then ((splitCounts xs).1[column - k]?.map countValue).getD v else v)) := by
  induction xs generalizing k v with
  | nil => simp [columnScan, splitCounts, offenderEntry]
  | cons x more ih =>
    obtain ⟨token, rest⟩ := x
    by_cases hdigits : token.data.all Char.isDigit
    · have hk : ((k : Int) - 1 + 1) = ((k + 1 : Nat) : Int) - 1 := by omega
      simp only [columnScan, hdigits, if_true, splitCounts, Prod.map]
      rw [hk]
      by_cases hkc : ((k + 1 : Nat) : Int) - 1 = (column : Int)
      · have hkc' : k = column := by omega
        simp only [if_pos hkc, tryCatch_stoll, Cpp.ok_bind, ih]
        subst hkc'
        simp only [le_refl, if_true, Nat.sub_self, List.getElem?_cons_zero, Option.map_some',
          Option.getD_some, Nat.not_succ_le_self, if_false, id]
      · simp only [hkc, if_false, Cpp.pure_eq, Cpp.ok_bind, ih]
        congr 2
        by_cases h1 : k + 1 ≤ column
        · have h2 : column - k = (column - (k + 1)) + 1 := by omega
          simp only [h1, show k ≤ column by omega, h2, if_true, List.getElem?_cons_succ]
        · have h3 : ¬ k ≤ column := by omega
          simp [h1, h3]
    · simp [columnScan, hdigits, splitCounts, offenderEntry]

/-- An offender entry exists exactly for a positive count whose row has no
label or a label without the filter. -/
theorem offenderEntry_isSome (irqNumber nicFilter : String) (label : Option String) (value : Int) :
    (offenderEntry irqNumber nicFilter label value).isSome ↔
      0 < value ∧ ∀ l, label = some l → ¬ contains l nicFilter := by
  cases label with
  | none => by_cases h : 0 < value <;> simp [offenderEntry, h]
  | some l => by_cases h : 0 < value <;> by_cases hc : contains l nicFilter <;> simp [offenderEntry, h, hc]

/-- A row adds an offender exactly when it `Offends`; its substrings are in bounds. -/
theorem rowOffender_spec (column : Nat) (nicFilter line : String) :
    ∃ o, rowOffender column nicFilter line = .ok o ∧ (o.isSome ↔ Offends column nicFilter line) := by
  have hsplit := List.takeWhile_append_dropWhile isSpace line.data
  have hlen := length_takeWhile_add_dropWhile isSpace line.data
  have hcolon : charIndex ':' line.data =
      (charIndex ':' (line.data.dropWhile isSpace)).map (· + (line.data.takeWhile isSpace).length) := by
    conv_lhs => rw [← hsplit]
    exact charIndex_append_of_not_mem _ fun h => by simpa [isSpace] using List.mem_takeWhile_imp h
  unfold rowOffender Offends rowFields
  simp only [drop_length_takeWhile, findChar, hcolon]
  cases hd : line.data.dropWhile isSpace with
  | nil => exact ⟨none, rfl, by simp⟩
  | cons c cs =>
    by_cases hc : c.isDigit
    · simp only [hc, if_true]
      cases hj : charIndex ':' (c :: cs) with
      | none => exact ⟨none, rfl, by simp⟩
      | some j =>
        have hj' := charIndex_lt_length hj
        rw [← hd] at hj'
        have hle : (line.data.takeWhile isSpace).length ≤ line.length := by
          simp only [String.length]; omega
        have hle' : j + (line.data.takeWhile isSpace).length + 1 ≤ line.length := by
          simp only [String.length]; omega
        simp only [Option.map_some', Nat.add_sub_cancel, substr_of_le _ hle, substrFrom_of_le hle',
          Cpp.ok_bind]
        have hscan := columnScan_eq column nicFilter
          ⟨(List.drop (line.data.takeWhile isSpace).length line.data).take j⟩
          (extractions ⟨line.data.drop (j + (line.data.takeWhile isSpace).length + 1)⟩) 0 0
        simp only [Nat.cast_zero, zero_sub, Nat.zero_le, if_true, Nat.sub_zero] at hscan
        refine ⟨_, hscan, ?_⟩
        rw [offenderEntry_isSome]
        exact ⟨fun ⟨h1, h2⟩ => ⟨_, _, rfl, h1, h2⟩, fun ⟨_, _, he, h1, h2⟩ => by
          rw [Option.some.inj he]; exact ⟨h1, h2⟩⟩
    · exact ⟨none, by simp [hc], by simp [hc]⟩

/-! ## The header names the column -/

/-- The CPUs a list of header words names, in order: the words that start
with `CPU`, without the prefix. -/
def headerNames (ws : List String) : List String :=
  (ws.filter (startsWith · cpuPrefix)).map fun w => ⟨w.data.drop cpuPrefix.length⟩

/-- `n` is the position of the last `a` in `l`. -/
def IsLastIndex {α : Type} (l : List α) (a : α) (n : Nat) : Prop :=
  l[n]? = some a ∧ a ∉ l.drop (n + 1)

instance {α : Type} [DecidableEq α] (l : List α) (a : α) (n : Nat) : Decidable (IsLastIndex l a n) :=
  inferInstanceAs (Decidable (_ ∧ _))

/-- The column of the RT core: the position of the last of the header's CPUs
that is `cpu`. -/
def IsCpuColumn (cpu : Int) (header : String) (column : Nat) : Prop :=
  IsLastIndex (headerNames (words header)) (toString cpu) column

instance (cpu : Int) (header : String) (column : Nat) : Decidable (IsCpuColumn cpu header column) :=
  inferInstanceAs (Decidable (IsLastIndex _ _ _))

theorem isLastIndex_cons_succ {α : Type} {a b : α} {l : List α} {n : Nat} :
    IsLastIndex (b :: l) a (n + 1) ↔ IsLastIndex l a n := by
  simp only [IsLastIndex, List.getElem?_cons_succ, List.drop_succ_cons]

theorem isLastIndex_cons_zero {α : Type} {a b : α} {l : List α} :
    IsLastIndex (b :: l) a 0 ↔ b = a ∧ a ∉ l := by
  simp [IsLastIndex]

theorem headerNames_cons (w : String) (rest : List String) :
    headerNames (w :: rest) =
      if startsWith w cpuPrefix then ⟨w.data.drop cpuPrefix.length⟩ :: headerNames rest
      else headerNames rest := by
  by_cases hw : startsWith w cpuPrefix <;> simp [headerNames, List.filter_cons, hw]

theorem headerScan_cons_of_startsWith {cpu : Int} {w : String} (rest : List String) (i c : Int)
    (hw : startsWith w cpuPrefix) :
    headerScan cpu (w :: rest) i c =
      headerScan cpu rest (i + 1)
        (if toString cpu = ⟨w.data.drop cpuPrefix.length⟩ then i + 1 else c) := by
  have hlen : cpuPrefix.length ≤ w.length := (startsWith_iff.mp hw).length_le
  simp only [headerScan, hw, if_true, substrFrom_of_le hlen, Cpp.ok_bind]

theorem headerScan_of_not_mem (cpu : Int) (ws : List String) (i c : Int)
    (h : toString cpu ∉ headerNames ws) : headerScan cpu ws i c = .ok c := by
  induction ws generalizing i c with
  | nil => rfl
  | cons w rest ih =>
    rw [headerNames_cons] at h
    by_cases hw : startsWith w cpuPrefix
    · simp only [hw, if_true, List.mem_cons, not_or] at h
      rw [headerScan_cons_of_startsWith rest i c hw, if_neg h.1]
      exact ih _ _ h.2
    · simp only [hw] at h
      simp only [headerScan, hw]
      exact ih _ _ h

theorem headerScan_of_isLastIndex (cpu : Int) (ws : List String) (i c : Int) (column : Nat)
    (h : IsLastIndex (headerNames ws) (toString cpu) column) :
    headerScan cpu ws i c = .ok (i + 1 + column) := by
  induction ws generalizing i c column with
  | nil => simp [IsLastIndex, headerNames] at h
  | cons w rest ih =>
    rw [headerNames_cons] at h
    by_cases hw : startsWith w cpuPrefix
    · rw [if_pos hw] at h
      rw [headerScan_cons_of_startsWith rest i c hw]
      cases column with
      | zero =>
        obtain ⟨hs, hnot⟩ := isLastIndex_cons_zero.mp h
        rw [if_pos hs.symm, headerScan_of_not_mem cpu rest _ _ hnot]
        simp
      | succ n =>
        rw [ih (i + 1) _ n (isLastIndex_cons_succ.mp h)]
        congr 1
        omega
    · rw [if_neg hw] at h
      simp only [headerScan, hw]
      exact ih i c column h

/-! ## The table -/

theorem scanLine_before (cpu : Int) (nicFilter line : String) (h : ¬ contains line "CPU0") :
    scanLine cpu nicFilter ⟨-1, false, []⟩ line = .ok ⟨-1, false, []⟩ := by
  unfold scanLine
  split
  · rfl
  · simp [show cpuPrefix ++ "0" = "CPU0" from rfl, h]

theorem foldlM_scanLine_before (cpu : Int) (nicFilter : String) (before : List String)
    (h : ∀ line ∈ before, ¬ contains line "CPU0") :
    before.foldlM (scanLine cpu nicFilter) ⟨-1, false, []⟩ = .ok ⟨-1, false, []⟩ := by
  induction before with
  | nil => rfl
  | cons line rest ih =>
    rw [List.foldlM_cons, scanLine_before cpu nicFilter line (h line (List.mem_cons_self _ _)),
      Cpp.ok_bind, ih fun l hl => h l (List.mem_cons_of_mem _ hl)]

theorem scanLine_header (cpu : Int) (nicFilter header : String) (column : Nat)
    (hheader : contains header "CPU0") (hcolumn : IsCpuColumn cpu header column) :
    scanLine cpu nicFilter ⟨-1, false, []⟩ header = .ok ⟨column, true, []⟩ := by
  have hne : header.isEmpty = false := by
    rw [Bool.eq_false_iff, ne_eq, String.isEmpty_iff]
    rintro rfl
    exact absurd hheader (by decide)
  simp only [scanLine, hne, show cpuPrefix ++ "0" = "CPU0" from rfl, hheader,
    headerScan_of_isLastIndex cpu _ (-1) (-1) column hcolumn]
  simp

theorem scanLine_row (cpu : Int) (nicFilter row : String) (column : Nat) (acc : List String) :
    ∃ o : Option String, scanLine cpu nicFilter ⟨column, true, acc⟩ row = .ok ⟨column, true, acc ++ o.toList⟩ ∧
      (o.isSome ↔ Offends column nicFilter row) := by
  obtain ⟨o, ho, hiff⟩ := rowOffender_spec column nicFilter row
  by_cases he : row.isEmpty
  · obtain rfl := (String.isEmpty_iff row).mp he
    obtain rfl : none = o := Cpp.ok.inj ho
    exact ⟨none, by simp [scanLine, he], hiff⟩
  · exact ⟨o, by simp [scanLine, he, ho], hiff⟩

theorem foldlM_scanLine_rows (cpu : Int) (nicFilter : String) (column : Nat) (rows : List String) :
    ∀ acc : List String, ∃ offenders,
      rows.foldlM (scanLine cpu nicFilter) ⟨column, true, acc⟩ = .ok ⟨column, true, acc ++ offenders⟩ ∧
        (offenders = [] ↔ ∀ row ∈ rows, ¬ Offends column nicFilter row) := by
  induction rows with
  | nil => exact fun acc => ⟨[], by simp, by simp⟩
  | cons row rest ih =>
    intro acc
    obtain ⟨o, ho, hiff⟩ := scanLine_row cpu nicFilter row column acc
    obtain ⟨offs, hoffs, hoffs_iff⟩ := ih (acc ++ o.toList)
    refine ⟨o.toList ++ offs, by rw [List.foldlM_cons, ho, Cpp.ok_bind, hoffs]; simp, ?_⟩
    rw [List.append_eq_nil, hoffs_iff, List.forall_mem_cons, ← hiff]
    cases o <;> simp

/-- The check passes exactly when no row after the header offends, and fails
exactly when one does. -/
theorem evaluate_offenders (cpu : Int) (nic : Option String) (ds : DataSource) (host : Host)
    {content header : String} {before rows : List String} {column : Nat}
    (hread : ds.read "/proc/interrupts" = some content)
    (hlines : lines content = before ++ header :: rows)
    (hbefore : ∀ line ∈ before, ¬ contains line "CPU0")
    (hheader : contains header "CPU0")
    (hcolumn : IsCpuColumn cpu header column) :
    ∃ r, evaluate ⟨some cpu, nic⟩ ds host = .ok r ∧
      (r.status = .pass ↔ ∀ row ∈ rows, ¬ Offends column (nic.getD "") row) ∧
      (r.status = .fail ↔ ∃ row ∈ rows, Offends column (nic.getD "") row) := by
  obtain ⟨offs, hoffs, hiff⟩ := foldlM_scanLine_rows cpu (nic.getD "") column rows []
  have hfold : (lines content).foldlM (scanLine cpu (nic.getD "")) ⟨-1, false, []⟩ =
      .ok ⟨column, true, offs⟩ := by
    rw [hlines, List.foldlM_append, foldlM_scanLine_before cpu _ before hbefore, Cpp.ok_bind,
      List.foldlM_cons, scanLine_header cpu _ header column hheader hcolumn, Cpp.ok_bind, hoffs]
    simp
  simp only [evaluate, hread, hfold, Cpp.ok_bind]
  have hcol : ¬ ((column : Int) < 0) := by omega
  by_cases hnil : offs = []
  · refine ⟨⟨kind, .pass, name, "clean"⟩, by simp [hcol, hnil], iff_of_true rfl (hiff.mp hnil),
      iff_of_false (by simp) ?_⟩
    rintro ⟨row, hrow, hoff⟩
    exact hiff.mp hnil row hrow hoff
  · have hsome : ∃ row ∈ rows, Offends column (nic.getD "") row := by
      by_contra hno
      push_neg at hno
      exact hnil (hiff.mpr hno)
    exact ⟨⟨kind, .fail, name, offendersText offs⟩, by simp [hcol, hnil],
      iff_of_false (by simp) fun h => hnil (hiff.mpr h), iff_of_true rfl hsome⟩

theorem evaluate_offenders_timer :
    let ds : DataSource := ⟨fun _ => some "CPU0 CPU1\n5: 0 7 timer", fun _ => none⟩
    ds.read "/proc/interrupts" = some "CPU0 CPU1\n5: 0 7 timer" ∧
    lines "CPU0 CPU1\n5: 0 7 timer" = [] ++ "CPU0 CPU1" :: ["5: 0 7 timer"] ∧
    contains "CPU0 CPU1" "CPU0" ∧ IsCpuColumn 1 "CPU0 CPU1" 1 ∧
    ∃ r, evaluate ⟨some 1, some "eth0"⟩ ds ⟨none, none, fun _ => false, fun _ => ⟨[], false⟩⟩ = .ok r ∧
      (r.status = .pass ↔ ∀ row ∈ ["5: 0 7 timer"], ¬ Offends 1 "eth0" row) ∧
      (r.status = .fail ↔ ∃ row ∈ ["5: 0 7 timer"], Offends 1 "eth0" row) :=
  have hlines : lines "CPU0 CPU1\n5: 0 7 timer" = [] ++ "CPU0 CPU1" :: ["5: 0 7 timer"] := by decide
  have hheader : contains "CPU0 CPU1" "CPU0" := by decide
  have hcolumn : IsCpuColumn 1 "CPU0 CPU1" 1 := by decide
  ⟨rfl, hlines, hheader, hcolumn, evaluate_offenders 1 (some "eth0") _ _ rfl hlines
    (fun _ h => nomatch h) hheader hcolumn⟩

/-- Without a NIC the row of IRQ 5, labelled `timer` and counting `7` on
CPU 1, is no offender: the check passes. -/
theorem evaluate_timer_without_nic :
    evaluate ⟨some 1, none⟩ ⟨fun _ => some "CPU0 CPU1\n5: 0 7 timer", fun _ => none⟩
        ⟨none, none, fun _ => false, fun _ => ⟨[], false⟩⟩ = .ok ⟨kind, .pass, name, "clean"⟩ ∧
      rowFields "5: 0 7 timer" = some (["0", "7"], some "timer") ∧ 0 < countAt 1 ["0", "7"] := by
  decide

/-! ## Every result names the check -/

theorem evaluate_isOf (ctx : CheckContext) (ds : DataSource) (host : Host) :
    Cpp.Returns (CheckResult.IsOf kind name) (evaluate ctx ds host) := by
  simp only [evaluate]
  repeat' split
  all_goals simp [Cpp.returns_bind_iff, Cpp.returns_ite]

end NoUnrelatedIrqsOnRtCheck

/-! ## `NicIrqsPinnedCheck` -/

namespace NicIrqsPinnedCheck

def kind : CheckKind := .nicIrqsPinned

def name : String := "NIC IRQs pinned to RT core"

/-- The IRQ number of a line that mentions the NIC, if the line has one. -/
def nicIrq (nic line : String) : Cpp (Option Int) :=
  if !contains line nic then .ok none
  else
    let pos := (line.data.takeWhile isSpace).length
    match line.data.drop pos with
    | c :: _ =>
      if c.isDigit then
        match findChar line ':' pos with
        | some colon =>
          Cpp.tryCatch (substr line pos (colon - pos) >>= stoi >>= fun irq => .ok (some irq))
            (.ok none)
        | none => .ok none
      else .ok none
    | [] => .ok none

/-- The IRQs of the NIC, in the order of the table. -/
def nicIrqs (nic : String) : List String → Cpp (List Int)
  | [] => .ok []
  | line :: rest => do
    let irq ← nicIrq nic line
    let irqs ← nicIrqs nic rest
    pure (irq.toList ++ irqs)

/-- The loop over the NIC's IRQs: the ones whose affinity is not exactly the
RT core, or the result of an affinity that cannot be read. -/
def badIrqs (cpu : Int) (ds : DataSource) : List Int → Cpp (Sum CheckResult (List Int))
  | [] => .ok (.inr [])
  | irq :: rest =>
    match ds.read ("/proc/irq/" ++ toString irq ++ "/smp_affinity_list") with
    | none => .ok (.inl ⟨kind, .unknown, name,
        "cannot read smp_affinity_list for IRQ " ++ toString irq⟩)
    | some value => do
      let set ← parseCpuList value
      let bad := !(set.card = 1 && cpu ∈ set)
      match ← badIrqs cpu ds rest with
      | .inl result => pure (.inl result)
      | .inr others => pure (.inr (if bad then irq :: others else others))

/-- `NicIrqsPinnedCheck::Evaluate`. -/
def evaluate (ctx : CheckContext) (ds : DataSource) (_ : Host) : Cpp CheckResult :=
  match ctx.cpu, ctx.nic with
  | none, _ => .ok ⟨kind, .unknown, name, "no CPU subject"⟩
  | some _, none => .ok ⟨kind, .unknown, name, "no NIC in context"⟩
  | some cpu, some nic =>
    if !nicExists ds nic then .ok ⟨kind, .unknown, name, "NIC not found"⟩
    else
      match ds.read "/proc/interrupts" with
      | none => .ok ⟨kind, .unknown, name, "cannot read /proc/interrupts"⟩
      | some content => do
        let irqs ← nicIrqs nic (lines content)
        if irqs.isEmpty then pure ⟨kind, .unknown, name, "no NIC IRQs seen"⟩
        else
          match ← badIrqs cpu ds irqs with
          | .inl result => pure result
          | .inr [] => pure ⟨kind, .pass, name, "all pinned to CPU" ++ toString cpu⟩
          | .inr bad => pure ⟨kind, .fail, name, "not pinned: " ++ ",".intercalate (bad.map toString)⟩

/-- A result the loop over the IRQs returns names the check. -/
theorem badIrqs_isOf (cpu : Int) (ds : DataSource) (irqs : List Int) :
    Cpp.Returns (InlIsOf kind name) (badIrqs cpu ds irqs) := by
  induction irqs with
  | nil => simp [badIrqs]
  | cons irq rest ih =>
    simp only [badIrqs]
    split
    · simp
    · refine Cpp.returns_bind fun _ => Cpp.Returns.bind ih fun s hs => ?_
      split
      · simpa using hs _ rfl
      · simp

theorem evaluate_isOf (ctx : CheckContext) (ds : DataSource) (host : Host) :
    Cpp.Returns (CheckResult.IsOf kind name) (evaluate ctx ds host) := by
  simp only [evaluate]
  repeat' split
  all_goals try simp
  refine Cpp.returns_bind fun _ => ?_
  split
  · simp
  · refine Cpp.Returns.bind (badIrqs_isOf _ _ _) fun s hs => ?_
    split
    · exact Cpp.returns_ok.mpr (hs _ rfl)
    all_goals simp

/-! ### What the check decides -/

/-- The IRQ number of a table line: the digits its first non-blank text starts
with, when a ':' follows somewhere after them and the number fits an int. -/
def lineIrq (line : String) : Option Int :=
  let rest := line.data.dropWhile isSpace
  let digits := rest.takeWhile Char.isDigit
  if digits ≠ [] ∧ ':' ∈ rest ∧ (digitsValue digits : Int) ≤ intMax then some (digitsValue digits)
  else none

/-- The NIC's IRQs: those of the lines that mention the NIC's name anywhere,
in the order of the table. -/
def nicIrqsOf (nic : String) (table : List String) : List Int :=
  (table.filter (contains · nic)).filterMap lineIrq

/-- The scan of one line never fails: the conversions it makes are caught. -/
theorem nicIrq_eq (nic line : String) :
    nicIrq nic line = .ok (if contains line nic then lineIrq line else none) := by
  unfold nicIrq lineIrq
  cases contains line nic
  · rfl
  simp only [Bool.not_true, Bool.false_eq_true, if_false, if_true, drop_length_takeWhile]
  have hpos : (line.data.takeWhile isSpace).length ≤ line.length := (List.takeWhile_sublist _).length_le
  generalize hrest : line.data.dropWhile isSpace = rest
  match rest with
  | [] => simp
  | c :: cs =>
    by_cases hc : c.isDigit
    · simp only [hc, if_true, findChar, drop_length_takeWhile, hrest]
      cases hcolon : charIndex ':' (c :: cs) with
      | none => simp [charIndex_eq_none_iff.mp hcolon]
      | some i =>
        obtain ⟨pre, post, hsplit, -, rfl⟩ := charIndex_eq_some_iff.mp hcolon
        obtain ⟨p, rfl⟩ : ∃ p, pre = c :: p := by
          cases pre with
          | nil => cases hsplit; exact absurd hc (by decide)
          | cons d p => cases hsplit; exact ⟨p, rfl⟩
        have hds : (c :: p).takeWhile Char.isDigit ≠ [] := by simp [List.takeWhile_cons, hc]
        rw [hsplit, takeWhile_append_cons_of_false _ _ (by decide)]
        simp only [Option.map_some', Nat.add_sub_cancel, substr_of_le _ hpos, Cpp.ok_bind,
          drop_length_takeWhile, hrest, hsplit, List.take_left', stoi]
        rw [tryCatch_convertInteger, convertInteger, scanInteger_of_isDigit hc]
        have hmin : intMin ≤ (digitsValue ((c :: p).takeWhile Char.isDigit) : Int) := by
          unfold intMin; omega
        generalize (digitsValue ((c :: p).takeWhile Char.isDigit) : Int) = v at hmin ⊢
        by_cases hmax : v ≤ intMax <;> simp [hds, hmin, hmax]
    · simp [List.takeWhile_cons, hc]

theorem nicIrqs_eq (nic : String) (table : List String) : nicIrqs nic table = .ok (nicIrqsOf nic table) := by
  induction table with
  | nil => rfl
  | cons line rest ih =>
    simp only [nicIrqs, nicIrq_eq, ih, Cpp.ok_bind]
    by_cases h : contains line nic <;> cases hl : lineIrq line <;> simp [nicIrqsOf, List.filter_cons, h, hl]

/-- The affinity list of an IRQ can be read, and `ParseCpuList` is defined on it. -/
def affinityReadable (ds : DataSource) (irq : Int) : Bool :=
  match ds.read ("/proc/irq/" ++ toString irq ++ "/smp_affinity_list") with
  | some value => !decide (RangeToIntMax value)
  | none => false

/-- An IRQ whose affinity is anything but exactly the RT core. -/
def notPinned (cpu : Int) (ds : DataSource) (irq : Int) : Bool :=
  match ds.read ("/proc/irq/" ++ toString irq ++ "/smp_affinity_list") with
  | some value => decide (cpuList value ≠ {cpu})
  | none => true

/-- The loop's test for a pinned IRQ: one CPU in the set, and it is the RT core. -/
theorem card_eq_one_and_mem (s : Finset Int) (cpu : Int) :
    (decide (s.card = 1) && decide (cpu ∈ s)) = decide (s = {cpu}) := by
  rw [← Bool.decide_and, decide_eq_decide]
  constructor
  · rintro ⟨hcard, hmem⟩
    obtain ⟨a, rfl⟩ := Finset.card_eq_one.mp hcard
    rw [Finset.mem_singleton.mp hmem]
  · rintro rfl; simp

/-- The loop over the NIC's IRQs stops at the first one whose affinity cannot be
read or parsed; when there is none it returns the IRQs not pinned, in order. -/
theorem badIrqs_eq (cpu : Int) (ds : DataSource) (irqs : List Int) :
    badIrqs cpu ds irqs =
      match irqs.find? (fun irq => !affinityReadable ds irq) with
      | none => .ok (.inr (irqs.filter (notPinned cpu ds)))
      | some irq =>
        if ds.read ("/proc/irq/" ++ toString irq ++ "/smp_affinity_list") = none then
          .ok (.inl ⟨kind, .unknown, name, "cannot read smp_affinity_list for IRQ " ++ toString irq⟩)
        else .fault .undefinedBehaviour := by
  induction irqs with
  | nil => rfl
  | cons irq rest ih =>
    simp only [badIrqs]
    cases hr : ds.read ("/proc/irq/" ++ toString irq ++ "/smp_affinity_list") with
    | none => simp [affinityReadable, hr]
    | some value =>
      have hread : affinityReadable ds irq = !decide (RangeToIntMax value) := by
        simp only [affinityReadable, hr]
      have hpin : notPinned cpu ds irq = decide (cpuList value ≠ {cpu}) := by simp only [notPinned, hr]
      dsimp only
      rw [parseCpuList_eq]
      by_cases hbad : RangeToIntMax value
      · simp [List.find?_cons, hread, hbad, hr]
      · simp only [List.find?_cons, hread, hbad, decide_False, Bool.not_false, Bool.not_true, if_false,
          Cpp.ok_bind, ih]
        rcases rest.find? (fun irq => !affinityReadable ds irq) with _ | irq'
        · simp only [card_eq_one_and_mem]
          simp [List.filter_cons, hpin]
        · dsimp only; split_ifs <;> rfl

/-- What the check decides once the NIC exists and the table can be read: Unknown
without NIC IRQs, then the first IRQ whose affinity cannot be read or parsed, and
otherwise Pass exactly when every IRQ is pinned to the RT core alone, with the
others listed in table order. -/
theorem evaluate_nicIrqs (cpu : Int) (nic content : String) (ds : DataSource) (host : Host)
    (hnic : nicExists ds nic = true) (hread : ds.read "/proc/interrupts" = some content) :
    evaluate ⟨some cpu, some nic⟩ ds host =
      if nicIrqsOf nic (lines content) = [] then .ok ⟨kind, .unknown, name, "no NIC IRQs seen"⟩
      else match (nicIrqsOf nic (lines content)).find? (fun irq => !affinityReadable ds irq) with
        | some irq =>
          if ds.read ("/proc/irq/" ++ toString irq ++ "/smp_affinity_list") = none then
            .ok ⟨kind, .unknown, name, "cannot read smp_affinity_list for IRQ " ++ toString irq⟩
          else .fault .undefinedBehaviour
        | none =>
          if (nicIrqsOf nic (lines content)).filter (notPinned cpu ds) = [] then
            .ok ⟨kind, .pass, name, "all pinned to CPU" ++ toString cpu⟩
          else .ok ⟨kind, .fail, name, "not pinned: " ++ ",".intercalate
            (((nicIrqsOf nic (lines content)).filter (notPinned cpu ds)).map toString)⟩ := by
  simp only [evaluate, hnic, Bool.not_true, Bool.false_eq_true, if_false, hread, nicIrqs_eq, Cpp.ok_bind,
    List.isEmpty_iff]
  by_cases hnone : nicIrqsOf nic (lines content) = []
  · simp only [hnone, if_true]; rfl
  · simp only [hnone, if_false, badIrqs_eq]
    rcases (nicIrqsOf nic (lines content)).find? (fun irq => !affinityReadable ds irq) with _ | irq
    · simp only [Cpp.ok_bind]
      generalize (nicIrqsOf nic (lines content)).filter (notPinned cpu ds) = bad
      cases bad <;> rfl
    · dsimp only; split_ifs <;> rfl

/-- IRQ 24 is pinned to CPU 1; IRQ 25 may also run on CPU 0. -/
theorem evaluate_eth0_irqs :
    evaluate ⟨some 1, some "eth0"⟩
        ⟨fun p => if p = "/proc/interrupts" then some " 24: 0 PCI eth0-rx\n 25: 0 PCI eth0-tx"
          else if p = "/proc/irq/24/smp_affinity_list" then some "1" else some "0-1", fun _ => none⟩
        ⟨none, none, fun _ => false, fun _ => ⟨[], false⟩⟩ =
      .ok ⟨kind, .fail, name, "not pinned: 25"⟩ := by
  rw [evaluate_nicIrqs 1 "eth0" _ _ _ (by decide) rfl]
  decide

end NicIrqsPinnedCheck

end RmpEval
