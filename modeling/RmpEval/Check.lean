import RmpEval.Text

/-!
# Checks, their results and what they read

A check is a function object with a kind, a name, a domain and `Evaluate`.
`Evaluate` reads its subject from a `CheckContext` and the host through an
`IDataSource`, whose two operations are `Read(path)` and `CmdLineParam(key)`.

The data source is not everything a check reads.  `PreemptRTActiveCheck`
calls `uname()`, `NicQuietCheck` calls `getifaddrs()`, and `RpsDisabledCheck`
asks the file system whether a directory exists and lists it.  `Host` holds
those answers, so that `Check.evaluate` is a function of the context, the data
source and the host together, and `Catalog` can say which checks read the host
at all.

A directory listing is what `fs::directory_iterator` yields: entries whose
`is_directory()` can throw, and possibly an increment that fails after the last
entry listed, which throws `std::filesystem::filesystem_error`.
-/

namespace RmpEval

/-! ## Results -/

/-- The three-valued outcome of a check. -/
inductive Status where
  | pass
  | fail
  | unknown
deriving DecidableEq, Repr

/-- The stable identity of each check. -/
inductive CheckKind where
  | preemptRTActive
  | swapDisabled
  | timerMigration
  | rtThrottlingDisabled
  | clocksourceStable
  | coreIsolated
  | nohzFull
  | rcuNoCbs
  | cpuGovernor
  | cpuFrequency
  | irqAffinityDefaultAvoidsRt
  | noUnrelatedIrqsOnRt
  | smtSiblingIsolated
  | deepCStatesCapped
  | turboBoostPolicy
  | nicPresent
  | nicLinkUp
  | nicIrqsPinned
  | rpsDisabled
  | nicQuiet
deriving DecidableEq, Repr

/-- What a check is grouped under in the report. -/
inductive Domain where
  | system
  | cpu
  | nic
deriving DecidableEq, Repr

/-- `CheckResult`: the kind of the check that made it, a status, the check's
name and one phrase of reason. -/
structure CheckResult where
  kind : CheckKind
  status : Status
  name : String
  reason : String
deriving DecidableEq, Repr

/-! ## What a check reads -/

/-- `CheckContext`: the RT core and the NIC under audit, each optional. -/
structure CheckContext where
  cpu : Option Int
  nic : Option String
deriving DecidableEq, Repr

/-- `IDataSource`: `Read(path)` and `CmdLineParam(key)`, `none` when the file
or the parameter is not there. -/
structure DataSource where
  read : String → Option String
  cmdLineParam : String → Option String

/-- The fields of `struct utsname` the checks read. -/
structure Utsname where
  release : String
  version : String
deriving DecidableEq, Repr

/-- The address family of an interface address, as far as the checks tell them apart. -/
inductive AddressFamily where
  | inet
  | inet6
  | other
deriving DecidableEq, Repr

/-- One node of the list `getifaddrs()` returns: `ifa_name` and the family of
`ifa_addr`, `none` where the pointer is null. -/
structure InterfaceAddress where
  name : Option String
  family : Option AddressFamily
deriving DecidableEq, Repr

/-- One entry of a directory: its file name and what `is_directory()` says,
`none` when the status query fails and `is_directory()` throws. -/
structure DirectoryEntry where
  filename : String
  isDirectory : Option Bool
deriving DecidableEq, Repr

/-- What iterating a directory yields: the entries, and whether the increment
after the last of them fails. -/
structure DirectoryListing where
  entries : List DirectoryEntry
  failsAfter : Bool
deriving DecidableEq, Repr

/-- The state of the host that checks read outside the data source. -/
structure Host where
  /-- `uname()`, `none` when it fails. -/
  uname : Option Utsname
  /-- `getifaddrs()`, `none` when it fails. -/
  interfaceAddresses : Option (List InterfaceAddress)
  /-- `fs::exists(path, error_code)`. -/
  pathExists : String → Bool
  /-- `fs::directory_iterator(path, error_code)`. -/
  directory : String → DirectoryListing

/-- `ICheck`: a check of the catalog. -/
structure Check where
  kind : CheckKind
  name : String
  domain : Domain
  evaluate : CheckContext → DataSource → Host → Cpp CheckResult

/-- The result names the check of `kind` called `name`: every result a check
returns carries the check's own kind and name. -/
def CheckResult.IsOf (kind : CheckKind) (name : String) (r : CheckResult) : Prop :=
  r.kind = kind ∧ r.name = name

@[simp] theorem CheckResult.isOf_mk {kind kind' : CheckKind} {name name' reason : String}
    {status : Status} : CheckResult.IsOf kind name ⟨kind', status, name', reason⟩ ↔
      kind' = kind ∧ name' = name := Iff.rfl

/-- Every result of `c` names `c`. -/
def Check.Labelled (c : Check) : Prop :=
  ∀ ctx ds host, Cpp.Returns (CheckResult.IsOf c.kind c.name) (c.evaluate ctx ds host)

/-- A loop whose value `.inl` is the result its check returns from inside it:
that result names the check. -/
def InlIsOf {β : Type} (kind : CheckKind) (name : String) (s : Sum CheckResult β) : Prop :=
  ∀ r, s = .inl r → r.IsOf kind name

@[simp] theorem inlIsOf_inl {β : Type} {kind : CheckKind} {name : String} {r : CheckResult} :
    InlIsOf kind name (.inl r : Sum CheckResult β) ↔ r.IsOf kind name := by simp [InlIsOf]

@[simp] theorem inlIsOf_inr {β : Type} {kind : CheckKind} {name : String} {b : β} :
    InlIsOf kind name (.inr b : Sum CheckResult β) := by simp [InlIsOf]

/-! ## Helpers the checks share -/

/-- `std::vector::operator[]`: reading past the end is undefined. -/
def vectorAt {α : Type} (v : List α) (i : Nat) : Cpp α :=
  if h : i < v.length then .ok v[i] else .fault .undefinedBehaviour

theorem vectorAt_of_lt {α : Type} {v : List α} {i : Nat} (h : i < v.length) :
    vectorAt v i = .ok v[i] := dif_pos h

/-- `raw.empty() ? "(empty)" : raw`. -/
def orEmpty (raw : String) : String := if raw.isEmpty then "(empty)" else raw

/-- `fs::path` `/` on POSIX paths: an absolute right side replaces the left,
and a separator is added after a left side that has a file name. -/
def pathJoin (dir name : String) : String :=
  if startsWith name "/" then name
  else if dir.isEmpty || dir.data.getLast? = some '/' then dir ++ name
  else dir ++ "/" ++ name

/-- The checks that read one file and pass when its trimmed value is
`expected`: `TimerMigrationCheck`, `RtThrottlingCheck`, and `CpuGovernorCheck`
for its CPU.  The reason is `label` and the value read. -/
def expectValue (kind : CheckKind) (name path expected label unreadable : String)
    (ds : DataSource) : CheckResult :=
  match ds.read path with
  | none => ⟨kind, .unknown, name, unreadable⟩
  | some raw =>
    let value := trim raw
    if value = expected then ⟨kind, .pass, name, label ++ value⟩
    else ⟨kind, .fail, name, label ++ value⟩

theorem expectValue_isOf (kind : CheckKind) (name path expected label unreadable : String)
    (ds : DataSource) : (expectValue kind name path expected label unreadable ds).IsOf kind name := by
  unfold expectValue
  split
  · simp
  · dsimp only
    split <;> simp

/-- `NicExists`: one of `operstate`, `carrier`, `address` of the interface is readable. -/
def nicExists (ds : DataSource) (nic : String) : Bool :=
  (ds.read ("/sys/class/net/" ++ nic ++ "/operstate")).isSome ||
    (ds.read ("/sys/class/net/" ++ nic ++ "/carrier")).isSome ||
    (ds.read ("/sys/class/net/" ++ nic ++ "/address")).isSome

end RmpEval
