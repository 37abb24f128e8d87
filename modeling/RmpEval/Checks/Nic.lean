import RmpEval.Check

/-!
# The checks of the NIC

Every check here starts from the context's NIC and `NicExists`.
`NicLinkUpCheck` falls through from `operstate` to `carrier`.  The other two
read the host beside the data source.  `RpsDisabledCheck` asks whether
`/sys/class/net/<nic>/queues` exists and iterates it.  `NicQuietCheck` counts
the NIC's addresses in the list `getifaddrs()` returns.

`NicQuietCheck` also looks for a default route through the NIC in the two
route tables.  The IPv4 table has a header line; every later line starts with
the interface and the destination in hexadecimal.  The IPv6 table has no
header; its lines carry ten fields: the destination and its prefix length,
the source and its prefix length, the next hop, the metric, three counters
and last the device.  The kernel writes a prefix length as two hexadecimal
digits, so a default route has prefix length `00`.  The check compares that
field with `0` and `00000000`, so `defaultRouteV6ViaNic` is `false` on every
default route the kernel writes.
-/

namespace RmpEval

/-! ## `NicPresenceCheck` -/

namespace NicPresenceCheck

def kind : CheckKind := .nicPresent

def name : String := "NIC interface present"

/-- `NicPresenceCheck::Evaluate`. -/
def evaluate (ctx : CheckContext) (ds : DataSource) (_ : Host) : Cpp CheckResult :=
  match ctx.nic with
  | none => .ok ⟨kind, .unknown, name, "no NIC in context"⟩
  | some nic =>
    if nicExists ds nic then .ok ⟨kind, .pass, name, "exists"⟩
    else .ok ⟨kind, .unknown, name, "interface not found"⟩

theorem evaluate_isOf (ctx : CheckContext) (ds : DataSource) (host : Host) :
    Cpp.Returns (CheckResult.IsOf kind name) (evaluate ctx ds host) := by
  simp only [evaluate]
  repeat' split
  all_goals exact Cpp.returns_ok.mpr ⟨rfl, rfl⟩

end NicPresenceCheck

/-! ## `NicLinkUpCheck` -/

namespace NicLinkUpCheck

def kind : CheckKind := .nicLinkUp

def name : String := "NIC link is UP"

/-- `NicLinkUpCheck::Evaluate`: `operstate` decides unless it is unreadable
or blank, then `carrier`. -/
def evaluate (ctx : CheckContext) (ds : DataSource) (_ : Host) : Cpp CheckResult :=
  match ctx.nic with
  | none => .ok ⟨kind, .unknown, name, "no NIC in context"⟩
  | some nic =>
    if !nicExists ds nic then .ok ⟨kind, .unknown, name, "NIC not found"⟩
    else
      let carrier : CheckResult :=
        match ds.read ("/sys/class/net/" ++ nic ++ "/carrier") with
        | some car =>
          let v := trim car
          if v = "1" then ⟨kind, .pass, name, "carrier=1"⟩
          else if v = "0" then ⟨kind, .fail, name, "carrier=0"⟩
          else ⟨kind, .unknown, name, "no operstate/carrier"⟩
        | none => ⟨kind, .unknown, name, "no operstate/carrier"⟩
      match ds.read ("/sys/class/net/" ++ nic ++ "/operstate") with
      | some oper =>
        let v := trim oper
        if v = "up" then .ok ⟨kind, .pass, name, "operstate=up"⟩
        else if !v.isEmpty then .ok ⟨kind, .fail, name, "operstate=" ++ v⟩
        else .ok carrier
      | none => .ok carrier

theorem evaluate_isOf (ctx : CheckContext) (ds : DataSource) (host : Host) :
    Cpp.Returns (CheckResult.IsOf kind name) (evaluate ctx ds host) := by
  rcases ctx with ⟨_, _ | nic⟩
  · exact Cpp.returns_ok.mpr ⟨rfl, rfl⟩
  simp only [evaluate]
  repeat' split
  all_goals exact Cpp.returns_ok.mpr ⟨rfl, rfl⟩

end NicLinkUpCheck

/-! ## `RpsDisabledCheck` -/

namespace RpsDisabledCheck

def kind : CheckKind := .rpsDisabled

def name : String := "RPS disabled on NIC"

/-- `fs::path("/sys/class/net") / nic / "queues"`. -/
def queueDirectory (nic : String) : String := pathJoin (pathJoin "/sys/class/net" nic) "queues"

/-- `all_zero_mask`: `none` when the file cannot be read, otherwise whether
every character of the trimmed value is `0` or a separator. -/
def allZeroMask (ds : DataSource) (path : String) : Option Bool :=
  (ds.read path).map fun content =>
    let value := trim content
    value.isEmpty || value.data.all fun c => c == ',' || c == '\n' || c == ' ' || c == '\t' || c == '0'

/-- What the loop over the queue directory keeps: whether some mask is not
zero, and how many receive queues were checked. -/
structure QueueScan where
  anyBad : Bool
  checked : Nat
deriving DecidableEq, Repr

/-- The loop over the entries of the queue directory `dir`; `.inl` is the
result returned from inside the loop.  `is_directory()` throws when it
cannot tell. -/
def scanQueues (ds : DataSource) (dir : String) :
    List DirectoryEntry → QueueScan → Cpp (Sum CheckResult QueueScan)
  | [], scan => .ok (.inr scan)
  | entry :: rest, scan =>
    match entry.isDirectory with
    | none => .fault .filesystemError
    | some false => scanQueues ds dir rest scan
    | some true =>
      if startsWith entry.filename "rx-" then
        let path := pathJoin (pathJoin dir entry.filename) "rps_cpus"
        match allZeroMask ds path with
        | none => .ok (.inl ⟨kind, .unknown, name, "cannot read " ++ path⟩)
        | some zero => scanQueues ds dir rest ⟨scan.anyBad || !zero, scan.checked + 1⟩
      else scanQueues ds dir rest scan

/-- `RpsDisabledCheck::Evaluate`.  A listing whose last increment fails
throws once its entries are done. -/
def evaluate (ctx : CheckContext) (ds : DataSource) (host : Host) : Cpp CheckResult :=
  match ctx.nic with
  | none => .ok ⟨kind, .unknown, name, "no NIC in context"⟩
  | some nic =>
    if !nicExists ds nic then .ok ⟨kind, .unknown, name, "NIC not found"⟩
    else if !host.pathExists (queueDirectory nic) then .ok ⟨kind, .unknown, name, "no queues dir"⟩
    else do
      let listing := host.directory (queueDirectory nic)
      match ← scanQueues ds (queueDirectory nic) listing.entries ⟨false, 0⟩ with
      | .inl result => pure result
      | .inr scan =>
        if listing.failsAfter then .fault .filesystemError
        else if scan.checked = 0 then pure ⟨kind, .unknown, name, "no rx/tx queues found"⟩
        else if !scan.anyBad then pure ⟨kind, .pass, name, "all zero masks"⟩
        else pure ⟨kind, .fail, name, "non-zero masks present"⟩

/-- A result the loop over the queues returns names the check. -/
theorem scanQueues_isOf (ds : DataSource) (dir : String) (entries : List DirectoryEntry)
    (scan : QueueScan) : Cpp.Returns (InlIsOf kind name) (scanQueues ds dir entries scan) := by
  induction entries generalizing scan with
  | nil => simp [scanQueues]
  | cons entry rest ih =>
    simp only [scanQueues]
    repeat' split
    all_goals simp [ih]

theorem evaluate_isOf (ctx : CheckContext) (ds : DataSource) (host : Host) :
    Cpp.Returns (CheckResult.IsOf kind name) (evaluate ctx ds host) := by
  simp only [evaluate]
  split
  · simp
  · split
    · simp
    · split
      · simp
      · refine Cpp.Returns.bind (scanQueues_isOf _ _ _ _) fun s hs => ?_
        split
        · exact Cpp.returns_ok.mpr (hs _ rfl)
        · repeat' split
          all_goals simp

/-! ### The listing the loop reads -/

/-- A receive queue of the listing: a directory whose name starts with "rx-". -/
def rxQueue (entry : DirectoryEntry) : Bool :=
  entry.isDirectory == some true && startsWith entry.filename "rx-"

/-- The mask file of a queue. -/
def rpsCpusPath (dir : String) (entry : DirectoryEntry) : String :=
  pathJoin (pathJoin dir entry.filename) "rps_cpus"

/-- An entry the loop stops at: `is_directory()` throws on it, or it is a
receive queue whose mask cannot be read. -/
def stopsScan (ds : DataSource) (dir : String) (entry : DirectoryEntry) : Bool :=
  entry.isDirectory.isNone || (rxQueue entry && (allZeroMask ds (rpsCpusPath dir entry)).isNone)

/-- The loop over the queue directory stops at the first entry that stops it;
when there is none it counts the receive queues and notes whether some mask is
not zero. -/
theorem scanQueues_eq (ds : DataSource) (dir : String) (entries : List DirectoryEntry) (scan : QueueScan) :
    scanQueues ds dir entries scan =
      match entries.find? (stopsScan ds dir) with
      | some entry =>
        if entry.isDirectory = none then .fault .filesystemError
        else .ok (.inl ⟨kind, .unknown, name, "cannot read " ++ rpsCpusPath dir entry⟩)
      | none => .ok (.inr ⟨scan.anyBad || (entries.filter rxQueue).any
          (fun entry => allZeroMask ds (rpsCpusPath dir entry) == some false),
          scan.checked + (entries.filter rxQueue).length⟩) := by
  induction entries generalizing scan with
  | nil => simp [scanQueues]
  | cons entry rest ih =>
    obtain ⟨filename, isDirectory⟩ := entry
    rcases isDirectory with _ | _ | _
    · simp [scanQueues, stopsScan]
    · simp [scanQueues, stopsScan, rxQueue, ih]
    · by_cases hrx : startsWith filename "rx-"
      · cases hmask : allZeroMask ds (pathJoin (pathJoin dir filename) "rps_cpus") with
        | none => simp [scanQueues, stopsScan, rxQueue, hrx, rpsCpusPath, hmask]
        | some zero =>
          have hstop : stopsScan ds dir ⟨filename, some true⟩ = false := by
            simp [stopsScan, rpsCpusPath, hmask]
          have hq : rxQueue ⟨filename, some true⟩ = true := by simp [rxQueue, hrx]
          simp only [scanQueues, hrx, if_true, hmask, ih, List.find?_cons, hstop, List.filter_cons, hq]
          rcases rest.find? (stopsScan ds dir) with _ | e
          · cases zero <;> simp [rpsCpusPath, hmask, Nat.add_comm, Nat.add_left_comm]
          · rfl
      · simp [scanQueues, stopsScan, rxQueue, hrx, ih]

/-! ### The order of the listing -/

/-- The loop's result does not depend on the order of entries none of which stops it. -/
theorem scanQueues_perm {ds : DataSource} {dir : String} {l₁ l₂ : List DirectoryEntry} (hperm : l₁.Perm l₂)
    (hgood : ∀ entry ∈ l₁, stopsScan ds dir entry = false) (scan : QueueScan) :
    scanQueues ds dir l₁ scan = scanQueues ds dir l₂ scan := by
  have h₁ : l₁.find? (stopsScan ds dir) = none := List.find?_eq_none.mpr fun e he => by simp [hgood e he]
  have h₂ : l₂.find? (stopsScan ds dir) = none :=
    List.find?_eq_none.mpr fun e he => by simp [hgood e (hperm.mem_iff.mpr he)]
  have hrx := hperm.filter rxQueue
  rw [scanQueues_eq, scanQueues_eq, h₁, h₂, hrx.length_eq, any_eq_of_perm hrx]

/-- `directory_iterator` lists the queues in no fixed order: two hosts that list
the same entries in different orders give the same result, when no entry throws
and every receive queue's mask can be read. -/
theorem evaluate_perm (cpu : Option Int) (nic : String) (ds : DataSource) (host₁ host₂ : Host)
    (hexists : host₁.pathExists (queueDirectory nic) = host₂.pathExists (queueDirectory nic))
    (hfails : (host₁.directory (queueDirectory nic)).failsAfter =
      (host₂.directory (queueDirectory nic)).failsAfter)
    (hperm : (host₁.directory (queueDirectory nic)).entries.Perm (host₂.directory (queueDirectory nic)).entries)
    (hgood : ∀ entry ∈ (host₁.directory (queueDirectory nic)).entries,
      stopsScan ds (queueDirectory nic) entry = false) :
    evaluate ⟨cpu, some nic⟩ ds host₁ = evaluate ⟨cpu, some nic⟩ ds host₂ := by
  simp only [evaluate, hexists, hfails, scanQueues_perm hperm hgood]

/-- A receive queue and a transmit queue, listed in both orders. -/
theorem evaluate_perm_rx :
    evaluate ⟨none, some "eth0"⟩ ⟨fun _ => some "0", fun _ => none⟩
        ⟨none, none, fun _ => true, fun _ => ⟨[⟨"rx-0", some true⟩, ⟨"tx-0", some true⟩], false⟩⟩ =
      evaluate ⟨none, some "eth0"⟩ ⟨fun _ => some "0", fun _ => none⟩
        ⟨none, none, fun _ => true, fun _ => ⟨[⟨"tx-0", some true⟩, ⟨"rx-0", some true⟩], false⟩⟩ :=
  evaluate_perm none "eth0" _ _ _ rfl rfl (List.Perm.swap _ _ []) (by decide)

/-! ### What the check decides -/

theorem any_eq_some_false {α : Type} {f : α → Option Bool} {l : List α} (h : ∀ a ∈ l, (f a).isSome) :
    (l.any fun a => f a == some false) = !decide (∀ a ∈ l, f a = some true) := by
  induction l with
  | nil => simp
  | cons a l ih =>
    obtain ⟨b, hb⟩ := Option.isSome_iff_exists.mp (h a (List.mem_cons_self a l))
    cases b <;> simp [hb, ih fun x hx => h x (List.mem_cons_of_mem a hx)]

/-- Once the NIC and its queue directory exist: the first entry that stops the
loop decides, in listing order; otherwise a failing last increment throws, no
receive queue gives Unknown, and the check passes exactly when every receive
queue's mask is all zeros. -/
theorem evaluate_queues (cpu : Option Int) (nic : String) (ds : DataSource) (host : Host)
    (listing : DirectoryListing) (hnic : nicExists ds nic = true)
    (hdir : host.pathExists (queueDirectory nic) = true) (hlist : host.directory (queueDirectory nic) = listing) :
    evaluate ⟨cpu, some nic⟩ ds host =
      match listing.entries.find? (stopsScan ds (queueDirectory nic)) with
      | some entry =>
        if entry.isDirectory = none then .fault .filesystemError
        else .ok ⟨kind, .unknown, name, "cannot read " ++ rpsCpusPath (queueDirectory nic) entry⟩
      | none =>
        if listing.failsAfter then .fault .filesystemError
        else if listing.entries.filter rxQueue = [] then .ok ⟨kind, .unknown, name, "no rx/tx queues found"⟩
        else if ∀ entry ∈ listing.entries.filter rxQueue,
            allZeroMask ds (rpsCpusPath (queueDirectory nic) entry) = some true then
          .ok ⟨kind, .pass, name, "all zero masks"⟩
        else .ok ⟨kind, .fail, name, "non-zero masks present"⟩ := by
  simp only [evaluate, hnic, hdir, hlist, Bool.not_true, Bool.false_eq_true, if_false, scanQueues_eq]
  cases hfind : listing.entries.find? (stopsScan ds (queueDirectory nic)) with
  | some entry => dsimp only; split_ifs <;> rfl
  | none =>
    have hread : ∀ entry ∈ listing.entries.filter rxQueue,
        (allZeroMask ds (rpsCpusPath (queueDirectory nic) entry)).isSome := by
      intro entry hentry
      obtain ⟨hmem, hrx⟩ := List.mem_filter.mp hentry
      have hstop := List.find?_eq_none.mp hfind entry hmem
      simp only [stopsScan, hrx, Bool.true_and, Bool.or_eq_true, not_or] at hstop
      simpa [Option.isSome_iff_ne_none, Option.isNone_iff_eq_none] using hstop.2
    simp only [Cpp.ok_bind, any_eq_some_false hread, Bool.false_or, Nat.zero_add, List.length_eq_zero,
      Bool.not_not, decide_eq_true_eq, Cpp.pure_eq]

/-- The mask of `rx-1` is not zero. -/
theorem evaluate_queues_rx1 :
    evaluate ⟨none, some "eth0"⟩
        ⟨fun p => if p = "/sys/class/net/eth0/queues/rx-1/rps_cpus" then some "f" else some "0", fun _ => none⟩
        ⟨none, none, fun _ => true,
          fun _ => ⟨[⟨"rx-0", some true⟩, ⟨"rx-1", some true⟩, ⟨"tx-0", some true⟩], false⟩⟩ =
      .ok ⟨kind, .fail, name, "non-zero masks present"⟩ := by
  rw [evaluate_queues none "eth0" _ _ _ (by decide) rfl rfl]
  decide

end RpsDisabledCheck

/-! ## `NicQuietCheck` -/

namespace NicQuietCheck

def kind : CheckKind := .nicQuiet

def name : String := "NIC is quiet"

/-- One line of `/proc/net/route` after the header: its first two words are
the NIC and the destination `00000000`. -/
def routeV4Line (nic line : String) : Bool :=
  !line.isEmpty &&
    match words line with
    | iface :: dest :: _ => iface == nic && dest == "00000000"
    | _ => false

/-- `default_route_v4_via_nic`: the first line of the table is its header. -/
def defaultRouteV4ViaNic (ds : DataSource) (nic : String) : Bool :=
  match ds.read "/proc/net/route" with
  | none => false
  | some content => ((lines content).drop 1).any (routeV4Line nic)

/-- `std::string(32, '0')`, the all-zero IPv6 destination. -/
def zeros : String := ⟨List.replicate 32 '0'⟩

/-- One line of `/proc/net/ipv6_route`: at least ten words, the destination
all zeros, the prefix length `0` or `00000000`, and the NIC last. -/
def routeV6Line (nic line : String) : Cpp Bool :=
  if line.isEmpty then .ok false
  else
    let tokens := words line
    if tokens.length < 10 then .ok false
    else do
      let dest ← vectorAt tokens 0
      let prefixLen ← vectorAt tokens 1
      let device ← vectorAt tokens (tokens.length - 1)
      pure (dest == zeros && (prefixLen == "0" || prefixLen == "00000000") && device == nic)

/-- `default_route_v6_via_nic`. -/
def defaultRouteV6ViaNic (ds : DataSource) (nic : String) : Cpp Bool :=
  match ds.read "/proc/net/ipv6_route" with
  | none => .ok false
  | some content => (lines content).anyM (routeV6Line nic)

/-- One node of the `getifaddrs()` list, counted into the NIC's IPv4 and IPv6
addresses; nodes without a name or an address are skipped. -/
def countAddress (nic : String) (counts : Nat × Nat) (iface : InterfaceAddress) : Nat × Nat :=
  match iface.name, iface.family with
  | some n, some .inet => if n = nic then (counts.1 + 1, counts.2) else counts
  | some n, some .inet6 => if n = nic then (counts.1, counts.2 + 1) else counts
  | _, _ => counts

/-- `has_default ? "yes" : "no"`. -/
def yesNo (b : Bool) : String := if b then "yes" else "no"

/-- `NicQuietCheck::Evaluate`: the addresses are unknown when `getifaddrs()` fails. -/
def evaluate (ctx : CheckContext) (ds : DataSource) (host : Host) : Cpp CheckResult :=
  match ctx.nic with
  | none => .ok ⟨kind, .unknown, name, "no NIC in context"⟩
  | some nic =>
    if !nicExists ds nic then .ok ⟨kind, .unknown, name, "NIC not found"⟩
    else do
      let hasDefaultV4 := defaultRouteV4ViaNic ds nic
      let hasDefaultV6 ← defaultRouteV6ViaNic ds nic
      let routes := ", def4=" ++ yesNo hasDefaultV4 ++ ", def6=" ++ yesNo hasDefaultV6
      match host.interfaceAddresses.map (·.foldl (countAddress nic) (0, 0)) with
      | none => pure ⟨kind, .unknown, name, "addr=?" ++ routes⟩
      | some (v4, v6) =>
        if v4 = 0 && v6 = 0 && !hasDefaultV4 && !hasDefaultV6 then
          pure ⟨kind, .pass, name, "no IPs, no default route"⟩
        else pure ⟨kind, .fail, name, "v4=" ++ toString v4 ++ ", v6=" ++ toString v6 ++ routes⟩

theorem evaluate_isOf (ctx : CheckContext) (ds : DataSource) (host : Host) :
    Cpp.Returns (CheckResult.IsOf kind name) (evaluate ctx ds host) := by
  simp only [evaluate]
  repeat' split
  all_goals simp [Cpp.returns_bind_iff, Cpp.returns_ite]

/-! ## The route tables -/

/-- The words of an `ipv6_route` line that `routeV6Line` takes for a default
route through `nic`. -/
def DefaultRouteV6Words (nic : String) (tokens : List String) : Prop :=
  10 ≤ tokens.length ∧ tokens.head? = some zeros ∧
    (tokens[1]? = some "0" ∨ tokens[1]? = some "00000000") ∧ tokens.getLast? = some nic

instance (nic : String) (tokens : List String) : Decidable (DefaultRouteV6Words nic tokens) :=
  inferInstanceAs (Decidable (_ ∧ _))

theorem words_empty : words "" = [] := rfl

theorem routeV4Line_iff_words (nic line : String) :
    routeV4Line nic line ↔ ∃ rest, words line = nic :: "00000000" :: rest := by
  by_cases he : line.isEmpty
  · obtain rfl := (String.isEmpty_iff line).mp he
    simp [routeV4Line, he, words_empty]
  · simp only [routeV4Line, he, Bool.not_false, Bool.true_and]
    match words line with
    | [] => simp
    | [_] => simp
    | iface :: dest :: rest => simp

/-- A text whose first two words are `a` and a `b` of other characters: white
space, `a`, white space, `b`, then the end or white space. -/
theorem exists_isWordsOf_two_iff {cs a b : List Char} (hb : b ≠ []) (hbc : ∀ c ∈ b, isSpace c = false) :
    (∃ ws, IsWordsOf cs (a :: b :: ws)) ↔ ∃ g₁ g₂ r, cs = g₁ ++ a ++ g₂ ++ b ++ r ∧
      (∀ c ∈ g₁ ++ g₂, isSpace c) ∧ g₂ ≠ [] ∧ a ≠ [] ∧ (∀ c ∈ a, isSpace c = false) ∧
      ∀ c ∈ r.head?, isSpace c := by
  constructor
  · rintro ⟨ws, h⟩
    obtain ⟨g₁, r₁, rfl, hg₁, ha, hac, hr₁, h₁⟩ := isWordsOf_cons_iff.mp h
    obtain ⟨g₂, r, rfl, hg₂, -, -, hr, -⟩ := isWordsOf_cons_iff.mp h₁
    have hsep : g₂ ≠ [] := by
      rintro rfl
      obtain ⟨d, ds, rfl⟩ := List.exists_cons_of_ne_nil hb
      simpa [hbc d (.head _)] using hr₁ d (by simp)
    exact ⟨g₁, g₂, r, by simp, fun c hc => (List.mem_append.mp hc).elim (hg₁ c) (hg₂ c), hsep, ha,
      hac, hr⟩
  · rintro ⟨g₁, g₂, r, rfl, hg, hsep, ha, hac, hr⟩
    obtain ⟨ws, hws⟩ := exists_isWordsOf r
    obtain ⟨d, ds, rfl⟩ := List.exists_cons_of_ne_nil hsep
    have hd : isSpace d := hg d (by simp)
    have h₁ : IsWordsOf (d :: ds ++ b ++ r) (b :: ws) :=
      .word (fun c hc => hg c (List.mem_append_right _ hc)) hb hbc hr hws
    have h := IsWordsOf.word (fun c hc => hg c (List.mem_append_left _ hc)) ha hac
      (by simpa using hd) h₁
    exact ⟨ws, by simpa using h⟩

/-- A line of `/proc/net/route` counts when it starts, after white space, with
the NIC, white space and `00000000`, followed by the end or white space. -/
theorem routeV4Line_iff (nic line : String) :
    routeV4Line nic line ↔ ∃ g₁ g₂ r, line.data = g₁ ++ nic.data ++ g₂ ++ "00000000".data ++ r ∧
      (∀ c ∈ g₁ ++ g₂, isSpace c) ∧ g₂ ≠ [] ∧ nic.data ≠ [] ∧ (∀ c ∈ nic.data, isSpace c = false) ∧
      ∀ c ∈ r.head?, isSpace c := by
  rw [routeV4Line_iff_words, ← exists_isWordsOf_two_iff (by decide) (by decide)]
  constructor
  · rintro ⟨rest, h⟩
    exact ⟨_, by simpa using words_eq_iff.mp h⟩
  · rintro ⟨ws, h⟩
    exact ⟨ws.map String.mk, words_eq_iff.mpr (by simpa [Function.comp_def] using h)⟩

/-- A line is read without fault, and `routeV6Line` holds exactly on the
words `DefaultRouteV6Words` describes. -/
theorem routeV6Line_eq (nic line : String) :
    routeV6Line nic line = .ok (decide (DefaultRouteV6Words nic (words line))) := by
  by_cases he : line.isEmpty
  · obtain rfl := (String.isEmpty_iff line).mp he
    rfl
  · simp only [routeV6Line, he, if_false]
    by_cases hlen : (words line).length < 10
    · simp [hlen, DefaultRouteV6Words, Nat.not_le.mpr hlen]
    · have h0 : 0 < (words line).length := by omega
      have h1 : 1 < (words line).length := by omega
      have hl : (words line).length - 1 < (words line).length := by omega
      simp only [hlen, if_false, vectorAt_of_lt h0, vectorAt_of_lt h1, vectorAt_of_lt hl, Cpp.ok_bind,
        Cpp.pure_eq]
      refine congrArg Cpp.ok (Bool.eq_iff_iff.mpr ?_)
      simp [DefaultRouteV6Words, Nat.not_lt.mp hlen, List.head?_eq_getElem?, List.getLast?_eq_getElem?,
        List.getElem?_eq_getElem h0, List.getElem?_eq_getElem h1, List.getElem?_eq_getElem hl, and_assoc]

theorem anyM_routeV6Line (nic : String) (ls : List String) :
    ls.anyM (routeV6Line nic) = .ok (decide (∃ line ∈ ls, DefaultRouteV6Words nic (words line))) := by
  induction ls with
  | nil => simp [List.anyM]
  | cons line rest ih =>
    rw [List.anyM, routeV6Line_eq, Cpp.ok_bind]
    by_cases h : DefaultRouteV6Words nic (words line) <;> simp [h, ih]

/-- The IPv6 detector never faults, and holds exactly when some line of the
table has the words of a default route through the NIC. -/
theorem defaultRouteV6ViaNic_spec (ds : DataSource) (nic : String) :
    ∃ b, defaultRouteV6ViaNic ds nic = .ok b ∧ (b ↔ ∃ content, ds.read "/proc/net/ipv6_route" = some content ∧
      ∃ line ∈ lines content, DefaultRouteV6Words nic (words line)) := by
  unfold defaultRouteV6ViaNic
  cases ds.read "/proc/net/ipv6_route" with
  | none => exact ⟨false, rfl, by simp⟩
  | some content => exact ⟨_, anyM_routeV6Line nic _, by simp⟩

/-- The two default-route detectors over the tokens of each line.  The IPv4
one holds exactly when some line after the header starts, after white space,
with the NIC, white space and `00000000`, followed by the end or white space.
The IPv6 one never faults, and holds exactly when some line has tokens as
`DefaultRouteV6Words` describes. -/
theorem defaultRouteViaNic_iff (ds : DataSource) (nic : String) :
    (defaultRouteV4ViaNic ds nic ↔ ∃ content, ds.read "/proc/net/route" = some content ∧
      ∃ line ∈ (lines content).drop 1, ∃ g₁ g₂ r,
        line.data = g₁ ++ nic.data ++ g₂ ++ "00000000".data ++ r ∧ (∀ c ∈ g₁ ++ g₂, isSpace c) ∧
        g₂ ≠ [] ∧ nic.data ≠ [] ∧ (∀ c ∈ nic.data, isSpace c = false) ∧ ∀ c ∈ r.head?, isSpace c) ∧
    ∃ b, defaultRouteV6ViaNic ds nic = .ok b ∧ (b ↔ ∃ content, ds.read "/proc/net/ipv6_route" = some content ∧
      ∃ line ∈ lines content, ∃ toks, IsWordsOf line.data (toks.map String.data) ∧
        DefaultRouteV6Words nic toks) := by
  have htoks (line : String) : DefaultRouteV6Words nic (words line) ↔
      ∃ toks, IsWordsOf line.data (toks.map String.data) ∧ DefaultRouteV6Words nic toks :=
    ⟨fun h => ⟨_, words_eq_iff.mp rfl, h⟩, fun ⟨_, h, hd⟩ => words_eq_iff.mpr h ▸ hd⟩
  obtain ⟨b, hb, hiff⟩ := defaultRouteV6ViaNic_spec ds nic
  refine ⟨?_, b, hb, by simpa only [htoks] using hiff⟩
  unfold defaultRouteV4ViaNic
  cases ds.read "/proc/net/route" with
  | none => simp
  | some content => simp only [List.any_eq_true, routeV4Line_iff, Option.some.injEq, exists_eq_left']

set_option maxRecDepth 4000 in
/-- The default route through `eth0` as the kernel writes it in
`/proc/net/ipv6_route`: ten fields, the destination all zeros, prefix length
`00` and the device last.  The detector does not see it. -/
theorem defaultRouteV6ViaNic_kernel_line :
    words ("00000000000000000000000000000000 00 00000000000000000000000000000000 00 " ++
        "00000000000000000000000000000000 00000400 00000001 00000000 00200200     eth0") =
      [zeros, "00", zeros, "00", zeros, "00000400", "00000001", "00000000", "00200200", "eth0"] ∧
    defaultRouteV6ViaNic
        ⟨fun _ => some ("00000000000000000000000000000000 00 00000000000000000000000000000000 00 " ++
          "00000000000000000000000000000000 00000400 00000001 00000000 00200200     eth0\n"),
          fun _ => none⟩ "eth0" = .ok false := by
  decide

end NicQuietCheck

end RmpEval
