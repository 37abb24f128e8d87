import RmpEval.Check

/-!
# The live data source

`SystemFileSystemDataSource` answers `Read(path)` with `Slurp(path)` and
`CmdLineParam(key)` with `GetCmdLineParam(key)`, which reads `/proc/cmdline`
through `ReadCmdLine()`, that is `Slurp("/proc/cmdline")`.

*Slurp.*  A file that opens is a stream holding its content.  The loop reads it
in chunks of `ReadBufferSize` characters with `ifs.read(buf, sizeof(buf))`: a
read extracts the next chunk, and one that reaches the end of the file before a
full chunk also clears `good()`.  `total` counts what was appended to `out`,
and the last chunk is cut at `max_bytes`.  `ReadBufferSize` and `MaxFileSize`
are constants of `config.h`, which is not in the sources; they are the
parameters `bufferSize` and `maxBytes` here, `bufferSize` positive as the size
of an array is.  The `size_t` arithmetic is exact: a file holds fewer than
`2^63` bytes, so `total + got` stays below `2^64`, and `max_bytes - total` is
only computed with `total ≤ max_bytes` (`SlurpRun.inv`).  So `Slurp` returns
the first `min(|x|, max_bytes)` characters of the content `x`
(`slurp_reads_prefix`).

*GetCmdLineParam.*  The loop reads the tokens of the command line with
`iss >> tok` and stops at the first token that is the key, or whose text
before its first `=` is.
-/

namespace RmpEval

/-! ## `Slurp` -/

/-- What `Slurp`'s loop keeps: what the stream still holds, whether it is
`good()`, the text `out` and its count `total`. -/
structure SlurpState where
  rest : List Char
  good : Bool
  out : List Char
  total : Nat

/-- One pass of the loop's body on a good stream: `.inl out` when it breaks,
otherwise the state at the next test of `ifs.good()`.  `got` is `gcount()`. -/
def slurpStep (bufferSize maxBytes : Nat) (s : SlurpState) : Sum (List Char) SlurpState :=
  let chunk := s.rest.take bufferSize
  if chunk.length = 0 then .inl s.out
  else
    let got := if s.total + chunk.length > maxBytes then maxBytes - s.total else chunk.length
    let out := s.out ++ chunk.take got
    let total := s.total + got
    if total ≥ maxBytes then .inl out
    else .inr ⟨s.rest.drop bufferSize, decide (bufferSize ≤ s.rest.length), out, total⟩

/-- A pass that does not break appended a whole chunk, nonempty, and stayed
below the cap. -/
theorem slurpStep_eq_inr {bufferSize maxBytes : Nat} {s s' : SlurpState} :
    slurpStep bufferSize maxBytes s = .inr s' ↔
      0 < (s.rest.take bufferSize).length ∧ s.total + (s.rest.take bufferSize).length < maxBytes ∧
      s' = ⟨s.rest.drop bufferSize, decide (bufferSize ≤ s.rest.length),
        s.out ++ s.rest.take bufferSize, s.total + (s.rest.take bufferSize).length⟩ := by
  simp only [slurpStep]
  generalize s.rest.take bufferSize = chunk
  split_ifs with hempty hcap hbreak hbreak
  · exact iff_of_false (by simp) fun h => absurd h.1 (by omega)
  · exact iff_of_false (by simp) fun h => absurd h.2.1 (by omega)
  · omega
  · exact iff_of_false (by simp) fun h => absurd h.2.1 (by omega)
  · simp only [Sum.inr.injEq, eq_comm, List.take_length]
    exact ⟨fun h => ⟨by omega, by omega, h⟩, fun h => h.2.2⟩

theorem slurpStep_rest_lt {bufferSize maxBytes : Nat} {s s' : SlurpState}
    (h : slurpStep bufferSize maxBytes s = .inr s') : s'.rest.length < s.rest.length := by
  obtain ⟨hchunk, -, rfl⟩ := slurpStep_eq_inr.mp h
  simp only [List.length_take, List.length_drop] at hchunk ⊢
  omega

/-- `while (ifs.good()) { ... }`. -/
def slurpLoop (bufferSize maxBytes : Nat) (s : SlurpState) : List Char :=
  if s.good then
    match h : slurpStep bufferSize maxBytes s with
    | .inl out => out
    | .inr s' =>
      have : s'.rest.length < s.rest.length := slurpStep_rest_lt h
      slurpLoop bufferSize maxBytes s'
  else s.out
termination_by s.rest.length

/-- A pass on a good stream returns, or goes on from the state it leaves. -/
theorem slurpLoop_of_good {bufferSize maxBytes : Nat} {s : SlurpState} (hgood : s.good) :
    slurpLoop bufferSize maxBytes s =
      Sum.elim id (slurpLoop bufferSize maxBytes) (slurpStep bufferSize maxBytes s) := by
  rw [slurpLoop, if_pos hgood]
  split <;> rename_i h <;> simp [h]

/-- What the file system gives `std::ifstream`: the content of each path that
opens. -/
def Files := String → Option (List Char)

/-- `Slurp(path, max_bytes)`: `nullopt` when the file does not open. -/
def slurp (bufferSize : Nat) (files : Files) (path : String) (maxBytes : Nat) : Option String :=
  (files path).map fun content => ⟨slurpLoop bufferSize maxBytes ⟨content, true, [], 0⟩⟩

/-! ## What `Slurp` returns -/

/-- The states at which the loop tests `ifs.good()`, reading `content`. -/
inductive SlurpRun (bufferSize maxBytes : Nat) (content : List Char) : SlurpState → Prop
  | start : SlurpRun bufferSize maxBytes content ⟨content, true, [], 0⟩
  | step {s s' : SlurpState} : SlurpRun bufferSize maxBytes content s → s.good →
      slurpStep bufferSize maxBytes s = .inr s' → SlurpRun bufferSize maxBytes content s'

/-- What holds at each test of `ifs.good()`: `out` is what the stream gave so
far, `total` counts it and is within the cap, and a stream that is no longer
good holds nothing more. -/
structure SlurpInv (maxBytes : Nat) (content : List Char) (s : SlurpState) : Prop where
  out_append : s.out ++ s.rest = content
  total_eq : s.total = s.out.length
  total_le : s.total ≤ maxBytes
  rest_of_not_good : s.good = false → s.rest = []

theorem SlurpInv.step {bufferSize maxBytes : Nat} {content : List Char} {s s' : SlurpState}
    (hinv : SlurpInv maxBytes content s) (h : slurpStep bufferSize maxBytes s = .inr s') :
    SlurpInv maxBytes content s' := by
  obtain ⟨-, hcap, rfl⟩ := slurpStep_eq_inr.mp h
  refine ⟨?_, ?_, by dsimp only; omega, fun hgood => ?_⟩
  · rw [List.append_assoc, List.take_append_drop, hinv.out_append]
  · simp [hinv.total_eq]
  · simp only [decide_eq_false_iff_not, not_le] at hgood
    exact List.drop_eq_nil_of_le hgood.le

theorem SlurpRun.inv {bufferSize maxBytes : Nat} {content : List Char} {s : SlurpState}
    (h : SlurpRun bufferSize maxBytes content s) : SlurpInv maxBytes content s := by
  induction h with
  | start => exact ⟨rfl, rfl, Nat.zero_le _, nofun⟩
  | step _ _ hstep ih => exact ih.step hstep

theorem eq_take_of_prefix {l x : List Char} {m : Nat} (hp : l <+: x)
    (hl : l.length = min x.length m) : l = x.take m := by
  rw [List.prefix_iff_eq_take.mp hp, hl, List.take_eq_take]
  omega

/-- A pass that breaks returns the first `maxBytes` characters: it stopped at
the end of the file, or at the cap. -/
theorem slurpStep_eq_inl {bufferSize maxBytes : Nat} {content out : List Char} {s : SlurpState}
    (hbuf : 0 < bufferSize) (hinv : SlurpInv maxBytes content s)
    (h : slurpStep bufferSize maxBytes s = .inl out) : out = content.take maxBytes := by
  have hlen : content.length = s.out.length + s.rest.length := by
    rw [← hinv.out_append, List.length_append]
  have htotal := hinv.total_eq
  have hle := hinv.total_le
  have hpre : ∀ k, s.out ++ (s.rest.take bufferSize).take k <+: content := fun k =>
    hinv.out_append ▸ (List.prefix_append_right_inj _).mpr
      ((List.take_prefix _ _).trans (List.take_prefix _ _))
  have hchunk : (s.rest.take bufferSize).length = min bufferSize s.rest.length := List.length_take ..
  simp only [slurpStep] at h
  generalize s.rest.take bufferSize = chunk at h hpre hchunk
  by_cases hempty : chunk.length = 0
  · -- the stream is at its end: `out` is all of it
    rw [if_pos hempty] at h
    cases h
    exact eq_take_of_prefix (hinv.out_append ▸ List.prefix_append _ _) (by omega)
  rw [if_neg hempty] at h
  by_cases hcap : s.total + chunk.length > maxBytes
  · -- the last chunk is cut at the cap
    rw [if_pos hcap, if_pos (by omega)] at h
    cases h
    exact eq_take_of_prefix (hpre _) (by rw [List.length_append, List.length_take]; omega)
  · -- a whole chunk reaches the cap
    rw [if_neg hcap] at h
    split at h <;> cases h
    exact eq_take_of_prefix (hpre _) (by rw [List.length_append, List.length_take]; omega)

theorem slurpLoop_of_inv {bufferSize maxBytes : Nat} {content : List Char} (hbuf : 0 < bufferSize)
    (s : SlurpState) (hinv : SlurpInv maxBytes content s) :
    slurpLoop bufferSize maxBytes s = content.take maxBytes := by
  induction s using slurpLoop.induct bufferSize maxBytes with
  | case1 s hgood out hstep =>
    rw [slurpLoop_of_good hgood, hstep]
    exact slurpStep_eq_inl hbuf hinv hstep
  | case2 s hgood s' hstep _ ih =>
    rw [slurpLoop_of_good hgood, hstep]
    exact ih (hinv.step hstep)
  | case3 s hgood =>
    rw [slurpLoop, if_neg hgood]
    have hout : s.out = content := by
      rw [← hinv.out_append, hinv.rest_of_not_good (by simpa using hgood), List.append_nil]
    have := hinv.total_le
    rw [hout, List.take_of_length_le (by rw [← hout, ← hinv.total_eq]; exact this)]

/-- `Slurp` returns the first `min(|x|, max_bytes)` characters of the content
`x` of a file that opens, and `nullopt` for one that does not.  At every test
of `ifs.good()`, `total` is the length of `out` and at most `max_bytes`, so
`max_bytes - total` is never taken of a larger `total`. -/
theorem slurp_reads_prefix (bufferSize : Nat) (hbuf : 0 < bufferSize) (files : Files)
    (path : String) (maxBytes : Nat) :
    slurp bufferSize files path maxBytes = (files path).map (fun x => ⟨x.take maxBytes⟩) ∧
      ∀ x s, SlurpRun bufferSize maxBytes x s → s.total = s.out.length ∧ s.total ≤ maxBytes := by
  refine ⟨?_, fun x s h => ⟨h.inv.total_eq, h.inv.total_le⟩⟩
  unfold slurp
  cases files path with
  | none => rfl
  | some x => rw [Option.map_some', Option.map_some',
      slurpLoop_of_inv hbuf _ (@SlurpRun.start bufferSize maxBytes x).inv]

/-- Ten characters read four at a time under a cap of six: the second chunk
is cut after two. -/
theorem slurp_reads_prefix_cap_mid_chunk :
    0 < 4 ∧
      (slurp 4 (fun _ => some "abcdefghij".data) "/proc/cmdline" 6 =
          (some "abcdefghij".data).map (fun x => ⟨x.take 6⟩) ∧
        ∀ x s, SlurpRun 4 6 x s → s.total = s.out.length ∧ s.total ≤ 6) :=
  ⟨by decide, slurp_reads_prefix 4 (by decide) _ "/proc/cmdline" 6⟩

/-! ## `GetCmdLineParam` -/

/-- The loop of `GetCmdLineParam` over the tokens.  `eq < tok.size()`, so
neither `substr` throws. -/
def cmdLineParamLoop (key : String) : List String → Option String
  | [] => none
  | tok :: rest =>
    match findChar tok '=' 0 with
    | none => if tok = key then some "" else cmdLineParamLoop key rest
    | some eq =>
      if (⟨tok.data.take eq⟩ : String) = key then some ⟨tok.data.drop (eq + 1)⟩
      else cmdLineParamLoop key rest

/-- `GetCmdLineParam(key)`, given what `ReadCmdLine()` returned. -/
def getCmdLineParam (cmdline : Option String) (key : String) : Option String :=
  cmdline.bind fun cmd => cmdLineParamLoop key (words cmd)

/-! ## What `GetCmdLineParam` returns -/

/-- The tokens the loop passes over: neither the key nor `key=` followed by a value. -/
def SkipsKey (key tok : String) : Prop := tok ≠ key ∧ ∀ v, tok ≠ key ++ "=" ++ v

theorem findChar_zero (s : String) (c : Char) : findChar s c 0 = charIndex c s.data := by
  simp [findChar]

theorem cmdLineParamLoop_skip {key tok : String} (rest : List String) (h : SkipsKey key tok) :
    cmdLineParamLoop key (tok :: rest) = cmdLineParamLoop key rest := by
  rw [cmdLineParamLoop]
  cases heq : findChar tok '=' 0 with
  | none => exact if_neg h.1
  | some eq =>
    refine if_neg fun hkey => ?_
    rw [findChar_zero, charIndex_eq_some_iff] at heq
    obtain ⟨pre, post, hdata, -, rfl⟩ := heq
    refine h.2 ⟨post⟩ (String.ext ?_)
    rw [← hkey]
    simp [hdata]

theorem cmdLineParamLoop_append_of_skip {key : String} (pre rest : List String)
    (h : ∀ tok ∈ pre, SkipsKey key tok) :
    cmdLineParamLoop key (pre ++ rest) = cmdLineParamLoop key rest := by
  induction pre with
  | nil => rfl
  | cons tok pre ih =>
    rw [List.cons_append, cmdLineParamLoop_skip _ (h tok (.head _)),
      ih fun t ht => h t (.tail _ ht)]

/-- The key itself, a flag, gives the empty value. -/
theorem cmdLineParamLoop_key {key : String} (rest : List String) (hkey : '=' ∉ key.data) :
    cmdLineParamLoop key (key :: rest) = some "" := by
  rw [cmdLineParamLoop, findChar_zero, charIndex_eq_none_iff.mpr hkey]
  exact if_pos rfl

/-- `key=v` gives `v`, whatever `=` the value holds. -/
theorem cmdLineParamLoop_key_eq {key : String} (v : String) (rest : List String)
    (hkey : '=' ∉ key.data) : cmdLineParamLoop key ((key ++ "=" ++ v) :: rest) = some v := by
  have hdata : (key ++ "=" ++ v).data = key.data ++ '=' :: v.data := by simp
  have hfind : findChar (key ++ "=" ++ v) '=' 0 = some key.data.length := by
    rw [findChar_zero, hdata, charIndex_append_of_not_mem _ hkey, charIndex, if_pos rfl]
    simp
  rw [cmdLineParamLoop, hfind, hdata]
  dsimp only
  rw [List.take_left, if_pos rfl, List.drop_append_eq_append_drop,
    List.drop_eq_nil_of_le (Nat.le_succ _), Nat.add_sub_cancel_left]
  rfl

/-- Over a command line `c` whose white-space separated tokens are `toks` and
a key with no `=`, `GetCmdLineParam` answers from the first token that is the
key or starts with `key=`: the empty value for the key itself, the text after
`key=` otherwise, and `nullopt` when no token is either. -/
theorem getCmdLineParam_first_match (c key : String) (hkey : '=' ∉ key.data) (toks : List String)
    (htoks : IsWordsOf c.data (toks.map String.data)) :
    ((∀ tok ∈ toks, SkipsKey key tok) → getCmdLineParam (some c) key = none) ∧
      ∀ pre tok post, toks = pre ++ tok :: post → (∀ t ∈ pre, SkipsKey key t) →
        (tok = key → getCmdLineParam (some c) key = some "") ∧
          ∀ v, tok = key ++ "=" ++ v → getCmdLineParam (some c) key = some v := by
  obtain rfl := words_eq_iff.mpr htoks
  refine ⟨fun h => ?_, fun pre tok post hwords hpre => ?_⟩
  · simpa using cmdLineParamLoop_append_of_skip (words c) [] h
  · have hloop : getCmdLineParam (some c) key = cmdLineParamLoop key (tok :: post) := by
      rw [getCmdLineParam, Option.some_bind, hwords, cmdLineParamLoop_append_of_skip _ _ hpre]
    exact ⟨fun e => by rw [hloop, e, cmdLineParamLoop_key _ hkey],
      fun v e => by rw [hloop, e, cmdLineParamLoop_key_eq _ _ hkey]⟩

/-- `foo` on a command line where it is a prefix of another key, has a value
holding `=`, and comes twice: the first match gives `a=b`. -/
theorem getCmdLineParam_first_match_foo :
    '=' ∉ "foo".data ∧
      IsWordsOf "foobar=1 foo=a=b foo".data (["foobar=1", "foo=a=b", "foo"].map String.data) ∧
      getCmdLineParam (some "foobar=1 foo=a=b foo") "foo" = some "a=b" :=
  have hkey : '=' ∉ "foo".data := by decide
  have htoks : IsWordsOf "foobar=1 foo=a=b foo".data (["foobar=1", "foo=a=b", "foo"].map String.data) :=
    words_eq_iff.mp (by decide)
  have hskip : ∀ t ∈ ["foobar=1"], SkipsKey "foo" t := by
    simp only [List.mem_singleton, forall_eq]
    refine ⟨by decide, fun v h => ?_⟩
    have := congrArg (fun s : String => s.data.get? 3) h
    simp at this
  ⟨hkey, htoks, ((getCmdLineParam_first_match _ _ hkey _ htoks).2 ["foobar=1"] "foo=a=b" ["foo"] rfl
    hskip).2 "a=b" rfl⟩

example : getCmdLineParam (some "a foo=bar baz") "foo" = some "bar" ∧
    getCmdLineParam (some "a foo baz") "foo" = some "" ∧
    getCmdLineParam (some "a bar") "foo" = none := by decide

/-- `SystemFileSystemDataSource`, with `ReadBufferSize` and `MaxFileSize`. -/
def systemDataSource (bufferSize maxFileSize : Nat) (files : Files) : DataSource :=
  ⟨fun path => slurp bufferSize files path maxFileSize,
    fun key => getCmdLineParam (slurp bufferSize files "/proc/cmdline" maxFileSize) key⟩

end RmpEval
