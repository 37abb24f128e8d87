import RmpEval.Cpp
import Mathlib.Data.List.DropRight
import Mathlib.Data.List.Infix
import Mathlib.Data.String.Basic

/-!
# Strings and streams

The string operations the checks use, on the characters of a `String`.

`Trim` drops white space at both ends.  A `std::istringstream` is read in two
ways.  `std::getline(stream, piece, delim)` extracts the text up to the next
`delim` and fails only when nothing is left, so `getlines` has no piece after
a final delimiter.  `stream >> token` skips white space and extracts the
longest run of other characters; `extractions` lists the tokens together with
what the stream still holds after each, which is what a `getline` after a
`>>` reads.  Both are structural, so they evaluate by `decide`.
`words_eq_iff` says what the tokens are, apart from how the stream is read:
the text is white space, then the words with white space after each that is
nonempty unless the text ends (`IsWordsOf`), so each word is a maximal run of
characters that are not white space.

`find` is the first occurrence, `none` standing for `npos`;
`rfind(prefix, 0) == 0` is `startsWith`.
-/

namespace RmpEval

/-! ## `Trim` -/

/-- `Trim`: the string without white space at either end. -/
def trim (str : String) : String :=
  ⟨(str.data.dropWhile isSpace).rdropWhile isSpace⟩

/-! ## `std::getline` -/

/-- The pieces that `std::getline(stream, piece, delim)` extracts one after the
other, when the piece read so far is `acc`, reversed. -/
def getlinesAux (delim : Char) : List Char → List Char → List (List Char)
  | [], acc => if acc.isEmpty then [] else [acc.reverse]
  | c :: cs, acc =>
    if c = delim then acc.reverse :: getlinesAux delim cs []
    else getlinesAux delim cs (c :: acc)

/-- `while (std::getline(stream, piece, delim))`: the pieces, in order. -/
def getlines (delim : Char) (s : String) : List String :=
  (getlinesAux delim s.data []).map String.mk

/-- The lines of a text, as `while (std::getline(stream, line))` reads them. -/
def lines (s : String) : List String := getlines '\n' s

/-- What one `std::getline(stream, rest)` leaves in `rest`. -/
def getlineRest (s : List Char) : List Char := s.takeWhile (· ≠ '\n')

/-! ## `stream >> token` -/

/-- The successive extractions `stream >> token`, each with the characters
the stream holds after it, when the token read so far is `acc`, reversed. -/
def tokenizeAux : List Char → List Char → List (List Char × List Char)
  | [], acc => if acc.isEmpty then [] else [(acc.reverse, [])]
  | c :: cs, acc =>
    if isSpace c then
      if acc.isEmpty then tokenizeAux cs [] else (acc.reverse, c :: cs) :: tokenizeAux cs []
    else tokenizeAux cs (c :: acc)

/-- `while (stream >> token)`: each token with the rest of the stream after it. -/
def extractions (s : String) : List (String × String) :=
  (tokenizeAux s.data []).map fun tr => (⟨tr.1⟩, ⟨tr.2⟩)

/-- The white-space separated words of a text. -/
def words (s : String) : List String := (extractions s).map Prod.fst

/-! ## Searching -/

/-- The first position of `c` in a list of characters. -/
def charIndex (c : Char) : List Char → Option Nat
  | [] => none
  | d :: ds => if d = c then some 0 else (charIndex c ds).map (· + 1)

/-- `s.find(c, pos)`. -/
def findChar (s : String) (c : Char) (pos : Nat) : Option Nat :=
  (charIndex c (s.data.drop pos)).map (· + pos)

/-- The first position where `pat` starts in a list of characters. -/
def patIndex (pat : List Char) : List Char → Option Nat
  | [] => if pat.isEmpty then some 0 else none
  | d :: ds => if pat.isPrefixOf (d :: ds) then some 0 else (patIndex pat ds).map (· + 1)

/-- `s.find(pat) != std::string::npos`. -/
def contains (s pat : String) : Bool := (patIndex pat.data s.data).isSome

/-- `s.rfind(pre, 0) == 0`. -/
def startsWith (s pre : String) : Bool := pre.data.isPrefixOf s.data

/-! ## Lemmas -/

theorem charIndex_eq_some_iff {c : Char} {l : List Char} {i : Nat} :
    charIndex c l = some i ↔ ∃ pre post, l = pre ++ c :: post ∧ c ∉ pre ∧ pre.length = i := by
  induction l generalizing i with
  | nil => simp [charIndex]
  | cons d ds ih =>
    by_cases hd : d = c
    · subst hd
      simp only [charIndex, if_true, Option.some.injEq]
      constructor
      · rintro rfl
        exact ⟨[], ds, rfl, by simp, rfl⟩
      · rintro ⟨pre, post, hl, hc, rfl⟩
        cases pre with
        | nil => rfl
        | cons e pre => simp at hl hc; exact absurd hl.1 hc.1
    · simp only [charIndex, hd, if_false, Option.map_eq_some']
      constructor
      · rintro ⟨j, hj, rfl⟩
        obtain ⟨pre, post, rfl, hc, rfl⟩ := ih.mp hj
        exact ⟨d :: pre, post, rfl, by simp [Ne.symm hd, hc], rfl⟩
      · rintro ⟨pre, post, hl, hc, rfl⟩
        cases pre with
        | nil => simp at hl; exact absurd hl.1 hd
        | cons e pre =>
          simp at hl hc
          obtain ⟨rfl, rfl⟩ := hl
          exact ⟨pre.length, ih.mpr ⟨pre, post, rfl, hc.2, rfl⟩, rfl⟩

theorem charIndex_eq_none_iff {c : Char} {l : List Char} : charIndex c l = none ↔ c ∉ l := by
  induction l with
  | nil => simp [charIndex]
  | cons d ds ih =>
    by_cases hd : d = c
    · simp [charIndex, hd]
    · simp [charIndex, hd, ih, Ne.symm hd]

theorem charIndex_append_of_not_mem {c : Char} {pre : List Char} (l : List Char) (h : c ∉ pre) :
    charIndex c (pre ++ l) = (charIndex c l).map (· + pre.length) := by
  induction pre with
  | nil => simp
  | cons d pre ih =>
    have hd : d ≠ c := fun e => h (e ▸ List.mem_cons_self d pre)
    rw [List.cons_append, charIndex, if_neg hd, ih (fun hc => h (List.mem_cons_of_mem d hc)),
      Option.map_map, List.length_cons]
    rfl

theorem drop_length_takeWhile {α : Type} (p : α → Bool) (l : List α) :
    l.drop (l.takeWhile p).length = l.dropWhile p := by
  induction l with
  | nil => rfl
  | cons a l ih => by_cases h : p a <;> simp [List.takeWhile_cons, List.dropWhile_cons, h, ih]

theorem any_eq_of_perm {α : Type} {p : α → Bool} {l₁ l₂ : List α} (hperm : l₁.Perm l₂) :
    l₁.any p = l₂.any p :=
  Bool.eq_iff_iff.mpr <| by simp only [List.any_eq_true, hperm.mem_iff]

theorem takeWhile_append_cons_of_false {α : Type} {p : α → Bool} {y : α} (xs ys : List α)
    (hy : p y = false) : (xs ++ y :: ys).takeWhile p = xs.takeWhile p := by
  induction xs with
  | nil => simp [List.takeWhile_cons, hy]
  | cons x xs ih => by_cases h : p x <;> simp [List.takeWhile_cons, h, ih]

theorem length_takeWhile_add_dropWhile {α : Type} (p : α → Bool) (l : List α) :
    (l.takeWhile p).length + (l.dropWhile p).length = l.length := by
  rw [← List.length_append, List.takeWhile_append_dropWhile]

theorem charIndex_lt_length {c : Char} {l : List Char} {i : Nat} (h : charIndex c l = some i) :
    i < l.length := by
  obtain ⟨pre, post, rfl, -, rfl⟩ := charIndex_eq_some_iff.mp h
  simp

theorem startsWith_iff {s pre : String} : startsWith s pre ↔ pre.data <+: s.data :=
  List.isPrefixOf_iff_prefix

/-! ## `Trim` removes exactly the white space at the ends -/

/-- `t` is `s` without the white space at its ends: `s = a ++ t ++ b` with `a`
and `b` white space, and `t` empty or starting and ending with a character that
is not. -/
def IsTrimOf (s t : List Char) : Prop :=
  ∃ a b, s = a ++ t ++ b ∧ (∀ c ∈ a, isSpace c) ∧ (∀ c ∈ b, isSpace c) ∧
    (∀ c ∈ t.head?, isSpace c = false) ∧ (∀ c ∈ t.getLast?, isSpace c = false)

theorem trim_data (s : String) : (trim s).data = (s.data.dropWhile isSpace).rdropWhile isSpace := rfl

theorem rdropWhile_append_rtakeWhile {α : Type} (p : α → Bool) (l : List α) :
    l.rdropWhile p ++ l.rtakeWhile p = l := by
  simp [List.rdropWhile, List.rtakeWhile, ← List.reverse_append]

theorem rdropWhile_append_of_all {α : Type} {p : α → Bool} (l : List α) {b : List α}
    (hb : ∀ c ∈ b, p c) : (l ++ b).rdropWhile p = l.rdropWhile p := by
  simp [List.rdropWhile, List.dropWhile_append_of_pos (fun c hc => hb c (List.mem_reverse.mp hc))]

/-- What `Trim` keeps starts where the first erase stopped, at a character that is not white space. -/
theorem head?_trim {s : String} {c : Char} (hc : c ∈ (trim s).data.head?) : isSpace c = false := by
  obtain ⟨u, hu⟩ := List.rdropWhile_prefix isSpace (s.data.dropWhile isSpace)
  have hd := List.head?_dropWhile_not isSpace s.data
  rw [trim_data] at hc
  cases ht : (s.data.dropWhile isSpace).rdropWhile isSpace with
  | nil => simp [ht] at hc
  | cons d r =>
    rw [ht, List.cons_append] at hu
    simp only [ht, List.head?_cons, Option.mem_def, Option.some.injEq] at hc
    simpa [← hu, hc] using hd

theorem trim_isTrimOf (s : String) : IsTrimOf s.data (trim s).data := by
  refine ⟨s.data.takeWhile isSpace, (s.data.dropWhile isSpace).rtakeWhile isSpace, ?_,
    fun _ => List.mem_takeWhile_imp, fun _ => List.mem_rtakeWhile_imp, fun _ => head?_trim, ?_⟩
  · rw [trim_data, List.append_assoc, rdropWhile_append_rtakeWhile, List.takeWhile_append_dropWhile]
  · intro c hc
    obtain ⟨hne, rfl⟩ := List.mem_getLast?_eq_getLast hc
    simpa using List.rdropWhile_last_not isSpace _ hne

/-- A split of `s` with white-space ends around a `t` that starts and ends with
other characters is unique: `t` is `Trim(s)`. -/
theorem eq_trim_of_isTrimOf {s t : String} (h : IsTrimOf s.data t.data) : t = trim s := by
  obtain ⟨a, b, hs, ha, hb, hhead, hlast⟩ := h
  apply String.ext
  rw [trim_data, hs, List.append_assoc, List.dropWhile_append_of_pos ha]
  cases ht : t.data with
  | nil => simp [List.dropWhile_eq_nil_iff.mpr hb]
  | cons c r =>
    have hc : isSpace c = false := hhead c (by simp [ht])
    rw [List.cons_append, List.dropWhile_cons_of_neg (by simp [hc]), ← List.cons_append,
      rdropWhile_append_of_all _ hb, eq_comm, List.rdropWhile_eq_self_iff]
    intro hne
    simpa using hlast _ (by rw [ht]; exact List.getLast?_eq_getLast _ hne)

theorem trim_trim (s : String) : trim (trim s) = trim s := by
  obtain ⟨-, -, -, -, -, hhead, hlast⟩ := trim_isTrimOf s
  exact (eq_trim_of_isTrimOf ⟨[], [], by simp, by simp, by simp, hhead, hlast⟩).symm

theorem trim_eq_empty_iff (s : String) : trim s = "" ↔ ∀ c ∈ s.data, isSpace c := by
  constructor
  · intro h c hc
    obtain ⟨a, b, hs, ha, hb, -⟩ := trim_isTrimOf s
    rw [h] at hs
    simp only [hs, String.data, List.append_nil, List.mem_append] at hc
    exact hc.elim (ha c) (hb c)
  · intro h
    exact (eq_trim_of_isTrimOf ⟨s.data, [], by simp, h, by simp, by simp, by simp⟩).symm

/-- `Trim(s)` is the `t` of the one split `s = a ++ t ++ b` with white-space
ends and a `t` that is empty or starts and ends with another character; so
`Trim` is idempotent, and empty exactly on white space. -/
theorem trim_strips_ends (s : String) :
    IsTrimOf s.data (trim s).data ∧ (∀ t : String, IsTrimOf s.data t.data → t = trim s) ∧
      trim (trim s) = trim s ∧ (trim s = "" ↔ ∀ c ∈ s.data, isSpace c) :=
  ⟨trim_isTrimOf s, fun _ => eq_trim_of_isTrimOf, trim_trim s, trim_eq_empty_iff s⟩

example : trim " \t 0-3,\n5 \r\n" = "0-3,\n5" := by decide

/-! ## `stream >> token` extracts the maximal runs of other characters -/

/-- `ws` are the words of `cs`: white space, then each word followed by white
space that is nonempty unless the text ends after the word.  Each word is so a
maximal run of characters that are not white space. -/
inductive IsWordsOf : List Char → List (List Char) → Prop
  | blank {g : List Char} : (∀ c ∈ g, isSpace c) → IsWordsOf g []
  | word {g w r : List Char} {ws : List (List Char)} : (∀ c ∈ g, isSpace c) → w ≠ [] →
      (∀ c ∈ w, isSpace c = false) → (∀ c ∈ r.head?, isSpace c) → IsWordsOf r ws →
      IsWordsOf (g ++ w ++ r) (w :: ws)

theorem IsWordsOf.cons_space {c : Char} {cs : List Char} {ws : List (List Char)} (hc : isSpace c)
    (h : IsWordsOf cs ws) : IsWordsOf (c :: cs) ws := by
  cases h with
  | blank hg => exact .blank (List.forall_mem_cons.mpr ⟨hc, hg⟩)
  | word hg hw hwc hr h => exact .word (List.forall_mem_cons.mpr ⟨hc, hg⟩) hw hwc hr h

theorem isWordsOf_cons_iff {cs w : List Char} {ws : List (List Char)} :
    IsWordsOf cs (w :: ws) ↔ ∃ g r, cs = g ++ w ++ r ∧ (∀ c ∈ g, isSpace c) ∧ w ≠ [] ∧
      (∀ c ∈ w, isSpace c = false) ∧ (∀ c ∈ r.head?, isSpace c) ∧ IsWordsOf r ws := by
  constructor
  · rintro (_ | ⟨hg, hw, hwc, hr, h⟩)
    exact ⟨_, _, rfl, hg, hw, hwc, hr, h⟩
  · rintro ⟨g, r, rfl, hg, hw, hwc, hr, h⟩
    exact .word hg hw hwc hr h

/-- The tokenizer, from a word begun with `acc`, renders what it reads. -/
theorem isWordsOf_tokenizeAux (cs acc : List Char) (hacc : ∀ c ∈ acc, isSpace c = false) :
    IsWordsOf (acc.reverse ++ cs) ((tokenizeAux cs acc).map Prod.fst) := by
  induction cs generalizing acc with
  | nil =>
    cases acc with
    | nil => exact .blank (by simp)
    | cons a acc =>
      have h := @IsWordsOf.word [] (a :: acc).reverse [] [] (by simp) (by simp)
        (fun c hc => hacc c (List.mem_reverse.mp hc)) (by simp) (.blank (by simp))
      simpa [tokenizeAux] using h
  | cons c cs ih =>
    by_cases hc : isSpace c
    · have hrest := (ih [] (by simp)).cons_space hc
      cases acc with
      | nil => simpa [tokenizeAux, hc] using hrest
      | cons a acc =>
        have h := @IsWordsOf.word [] (a :: acc).reverse (c :: cs) _ (by simp) (by simp)
          (fun c hc => hacc c (List.mem_reverse.mp hc)) (by simpa using hc) hrest
        simpa [tokenizeAux, hc] using h
    · simpa [tokenizeAux, hc] using ih (c :: acc) (List.forall_mem_cons.mpr ⟨by simpa using hc, hacc⟩)

theorem tokenizeAux_spaces {g : List Char} (hg : ∀ c ∈ g, isSpace c) (cs : List Char) :
    tokenizeAux (g ++ cs) [] = tokenizeAux cs [] := by
  induction g with
  | nil => rfl
  | cons c g ih =>
    obtain ⟨hc, hg⟩ := List.forall_mem_cons.mp hg
    simp [tokenizeAux, hc, ih hg]

theorem tokenizeAux_word {w : List Char} (hw : ∀ c ∈ w, isSpace c = false) (cs acc : List Char) :
    tokenizeAux (w ++ cs) acc = tokenizeAux cs (w.reverse ++ acc) := by
  induction w generalizing acc with
  | nil => rfl
  | cons c w ih =>
    obtain ⟨hc, hw⟩ := List.forall_mem_cons.mp hw
    rw [List.cons_append, tokenizeAux, if_neg (by simp [hc]), ih hw]
    simp

/-- White space or the end of the text closes the word begun. -/
theorem map_fst_tokenizeAux_close {r acc : List Char} (hr : ∀ c ∈ r.head?, isSpace c) (hacc : acc ≠ []) :
    (tokenizeAux r acc).map Prod.fst = acc.reverse :: (tokenizeAux r []).map Prod.fst := by
  cases r with
  | nil => simp [tokenizeAux, hacc]
  | cons c r => simp [tokenizeAux, hr c rfl, hacc]

theorem IsWordsOf.map_fst_tokenizeAux {cs : List Char} {ws : List (List Char)} (h : IsWordsOf cs ws) :
    (tokenizeAux cs []).map Prod.fst = ws := by
  induction h with
  | blank hg => simpa [tokenizeAux] using congrArg (List.map Prod.fst) (tokenizeAux_spaces hg [])
  | word hg hw hwc hr _ ih =>
    rw [List.append_assoc, tokenizeAux_spaces hg, tokenizeAux_word hwc, List.append_nil,
      map_fst_tokenizeAux_close hr (by simpa using hw), List.reverse_reverse, ih]

theorem exists_isWordsOf (cs : List Char) : ∃ ws, IsWordsOf cs ws :=
  ⟨_, by simpa using isWordsOf_tokenizeAux cs [] (by simp)⟩

/-- The tokens `while (stream >> token)` extracts are the words of the text,
its maximal runs of characters that are not white space, and they are unique. -/
theorem words_eq_iff {s : String} {toks : List String} :
    words s = toks ↔ IsWordsOf s.data (toks.map String.data) := by
  have hwords : (words s).map String.data = (tokenizeAux s.data []).map Prod.fst := by
    simp [words, extractions, Function.comp_def]
  constructor
  · rintro rfl
    simpa [hwords] using isWordsOf_tokenizeAux s.data [] (by simp)
  · intro h
    exact List.map_injective_iff.mpr (fun _ _ => String.ext) (hwords.trans h.map_fst_tokenizeAux)

example : words " a\tbc \n" = ["a", "bc"] := by decide

end RmpEval
