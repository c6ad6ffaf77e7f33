/-
Module: XinimTooling.Python.Regex
Purpose: The pieces of Python's `re` that the script's fallback patterns use: the `\s`
  and `\w` classes of `str` patterns, literal matching, and the left-to-right scan of
  `finditer`/`findall` with `^` under `re.MULTILINE`.
Trusted boundary: CPython's `re` engine; the Unicode word class is a parameter
Main exports: isSpace, WordClass, stripLiteral, spanSome, takeOne, findIter, findSpans,
  exists_attempt_of_mem_findIter, forall_mem_findIter, findSpansFrom_bounds,
  findSpansFrom_chain
-/
import Mathlib.Data.List.Chain

namespace XinimTooling

/-!
Each fallback pattern of the script is modelled by a hand-written matcher for one match
attempt at one position.  That is exact because none of the patterns ever needs to
backtrack: every greedy repetition in them is followed by a character outside its class.
`findIter` supplies the rest of `finditer`: where attempts start, and that the scan resumes
after the end of each match.  None of the patterns matches the empty string, so the scan
never takes the empty-match step of CPython.
-/

/-- `\s` in a `str` pattern: the characters for which `str.isspace()` holds. -/
def isSpace (c : Char) : Bool :=
  let n := c.toNat
  (0x09 ≤ n && n ≤ 0x0D) || (0x1C ≤ n && n ≤ 0x20) || n == 0x85 || n == 0xA0 ||
    n == 0x1680 || (0x2000 ≤ n && n ≤ 0x200A) || n == 0x2028 || n == 0x2029 ||
    n == 0x202F || n == 0x205F || n == 0x3000

/-- `\w` in a `str` pattern: Unicode alphanumerics and `_`, which needs the Unicode
database.  It is a parameter, pinned down on ASCII and known to share no character with
`\s`. -/
structure WordClass where
  isWord : Char → Bool
  agrees_on_ascii : ∀ c : Char, c.toNat < 128 →
    (isWord c = true ↔ c.isAlphanum = true ∨ c = '_')
  not_space : ∀ c : Char, isWord c = true → isSpace c = false

/-- An ASCII letter, digit or underscore is not whitespace. -/
theorem isSpace_of_asciiWord {c : Char} (word : (c.isAlphanum || c = '_') = true) :
    isSpace c = false := by
  simp only [Char.isAlphanum, Char.isAlpha, Char.isUpper, Char.isLower, Char.isDigit,
    Bool.or_eq_true, Bool.and_eq_true, decide_eq_true_eq] at word
  rcases word with ((⟨low, high⟩ | ⟨low, high⟩) | ⟨low, high⟩) | rfl
  all_goals first | decide | skip
  all_goals
    simp only [UInt32.le_def, BitVec.le_def, ge_iff_le, UInt32.toBitVec_ofNat,
      BitVec.toNat_ofNat] at low high
    simp only [isSpace, Char.toNat, UInt32.toNat, Bool.or_eq_false_iff, Bool.and_eq_false_iff,
      decide_eq_false_iff_not, Nat.not_le, beq_eq_false_iff_ne, ne_eq]
    omega

/-- The word class restricted to ASCII: `[A-Za-z0-9_]`.  It agrees with Python's on every
ASCII text. -/
def WordClass.ascii : WordClass where
  isWord c := c.isAlphanum || c = '_'
  agrees_on_ascii _ _ := by simp
  not_space _ word := isSpace_of_asciiWord word

/-- Match a literal at the front of the text, returning what follows it. -/
def stripLiteral : List Char → List Char → Option (List Char)
  | [], text => some text
  | _ :: _, [] => none
  | c :: literal, d :: text => if c = d then stripLiteral literal text else none

theorem stripLiteral_eq_some :
    ∀ {literal text rest : List Char}, stripLiteral literal text = some rest →
      text = literal ++ rest
  | [], _, _, stripped => by cases stripped; rfl
  | _ :: _, [], _, stripped => by cases stripped
  | c :: literal, d :: text, rest, stripped => by
      unfold stripLiteral at stripped
      split at stripped
      · next same => rw [same, stripLiteral_eq_some stripped]; rfl
      · cases stripped

/-- Greedy `[class]+`: the longest non-empty run of class characters, and what follows. -/
def spanSome (inClass : Char → Bool) (text : List Char) : Option (List Char × List Char) :=
  match text.span inClass with
  | ([], _) => none
  | run => some run

/-- Inversion of a greedy run: the text splits at the end of a non-empty run of class
characters. -/
theorem spanSome_eq_some {inClass : Char → Bool} {text run rest : List Char}
    (spanned : spanSome inClass text = some (run, rest)) :
    text = run ++ rest ∧ run ≠ [] ∧ ∀ c ∈ run, inClass c = true := by
  unfold spanSome at spanned
  split at spanned
  · cases spanned
  · next notEmpty =>
    have span := Option.some.inj spanned
    rw [List.span_eq_take_drop, Prod.mk.injEq] at span
    obtain ⟨rfl, rfl⟩ := span
    refine ⟨(List.takeWhile_append_dropWhile _ _).symm,
      fun empty => notEmpty (text.dropWhile inClass) ?_, fun c mem => List.mem_takeWhile_imp mem⟩
    rw [List.span_eq_take_drop, empty]

theorem spanSome_fst_ne_nil {inClass : Char → Bool} {text run rest : List Char}
    (spanned : spanSome inClass text = some (run, rest)) : run ≠ [] :=
  (spanSome_eq_some spanned).2.1

/-- One character of a class. -/
def takeOne (inClass : Char → Bool) : List Char → Option (List Char)
  | c :: rest => if inClass c then some rest else none
  | [] => none

theorem takeOne_eq_some {inClass : Char → Bool} :
    ∀ {text rest : List Char}, takeOne inClass text = some rest →
      ∃ c, text = c :: rest ∧ inClass c = true
  | [], _, taken => by cases taken
  | c :: more, rest, taken => by
      by_cases isIn : inClass c = true
      · simp only [takeOne, isIn, if_true, Option.some.injEq] at taken
        exact ⟨c, taken ▸ rfl, isIn⟩
      · simp [takeOne, isIn] at taken

/-- Scan from one position: `skip` characters still belong to the previous match, and
`lineStart` says whether the position is the start of the text or follows a newline. -/
def findIterFrom {α : Type} (attempt : Bool → List Char → Option (α × Nat)) :
    Nat → Bool → List Char → List α
  | _, _, [] => []
  | skip + 1, _, c :: rest => findIterFrom attempt skip (c = '\n') rest
  | 0, lineStart, c :: rest =>
      match attempt lineStart (c :: rest) with
      | some (value, length) => value :: findIterFrom attempt (length - 1) (c = '\n') rest
      | none => findIterFrom attempt 0 (c = '\n') rest

/-- `finditer` over a text, keeping each match's value.  An attempt gets whether `^` holds
at its position and the rest of the text, and returns the value and the length of its
match. -/
def findIter {α : Type} (attempt : Bool → List Char → Option (α × Nat)) (text : String) :
    List α :=
  findIterFrom attempt 0 true text.data

/-- `finditer` with each match's span, `m.start()` and `m.end()`, beside its value:
`position` is the offset of the text's first character. -/
def findSpansFrom {α : Type} (attempt : Bool → List Char → Option (α × Nat)) :
    Nat → Nat → Bool → List Char → List (Nat × Nat × α)
  | _, _, _, [] => []
  | position, skip + 1, _, c :: rest => findSpansFrom attempt (position + 1) skip (c = '\n') rest
  | position, 0, lineStart, c :: rest =>
      match attempt lineStart (c :: rest) with
      | some (value, length) =>
          (position, position + length, value) ::
            findSpansFrom attempt (position + 1) (length - 1) (c = '\n') rest
      | none => findSpansFrom attempt (position + 1) 0 (c = '\n') rest

/-- `list(pattern.finditer(text))`, each match as its start, its end and its value. -/
def findSpans {α : Type} (attempt : Bool → List Char → Option (α × Nat)) (text : String) :
    List (Nat × Nat × α) :=
  findSpansFrom attempt 0 0 true text.data

/-- The positional scan finds the values of `findIter`. -/
theorem map_findSpansFrom {α : Type} (attempt : Bool → List Char → Option (α × Nat)) :
    ∀ (position skip : Nat) (lineStart : Bool) (text : List Char),
      (findSpansFrom attempt position skip lineStart text).map (fun span => span.2.2) =
        findIterFrom attempt skip lineStart text
  | _, _, _, [] => by simp [findSpansFrom, findIterFrom]
  | position, skip + 1, _, c :: rest => map_findSpansFrom attempt (position + 1) skip _ rest
  | position, 0, lineStart, c :: rest => by
      simp only [findSpansFrom, findIterFrom]
      split <;> simp [map_findSpansFrom]

section Spans

variable {α : Type} {attempt : Bool → List Char → Option (α × Nat)}
  (fits : ∀ lineStart text value length, attempt lineStart text = some (value, length) →
    length ≤ text.length)

include fits in
/-- Every reported span lies in the scanned text, after the characters still to skip, when
no attempt reports a match longer than what is left of the text. -/
theorem findSpansFrom_bounds :
    ∀ (position skip : Nat) (lineStart : Bool) (text : List Char),
      ∀ span ∈ findSpansFrom attempt position skip lineStart text,
        position + skip ≤ span.1 ∧ span.1 ≤ span.2.1 ∧ span.2.1 ≤ position + text.length
  | _, _, _, [], _, mem => by simp [findSpansFrom] at mem
  | position, skip + 1, _, c :: rest, span, mem => by
      have := findSpansFrom_bounds (position + 1) skip _ rest span mem
      simp only [List.length_cons]
      omega
  | position, 0, lineStart, c :: rest, span, mem => by
      unfold findSpansFrom at mem
      split at mem
      · next value length found =>
        have short := fits _ _ _ _ found
        rcases List.mem_cons.mp mem with rfl | later
        · simp only [List.length_cons] at short ⊢
          omega
        · have := findSpansFrom_bounds (position + 1) (length - 1) _ rest span later
          simp only [List.length_cons]
          omega
      · have := findSpansFrom_bounds (position + 1) 0 _ rest span mem
        simp only [List.length_cons]
        omega

include fits in
/-- Each reported span starts where the previous one ended, or later. -/
theorem findSpansFrom_chain :
    ∀ (position skip : Nat) (lineStart : Bool) (text : List Char),
      (findSpansFrom attempt position skip lineStart text).Chain'
        fun first second => first.2.1 ≤ second.1
  | _, _, _, [] => by simp [findSpansFrom]
  | position, skip + 1, _, c :: rest => findSpansFrom_chain (position + 1) skip _ rest
  | position, 0, lineStart, c :: rest => by
      unfold findSpansFrom
      split
      · next value length found =>
        refine List.chain'_cons'.mpr ⟨fun next mem => ?_, findSpansFrom_chain _ _ _ rest⟩
        have := (findSpansFrom_bounds fits (position + 1) (length - 1) _ rest next
          (List.mem_of_mem_head? mem)).1
        simp only at this ⊢
        omega
      · exact findSpansFrom_chain (position + 1) 0 _ rest

end Spans

/-- The run lemma of the scan: every value it returns is the value of a successful attempt
at a suffix of the text. -/
theorem exists_attempt_of_mem_findIterFrom {α : Type}
    {attempt : Bool → List Char → Option (α × Nat)} {value : α} :
    ∀ {skip lineStart text}, value ∈ findIterFrom attempt skip lineStart text →
      ∃ atLineStart suffix length, List.IsSuffix suffix text ∧
        attempt atLineStart suffix = some (value, length)
  | _, _, [], mem => by simp [findIterFrom] at mem
  | skip + 1, _, c :: rest, mem => by
      obtain ⟨atLineStart, suffix, length, isSuffix, found⟩ :=
        exists_attempt_of_mem_findIterFrom (by simpa only [findIterFrom] using mem)
      exact ⟨atLineStart, suffix, length, isSuffix.trans (List.suffix_cons c rest), found⟩
  | 0, lineStart, c :: rest, mem => by
      unfold findIterFrom at mem
      split at mem
      · next matched length found =>
        rcases List.mem_cons.mp mem with rfl | later
        · exact ⟨lineStart, c :: rest, length, List.suffix_refl _, found⟩
        · obtain ⟨atLineStart, suffix, length, isSuffix, found⟩ :=
            exists_attempt_of_mem_findIterFrom later
          exact ⟨atLineStart, suffix, length, isSuffix.trans (List.suffix_cons c rest), found⟩
      · obtain ⟨atLineStart, suffix, length, isSuffix, found⟩ :=
          exists_attempt_of_mem_findIterFrom mem
        exact ⟨atLineStart, suffix, length, isSuffix.trans (List.suffix_cons c rest), found⟩

theorem exists_attempt_of_mem_findIter {α : Type}
    {attempt : Bool → List Char → Option (α × Nat)} {text : String} {value : α}
    (mem : value ∈ findIter attempt text) :
    ∃ atLineStart suffix length, List.IsSuffix suffix text.data ∧
      attempt atLineStart suffix = some (value, length) :=
  exists_attempt_of_mem_findIterFrom mem

theorem forall_mem_findIter {α : Type} {attempt : Bool → List Char → Option (α × Nat)}
    {P : α → Prop}
    (each : ∀ lineStart text value length, attempt lineStart text = some (value, length) →
      P value) (text : String) :
    ∀ value ∈ findIter attempt text, P value := fun _ mem =>
  let ⟨lineStart, suffix, length, _, found⟩ := exists_attempt_of_mem_findIter mem
  each lineStart suffix _ length found

end XinimTooling
