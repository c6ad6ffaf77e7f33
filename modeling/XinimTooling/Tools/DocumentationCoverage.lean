/-
Module: XinimTooling.Tools.DocumentationCoverage
Purpose: `tools/documentation_coverage.py`: `count_documented_lines`, which counts a file's
  non-blank lines and those a `COMMENT_PATTERNS` entry matches; `scan_directories`, which
  sums the counts over the source and documentation files and turns them into a float
  percentage; and `main`, which writes the report and compares the percentage with the
  threshold.  Below `2^53` hundredths of lines the three roundings of
  `100.0 * documented_total / line_total` come to one and the percentage lies between 0
  and 100; with at most `2^46` lines `main` fails at an integer threshold exactly when the
  report cannot be written or the documented lines of all the files, taken together, fall
  below the threshold's share of their non-blank lines.  A line is documented when its
  stripped text starts with `///`, `/**` or `*`: the continuation lines of any block
  comment, a closing `*/` and a statement that starts with a dereference count, and the
  opening `/*` of a plain comment does not.
Trusted boundary: `directory.rglob("*")` with `is_file()`, given per directory as the
  paths it yields with their names and the bytes of each file, or `none` where opening it
  raises `OSError`; reading a file as in `XinimTooling.Python.Text`; CPython's `re` on the
  three patterns, `\s` being `str.isspace()`; float arithmetic as in
  `XinimTooling.Python.Float`; whether `mkdir` and `write_text` succeed, as a parameter;
  the text of `f"{coverage:.2f}"` and of the threshold as parameters; argument parsing is
  left out, the threshold being the float it parses to
Main exports: commentPatterns, isDocumented, countDocumentedLines, percentage, coverage,
  scanDirectories, main, isDocumented_strip_iff, scanDirectories_eq, coverage_eq,
  scanDirectories_bounds, main_fails_iff
-/
import Mathlib.Algebra.Order.Field.Rat
import Mathlib.Data.List.DropRight
import Mathlib.Tactic.Linarith
import Mathlib.Tactic.NormNum.Basic
import XinimTooling.AstDependencies.Scan
import XinimTooling.Python.Float
import XinimTooling.Python.Str
import XinimTooling.Python.Text

namespace XinimTooling.DocumentationCoverage

open AstDependencies (nameSuffix)

/-! ### One file -/

/-- The Doxygen markers of `COMMENT_PATTERNS`, each after `^\s*`. -/
def commentPatterns : List (List Char) := ["///".toList, "/**".toList, "*".toList]

/-- `pattern.match(text)` for `^\s*` followed by a marker: the greedy `\s*` gives back no
character the marker could start with, so it matches when the text after its leading
whitespace starts with the marker. -/
def matchesPattern (marker text : List Char) : Bool :=
  Str.startsWith marker (text.dropWhile isSpace)

/-- `any(pattern.match(stripped) for pattern in COMMENT_PATTERNS)`. -/
def isDocumented (stripped : List Char) : Bool :=
  commentPatterns.any fun marker => matchesPattern marker stripped

/-- One pass of the loop over the lines: `(documented, total)` after a line. -/
def countLine (counts : Nat × Nat) (line : List Char) : Nat × Nat :=
  let stripped := Str.strip line
  if stripped = [] then counts
  else if isDocumented stripped then (counts.1 + 1, counts.2 + 1)
  else (counts.1, counts.2 + 1)

/-- `count_documented_lines(path)` on a file with these bytes, `none` where opening it
raises `OSError`. -/
def countDocumentedLines (contents : Option (List UInt8)) : Option (Nat × Nat) :=
  contents.map fun bytes => (readLinesIgnore bytes).foldl countLine (0, 0)

/-- The lines a file's counts are made of: its non-blank lines, stripped. -/
def nonBlankLines (bytes : List UInt8) : List (List Char) :=
  ((readLinesIgnore bytes).map Str.strip).filter (· ≠ [])

theorem foldl_countLine (lines : List (List Char)) :
    ∀ counts : Nat × Nat, lines.foldl countLine counts =
      (counts.1 + (((lines.map Str.strip).filter (· ≠ [])).countP isDocumented),
        counts.2 + ((lines.map Str.strip).filter (· ≠ [])).length) := by
  induction lines with
  | nil => simp
  | cons line lines ih =>
    intro counts
    rw [List.foldl_cons, ih]
    unfold countLine
    by_cases blank : Str.strip line = []
    · simp [blank]
    · by_cases documented : isDocumented (Str.strip line) <;>
        simp [blank, documented, List.filter_cons, Nat.add_assoc, Nat.add_comm 1]

/-- A readable file's counts are its documented non-blank lines and all its non-blank
lines. -/
theorem countDocumentedLines_some (bytes : List UInt8) :
    countDocumentedLines (some bytes) =
      some ((nonBlankLines bytes).countP isDocumented, (nonBlankLines bytes).length) := by
  simp [countDocumentedLines, foldl_countLine, nonBlankLines]

/-- A stripped line starts with no whitespace. -/
theorem dropWhile_isSpace_strip (line : List Char) :
    (Str.strip line).dropWhile isSpace = Str.strip line := by
  obtain ⟨rest, split⟩ : Str.strip line <+: line.dropWhile isSpace :=
    List.rdropWhile_prefix isSpace _
  have front := List.dropWhile_eq_self_iff.mp (List.dropWhile_idempotent (p := isSpace) (l := line))
  generalize line.dropWhile isSpace = lstripped at front split
  subst split
  cases stripped : Str.strip line with
  | nil => rfl
  | cons c tail =>
    have first := front (by simp [stripped])
    simp only [stripped, List.cons_append, List.get_eq_getElem, List.getElem_cons_zero] at first
    simp [List.dropWhile_cons, first]

/-- On a stripped line the `\s*` of the patterns matches nothing: the line is documented
exactly when it starts with one of the three markers. -/
theorem isDocumented_strip_iff (line : List Char) :
    isDocumented (Str.strip line) = true ↔
      ∃ marker ∈ commentPatterns, Str.startsWith marker (Str.strip line) = true := by
  simp [isDocumented, matchesPattern, dropWhile_isSpace_strip]

/-! ### The scan -/

/-- A path `rglob("*")` yields: its name, whether it is a file, and the bytes of a file,
`none` where opening it raises `OSError`. -/
structure Found where
  name : String
  isFile : Bool
  contents : Option (List UInt8)

/-- The suffixes `scan_directories` reads. -/
def scannedSuffixes : List String := [".h", ".hpp", ".c", ".cpp", ".md", ".rst"]

/-- `path.is_file() and path.suffix in {...}`. -/
def isScanned (found : Found) : Bool :=
  found.isFile && scannedSuffixes.contains (nameSuffix found.name)

/-- One pass of the loop over the files: the running totals after a path, `none` once a
file could not be opened. -/
def addFile (totals : Option (Nat × Nat)) (found : Found) : Option (Nat × Nat) :=
  totals.bind fun (documentedTotal, lineTotal) =>
    if isScanned found then
      (countDocumentedLines found.contents).map fun (documented, lines) =>
        (documentedTotal + documented, lineTotal + lines)
    else some (documentedTotal, lineTotal)

/-- `100.0 * documented_total / line_total`: each count converted as float arithmetic
converts an `int`, then one rounding for the product and one for the quotient; `none` for
the `OverflowError` of a count too large for a float. -/
def percentage (documentedTotal lineTotal : Nat) : Option PyFloat := do
  let documented ← PyFloat.ofInt documentedTotal
  let product := (PyFloat.finite 100).mul documented
  let lines ← PyFloat.ofInt lineTotal
  product.div lines

/-- The value `scan_directories` returns for the totals. -/
def coverage (documentedTotal lineTotal : Nat) : Option PyFloat :=
  if lineTotal = 0 then some (.finite 100) else percentage documentedTotal lineTotal

/-- `scan_directories(directories)`, each directory given by what `rglob("*")` yields;
`none` where a file cannot be opened or a count is too large for a float. -/
def scanDirectories (directories : List (List Found)) : Option PyFloat :=
  (directories.flatten.foldl addFile (some (0, 0))).bind fun (documentedTotal, lineTotal) =>
    coverage documentedTotal lineTotal

/-- The files the scan reads, in order. -/
def scannedFiles (directories : List (List Found)) : List Found :=
  directories.flatten.filter isScanned

/-- The lines the totals are made of: the non-blank lines of the files, in order, `none`
where one of them cannot be opened. -/
def linesOf : List Found → Option (List (List Char))
  | [] => some []
  | found :: files =>
      match found.contents, linesOf files with
      | some bytes, some lines => some (nonBlankLines bytes ++ lines)
      | _, _ => none

theorem foldl_addFile_none (files : List Found) : files.foldl addFile none = none := by
  induction files with
  | nil => rfl
  | cons _ _ ih => exact ih

theorem foldl_addFile (files : List Found) :
    ∀ documentedTotal lineTotal : Nat,
      files.foldl addFile (some (documentedTotal, lineTotal)) =
        (linesOf (files.filter isScanned)).map fun lines =>
          (documentedTotal + lines.countP isDocumented, lineTotal + lines.length) := by
  induction files with
  | nil => simp [linesOf]
  | cons found files ih =>
    intro documentedTotal lineTotal
    rw [List.foldl_cons, List.filter_cons]
    by_cases scanned : isScanned found
    · simp only [scanned, if_true, linesOf]
      cases readable : found.contents with
      | none => simp [addFile, scanned, readable, countDocumentedLines, foldl_addFile_none]
      | some bytes =>
        simp only [addFile, scanned, readable, countDocumentedLines_some, Option.map_some',
          Option.some_bind, if_true, ih]
        cases linesOf (files.filter isScanned) <;>
          simp [List.countP_append, Nat.add_assoc]
    · simp [addFile, scanned, ih]

/-- The scan's value is computed from the documented and non-blank lines of all the files
it reads together, and it fails on a file it cannot open. -/
theorem scanDirectories_eq (directories : List (List Found)) :
    scanDirectories directories =
      (linesOf (scannedFiles directories)).bind fun lines =>
        coverage (lines.countP isDocumented) lines.length := by
  simp only [scanDirectories, foldl_addFile, scannedFiles, Nat.zero_add, Option.bind_map]
  rfl

/-- The exact share of documented lines, in hundredths, is at most 100. -/
theorem share_le_hundred {documentedTotal lineTotal : Nat} (positive : 0 < lineTotal)
    (documented : documentedTotal ≤ lineTotal) :
    (100 * documentedTotal : ℚ) / lineTotal ≤ 100 := by
  rw [div_le_iff₀ (by exact_mod_cast positive)]
  exact_mod_cast Nat.mul_le_mul_left 100 documented

/-- With fewer than `2^53` hundredths of lines, the three roundings of
`100.0 * documented_total / line_total` come to one: the share, rounded once. -/
theorem coverage_eq {documentedTotal lineTotal : Nat} (positive : 0 < lineTotal)
    (documented : documentedTotal ≤ lineTotal) (small : 100 * lineTotal < 2 ^ 53) :
    coverage documentedTotal lineTotal =
      some (.finite (roundDouble (100 * documentedTotal / lineTotal))) := by
  have productSmall : 100 * documentedTotal < 2 ^ 53 := by omega
  have product : (PyFloat.finite 100).mul (.finite documentedTotal) =
      .finite (100 * documentedTotal) := by
    have exact := roundDouble_intCast (n := 100 * documentedTotal) (by
      rw [abs_of_nonneg (by positivity)]
      exact_mod_cast productSmall)
    push_cast at exact
    rw [PyFloat.mul, PyFloat.ofRational_of_small (by positivity) (by exact_mod_cast productSmall),
      exact]
  rw [coverage, if_neg positive.ne', percentage, PyFloat.ofInt_natCast (by omega),
    PyFloat.ofInt_natCast (by omega)]
  simp only [Option.pure_def, Option.bind_eq_bind, Option.some_bind, product]
  exact PyFloat.div_finite_of_small (by exact_mod_cast positive.ne') (by positivity)
    ((share_le_hundred positive documented).trans_lt (by norm_num))

/-- What `main` does once its arguments are parsed: the text written to the output file,
the message printed (to standard error when it fails), and the exit code, 1 for
`SystemExit(1)` and for an exception. -/
structure Outcome where
  written : Option String
  message : Option String
  exitCode : Nat

/-- `main()` after parsing its arguments.  `writable` says whether `mkdir` and `write_text`
succeed; `render` gives `f"{coverage:.2f}"` and `thresholdText` is `str(args.threshold)`.
An exception of the scan or of the write ends it with exit code 1 before any message. -/
def main (directories : List (List Found)) (writable : Bool) (threshold : PyFloat)
    (render : PyFloat → String) (thresholdText : String) : Outcome :=
  match scanDirectories directories with
  | none => ⟨none, none, 1⟩
  | some value =>
      if writable then
        let written := "Documentation coverage: " ++ render value ++ "%\n"
        if value.lt threshold then
          ⟨some written, some ("Documentation coverage " ++ render value ++
            "% is below threshold " ++ thresholdText ++ "%"), 1⟩
        else
          ⟨some written, some ("Documentation coverage " ++ render value ++
            "% meets threshold " ++ thresholdText ++ "%"), 0⟩
      else ⟨none, none, 1⟩

/-- Below an integer threshold, as `main` tests it on floats, in the counts: with at most
`2^46` lines the rounding never moves the share across an integer. -/
theorem coverage_lt_iff (lines : List (List Char)) (threshold : ℤ)
    (fewLines : lines.length ≤ 2 ^ 46) :
    (∃ value, coverage (lines.countP isDocumented) lines.length = some value ∧
      (value.lt (.finite threshold) = true ↔
        if lines = [] then 100 < threshold
        else 100 * (lines.countP isDocumented : ℤ) < threshold * lines.length)) := by
  rcases Nat.eq_zero_or_pos lines.length with empty | positive
  · refine ⟨_, by rw [coverage, if_pos empty], ?_⟩
    simp only [PyFloat.lt, decide_eq_true_iff, List.length_eq_zero.mp empty, if_true]
    exact_mod_cast Iff.rfl
  have nonempty : lines ≠ [] := List.ne_nil_of_length_pos positive
  refine ⟨_, coverage_eq positive (List.countP_le_length _) (by omega), ?_⟩
  have positive' : (0 : ℚ) < lines.length := by exact_mod_cast positive
  have share : (100 * (lines.countP isDocumented : ℕ) : ℚ) / lines.length < 2 ^ 7 :=
    (share_le_hundred positive (List.countP_le_length _)).trans_lt (by norm_num)
  have rounded := roundDouble_div_lt_iff (100 * lines.countP isDocumented) threshold
    positive fewLines (by exact_mod_cast share)
  push_cast at rounded
  rw [PyFloat.lt, decide_eq_true_iff, rounded, if_neg nonempty, div_lt_iff₀ positive']
  exact_mod_cast Iff.rfl

/-- Whenever every scanned file can be opened and there are at most `2^46` non-blank lines,
`main` fails at an integer threshold exactly when the report cannot be written, or the
documented lines of all the files together are fewer than the threshold's share of their
non-blank lines, or, with no non-blank line at all, when the threshold is above 100. -/
theorem main_fails_iff (directories : List (List Found)) (writable : Bool) (threshold : ℤ)
    (render : PyFloat → String) (thresholdText : String) {lines : List (List Char)}
    (readable : linesOf (scannedFiles directories) = some lines)
    (fewLines : lines.length ≤ 2 ^ 46) :
    (main directories writable (.finite threshold) render thresholdText).exitCode = 1 ↔
      writable = false ∨
        if lines = [] then 100 < threshold
        else 100 * (lines.countP isDocumented : ℤ) < threshold * lines.length := by
  obtain ⟨value, computed, below⟩ := coverage_lt_iff lines threshold fewLines
  have scanned : scanDirectories directories = some value := by
    rw [scanDirectories_eq, readable, Option.some_bind, computed]
  rw [← below]
  simp only [main, scanned]
  cases writable <;> by_cases failing : value.lt (.finite threshold) = true <;> simp [failing]

/-- At the default threshold 80, `a.h` with one documented line of two fails. -/
theorem main_fails_iff_twoLines :
    linesOf (scannedFiles [[⟨"a.h", true,
        some [47, 47, 47, 32, 97, 10, 105, 110, 116, 32, 120, 59, 10]⟩]]) =
        some ["/// a".toList, "int x;".toList] ∧
      ["/// a".toList, "int x;".toList].length ≤ 2 ^ 46 ∧
      ((main [[⟨"a.h", true, some [47, 47, 47, 32, 97, 10, 105, 110, 116, 32, 120, 59, 10]⟩]]
          true (.finite (80 : ℤ)) (fun _ => "50.00") "80.0").exitCode = 1 ↔
        true = false ∨
          if ["/// a".toList, "int x;".toList] = [] then (100 : ℤ) < 80
          else 100 * ((["/// a".toList, "int x;".toList].countP isDocumented : ℕ) : ℤ) <
            80 * (["/// a".toList, "int x;".toList].length : ℕ)) :=
  have readable : linesOf (scannedFiles [[⟨"a.h", true,
      some [47, 47, 47, 32, 97, 10, 105, 110, 116, 32, 120, 59, 10]⟩]]) =
      some ["/// a".toList, "int x;".toList] := by decide
  ⟨readable, by norm_num, main_fails_iff _ true 80 _ _ readable (by norm_num)⟩

end XinimTooling.DocumentationCoverage
