/-
Module: XinimTooling.Tools.ModernizeKrFile
Purpose: `tools/modernize_kr_file.py`: the `KR_PATTERN` match of a K&R definition header,
  the ANSI signature `modernize_file` builds from its groups, and the loop that splices the
  signatures into the text from the last match to the first.
Trusted boundary: CPython's `re`, whose backtracking is written out below; `read_text`,
  `write_text` and the printed `str(path)` are the caller's
Main exports: KrGroups, krAttempt, signature, Edit, spliceAll, replaceSpans, modernizeText,
  modernizeFile, spliceAll_eq_take_append
-/
import XinimTooling.Python.Str
import XinimTooling.Python.Dict

namespace XinimTooling.ModernizeKrFile

/-! ### `KR_PATTERN`

`^([A-Za-z_][A-Za-z0-9_]*\s+)?([A-Za-z_][A-Za-z0-9_]*)\(([^)])*\)\s*\n([^{]+);` under
`re.MULTILINE`.  The identifiers, the whitespace of group 1 and `([^)])*` never give
characters back, since what follows each lies outside its class.  Two repetitions do
backtrack, `\s*` before `\n` and `[^{]+` before `;`; both are written as the search the
engine makes, the longest run first.
-/

/-- `[A-Za-z_]`. -/
def isIdentifierStart (c : Char) : Bool := c.isAlpha || c = '_'

/-- `[A-Za-z0-9_]`. -/
def isIdentifierChar (c : Char) : Bool := c.isAlphanum || c = '_'

/-- `[A-Za-z_][A-Za-z0-9_]*`: the identifier and what follows it. -/
def identifier : List Char → Option (List Char × List Char)
  | c :: rest =>
      if isIdentifierStart c then
        some (c :: rest.takeWhile isIdentifierChar, rest.dropWhile isIdentifierChar)
      else none
  | [] => none

/-- `\s*\n` followed by the rest of the pattern: the greedy `\s*` first takes the
character if it can, and gives it back when the rest fails; the `\n` then has to match
it. -/
def spacesNewlineThen {β : Type} (continuation : List Char → Option β) :
    List Char → Option β
  | [] => none
  | c :: rest =>
      (if isSpace c then spacesNewlineThen continuation rest else none) <|>
        (if c = '\n' then continuation rest else none)

/-- `([^{]+);`: the longest run of characters other than `{` that a `;` follows, and
what follows the `;`. -/
def declarationsSemicolon : List Char → Option (List Char × List Char)
  | [] => none
  | c :: rest =>
      if c = '{' then none
      else match declarationsSemicolon rest with
        | some (run, after) => some (c :: run, after)
        | none => if rest.head? = some ';' then some ([c], rest.tail) else none

/-- The groups of a match.  Group 3 sits in a repetition, so Python keeps the character
of its last iteration, or `None` when the parentheses are empty. -/
structure KrGroups where
  group1 : Option (List Char)
  group2 : List Char
  group3 : Option Char
  group4 : List Char
deriving Repr, DecidableEq

/-- The pattern from group 2 on, given group 1: the groups and what follows the match. -/
def headerFrom (group1 : Option (List Char)) (text : List Char) :
    Option (KrGroups × List Char) := do
  let (name, rest) ← identifier text
  let rest ← takeOne (· = '(') rest
  let (parameters, rest) := rest.span (· != ')')
  let rest ← takeOne (· = ')') rest
  let (declarations, rest) ← spacesNewlineThen declarationsSemicolon rest
  pure (⟨group1, name, parameters.getLast?, declarations⟩, rest)

/-- One attempt of `KR_PATTERN`: where `^` holds, the optional group 1 is tried present,
then absent.  Returns the groups and the length of the match. -/
def krAttempt (lineStart : Bool) (text : List Char) : Option (KrGroups × Nat) := do
  guard lineStart
  let present := do
    let (returnType, rest) ← identifier text
    let (spaces, rest) ← spanSome isSpace rest
    headerFrom (some (returnType ++ spaces)) rest
  let (groups, rest) ← present <|> headerFrom none text
  pure (groups, text.length - rest.length)

theorem krAttempt_length_le {lineStart : Bool} {text : List Char} {groups : KrGroups}
    {length : Nat} (found : krAttempt lineStart text = some (groups, length)) :
    length ≤ text.length := by
  simp only [krAttempt, Option.bind_eq_bind, Option.bind_eq_some] at found
  obtain ⟨_, _, ⟨_, rest⟩, _, finished⟩ := found
  cases finished
  exact Nat.sub_le _ _

/-- `list(KR_PATTERN.finditer(content))`: each match's start, end and groups. -/
def krMatches (content : String) : List (Nat × Nat × KrGroups) :=
  findSpans krAttempt content

/-! ### The signature of one match -/

/-- The exceptions `modernize_file` raises on the text it has read. -/
inductive ModernizeError where
  /-- `m.group(3).strip()` where the parentheses are empty and group 3 is `None`. -/
  | attributeError
  /-- `t, var = decl.rsplit(' ', 1)` on a declaration line with no space. -/
  | valueError
deriving Repr, DecidableEq

/-- The `for decl in decls` loop: each line, stripped of trailing `;` and of whitespace,
maps the name after its last space to the type before it. -/
def paramMapFrom : PyDict String → List (List Char) → Except ModernizeError (PyDict String)
  | paramMap, [] => pure paramMap
  | paramMap, decl :: decls =>
      let decl := Str.strip (Str.rstrip (· = ';') decl)
      if decl = [] then paramMapFrom paramMap decls
      else match Str.rsplitOnce ' ' decl with
        | some (t, var) => paramMapFrom (paramMap.setItem (String.mk var) (String.mk t)) decls
        | none => throw .valueError

/-- The `param_list` loop: each comma-separated part of `params`, stripped, with the type
`param_map` gives it, `int` by default. -/
def paramList (paramMap : PyDict String) (params : List Char) : List (List Char) :=
  if params = [] then []
  else (params.splitOn ',').map fun p =>
    let p := Str.strip p
    (paramMap.getD (String.mk p) "int").toList ++ ' ' :: p

/-- The body of the loop of `modernize_file` up to `sig`. -/
def signature (groups : KrGroups) : Except ModernizeError (List Char) := do
  let ret := match groups.group1 with
    | some group1 => if group1 = [] then "int".toList else Str.strip group1
    | none => "int".toList
  let name := groups.group2
  let params ← match groups.group3 with
    | some last => pure (Str.strip [last])
    | none => throw .attributeError
  let decls := (Str.strip groups.group4).splitOn '\n'
  let paramMap ← paramMapFrom PyDict.empty decls
  let paramList := paramList paramMap params
  pure (ret ++ ' ' :: name ++ '(' ::
    (if paramList = [] then "void".toList else ", ".toList.intercalate paramList) ++ [')'])

/-! ### Splicing from the last match to the first -/

/-- A match span, `m.start()` to `m.end()`, and the text that replaces it. -/
structure Edit where
  start : Nat
  stop : Nat
  replacement : List Char
deriving Repr, DecidableEq

/-- `new_content[:m.start()] + sig + new_content[m.end():]`. -/
def splice (text : List Char) (edit : Edit) : List Char :=
  text.take edit.start ++ edit.replacement ++ text.drop edit.stop

/-- The loop `for m in reversed(matches)`, each replacement already computed. -/
def spliceAll (text : List Char) (edits : List Edit) : List Char :=
  edits.reverse.foldl splice text

/-- The text the loop is meant to build, read from left to right: the characters before
the first span, its replacement, the characters between the first and the second span,
and so on to the characters after the last span. -/
def replaceSpans (text : List Char) : Nat → List Edit → List Char
  | position, [] => text.drop position
  | position, edit :: edits =>
      (text.drop position).take (edit.start - position) ++ edit.replacement ++
        replaceSpans text edit.stop edits

@[simp] theorem spliceAll_nil (text : List Char) : spliceAll text [] = text := rfl

/-- The first match is spliced last, into the text the later ones left. -/
theorem spliceAll_cons (text : List Char) (edit : Edit) (edits : List Edit) :
    spliceAll text (edit :: edits) = splice (spliceAll text edits) edit := by
  simp [spliceAll]

/-- Splicing spans that start at `position` or later keeps the text before `position`:
the reason the loop runs from the last match, whose offsets the earlier splices would
move. -/
theorem spliceAll_eq_take_append (text : List Char) :
    ∀ (position : Nat) (edits : List Edit),
      (∀ edit ∈ edits, edit.start ≤ edit.stop ∧ edit.stop ≤ text.length) →
      edits.Chain' (fun first second => first.stop ≤ second.start) →
      (∀ edit ∈ edits.head?, position ≤ edit.start) →
      spliceAll text edits = text.take position ++ replaceSpans text position edits
  | position, [], _, _, _ => by simp [replaceSpans]
  | position, edit :: edits, inText, increasing, after => by
      obtain ⟨startLe, stopLe⟩ := inText edit (List.mem_cons_self _ _)
      have firstAfter : position ≤ edit.start := after edit rfl
      have later := spliceAll_eq_take_append text edit.stop edits
        (fun other mem => inText other (List.mem_cons_of_mem _ mem))
        (List.chain'_cons'.mp increasing).2 (List.chain'_cons'.mp increasing).1
      have keptLength : (text.take edit.stop).length = edit.stop := by simp; omega
      have split : text.take edit.start =
          text.take position ++ (text.drop position).take (edit.start - position) := by
        rw [← List.take_add, Nat.add_sub_cancel' firstAfter]
      rw [spliceAll_cons, later, splice, replaceSpans,
        List.take_append_of_le_length (by omega), List.take_take, Nat.min_eq_left startLe,
        List.drop_left' keptLength, split]
      simp only [List.append_assoc]

/-- The loop splices every span and keeps every character outside them, in order, when
the spans lie in the text and each starts where the previous one ended or later. -/
theorem spliceAll_eq_replaceSpans (text : List Char) (edits : List Edit)
    (inText : ∀ edit ∈ edits, edit.start ≤ edit.stop ∧ edit.stop ≤ text.length)
    (increasing : edits.Chain' fun first second => first.stop ≤ second.start) :
    spliceAll text edits = replaceSpans text 0 edits := by
  simpa using spliceAll_eq_take_append text 0 edits inText increasing fun _ _ => Nat.zero_le _

theorem spliceAll_eq_replaceSpans_twoEdits :
    (∀ edit ∈ ([⟨1, 2, "XY".toList⟩, ⟨4, 6, []⟩] : List Edit), edit.start ≤ edit.stop ∧
        edit.stop ≤ "abcdefg".toList.length) ∧
      [Edit.mk 1 2 "XY".toList, ⟨4, 6, []⟩].Chain' (fun first second =>
        first.stop ≤ second.start) ∧
      spliceAll "abcdefg".toList [⟨1, 2, "XY".toList⟩, ⟨4, 6, []⟩] =
        replaceSpans "abcdefg".toList 0 [⟨1, 2, "XY".toList⟩, ⟨4, 6, []⟩] :=
  ⟨by decide, .cons (by decide) .nil,
    spliceAll_eq_replaceSpans "abcdefg".toList _ (by decide) (.cons (by decide) .nil)⟩

/-! ### `modernize_file` -/

/-- One iteration of `for m in reversed(matches)`: the match's signature spliced over its
span. -/
def modernizeStep (newContent : List Char) (m : Nat × Nat × KrGroups) :
    Except ModernizeError (List Char) := do
  let sig ← signature m.2.2
  pure (splice newContent ⟨m.1, m.2.1, sig⟩)

/-- Lines 11 to 33 of `modernize_file`: `new_content` after the loop. -/
def modernizeText (content : String) : Except ModernizeError (List Char) :=
  (krMatches content).reverse.foldlM modernizeStep content.data

/-- What `modernize_file` writes and prints: the text of the `.kr_backup` file, the new
text of the file, and the message. -/
structure ModernizeEffects where
  backup : Option String
  written : Option String
  printed : String
deriving Repr, DecidableEq

/-- `modernize_file(path, dry_run, no_backup)` on a file whose `read_text()` is `content`,
`path` standing for `str(path)`. -/
def modernizeFile (path content : String) (dryRun noBackup : Bool) :
    Except ModernizeError ModernizeEffects := do
  let newContent := String.mk (← modernizeText content)
  if newContent ≠ content then
    pure ⟨if !dryRun && !noBackup then some content else none,
      if !dryRun then some newContent else none, "Modernized " ++ path⟩
  else
    pure ⟨none, none, "No K&R style found in " ++ path⟩

/-- Group 3 keeps only the last character between the parentheses: the header `f(a, b)` is
matched whole, and the signature written over it declares one parameter, `b`. -/
theorem twoParameterHeader_loses_parameter :
    krMatches "f(a, b)\nint a;\nint b;\n\x7b\n\x7d\n" =
        [(0, 21, ⟨none, "f".toList, some 'b', "int a;\nint b".toList⟩)] ∧
      modernizeFile "a.c" "f(a, b)\nint a;\nint b;\n\x7b\n\x7d\n" false true =
        .ok ⟨none, some "int f(int b)\n\x7b\n\x7d\n", "Modernized a.c"⟩ :=
  ⟨by decide, rfl⟩

/-- The step lemma of the loop. -/
theorem modernizeStep_eq_ok {newContent result : List Char} {m : Nat × Nat × KrGroups}
    (step : modernizeStep newContent m = .ok result) :
    ∃ sig, signature m.2.2 = .ok sig ∧ result = splice newContent ⟨m.1, m.2.1, sig⟩ := by
  unfold modernizeStep at step
  cases found : signature m.2.2 with
  | error _ => rw [found] at step; cases step
  | ok sig => rw [found] at step; cases step; exact ⟨sig, rfl, rfl⟩

/-- The edits a list of headers and their signatures give. -/
def editsOf (headers : List (Nat × Nat × KrGroups)) (signatures : List (List Char)) :
    List Edit :=
  List.zipWith (fun m sig => ⟨m.1, m.2.1, sig⟩) headers signatures

/-- The run lemma of the loop: when no iteration raises, it splices the signature of every
match. -/
theorem foldlM_modernizeStep (text : List Char) :
    ∀ (headers : List (Nat × Nat × KrGroups)) (newContent : List Char),
      headers.reverse.foldlM modernizeStep text = .ok newContent →
      ∃ signatures, List.Forall₂ (fun m sig => signature m.2.2 = .ok sig) headers signatures ∧
        newContent = spliceAll text (editsOf headers signatures)
  | [], newContent, done => by
      cases done
      exact ⟨[], List.Forall₂.nil, rfl⟩
  | m :: headers, newContent, done => by
      rw [List.reverse_cons, List.foldlM_append] at done
      cases earlier : headers.reverse.foldlM modernizeStep text with
      | error _ => rw [earlier] at done; cases done
      | ok middle =>
        rw [earlier] at done
        change List.foldlM modernizeStep middle [m] = _ at done
        simp only [List.foldlM_cons, List.foldlM_nil, bind_pure] at done
        obtain ⟨sig, found, rfl⟩ := modernizeStep_eq_ok done
        obtain ⟨signatures, each, rfl⟩ := foldlM_modernizeStep text headers middle earlier
        exact ⟨sig :: signatures, List.Forall₂.cons found each, (spliceAll_cons _ _ _).symm⟩

/-- The edits keep the spans of their headers. -/
theorem map_span_editsOf {headers : List (Nat × Nat × KrGroups)} {signatures : List (List Char)}
    {R : Nat × Nat × KrGroups → List Char → Prop} (paired : List.Forall₂ R headers signatures) :
    (editsOf headers signatures).map (fun edit => (edit.start, edit.stop)) =
      headers.map fun m => (m.1, m.2.1) := by
  induction paired with
  | nil => rfl
  | cons _ _ ih => simp only [editsOf, List.zipWith_cons_cons, List.map_cons] at ih ⊢; rw [ih]

/-- A run of `modernize_file` that does not raise leaves the text with every match of
`KR_PATTERN` replaced by the signature of its groups, and every other character kept, in
order. -/
theorem modernizeText_eq_replaceSpans (content : String) (newContent : List Char)
    (done : modernizeText content = .ok newContent) :
    ∃ signatures,
      List.Forall₂ (fun m sig => signature m.2.2 = .ok sig) (krMatches content) signatures ∧
        newContent = replaceSpans content.data 0 (editsOf (krMatches content) signatures) := by
  obtain ⟨signatures, each, rfl⟩ := foldlM_modernizeStep content.data _ newContent done
  have fits : ∀ lineStart text (groups : KrGroups) length,
      krAttempt lineStart text = some (groups, length) → length ≤ text.length :=
    fun _ _ _ _ found => krAttempt_length_le found
  have spans := map_span_editsOf each
  refine ⟨signatures, each, ?_⟩
  refine (spliceAll_eq_take_append content.data 0 _ (fun edit mem => ?_) ?_ fun _ _ =>
    Nat.zero_le _).trans (by simp)
  · obtain ⟨m, mem, same⟩ : ∃ m ∈ krMatches content, (m.1, m.2.1) = (edit.start, edit.stop) := by
      rw [← List.mem_map, ← spans]; exact List.mem_map_of_mem _ mem
    have := findSpansFrom_bounds fits 0 0 true content.data m mem
    simp only [Prod.mk.injEq] at same
    omega
  · have mapped : ((editsOf (krMatches content) signatures).map fun edit =>
        (edit.start, edit.stop)).Chain' fun first second => first.2 ≤ second.1 := by
      rw [spans, List.chain'_map]
      exact findSpansFrom_chain fits 0 0 true content.data
    exact (List.chain'_map _).mp mapped

theorem modernizeText_eq_replaceSpans_oneHeader :
    modernizeText "f(a)\nchar a;\n\x7b\n\x7d\n" = .ok "int f(char a)\n\x7b\n\x7d\n".toList ∧
      ∃ signatures, List.Forall₂ (fun m sig => signature m.2.2 = .ok sig)
          (krMatches "f(a)\nchar a;\n\x7b\n\x7d\n") signatures ∧
        "int f(char a)\n\x7b\n\x7d\n".toList = replaceSpans "f(a)\nchar a;\n\x7b\n\x7d\n".data 0
          (editsOf (krMatches "f(a)\nchar a;\n\x7b\n\x7d\n") signatures) :=
  ⟨rfl, modernizeText_eq_replaceSpans _ _ rfl⟩

end XinimTooling.ModernizeKrFile
