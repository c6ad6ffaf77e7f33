/-
Module: XinimTooling.AstDependencies.Fallback
Purpose: The six regex scans of `scripts/generate_ast_dependencies.py` (lines 164-196):
  the fallback of each Tree-sitter strategy, and the only extractor of assembly includes.
Trusted boundary: the match-attempt model of `XinimTooling.Python.Regex`
Main exports: regexAsmIncludes, regexCIncludes, regexLuaRequires, regexPerlUses,
  regexPythonImports, regexBashSources, DelimitedReference, fallback_references_delimited
-/
import XinimTooling.Python.Regex

namespace XinimTooling.AstDependencies

/-!
Each scan is one match attempt, written as the pattern reads from left to right, handed to
`findIter`.  An attempt returns the captured group and the length of the whole match.
Quote characters are named rather than written as literals.
-/

/-- `"`. -/
def doubleQuote : Char := Char.ofNat 34

/-- `'`. -/
def singleQuote : Char := Char.ofNat 39

/-- The result of an attempt: the group's text and the match length. -/
def matched (text group rest : List Char) : Option (String × Nat) :=
  some (String.mk group, text.length - rest.length)

/-- What a fallback scan can say of a reference it returns: a non-empty run of characters
other than closing delimiters that stands in the text between an opening and a closing
delimiter. -/
structure DelimitedReference (openings closings text : List Char) (reference : String) :
    Prop where
  nonEmpty : reference ≠ ""
  noClosing : ∀ c ∈ reference.data, c ∉ closings
  enclosed : ∃ opening ∈ openings, ∃ closing ∈ closings,
    List.IsInfix (opening :: reference.data ++ [closing]) text

theorem DelimitedReference.of_isInfix {openings closings text larger : List Char}
    {reference : String} (delimited : DelimitedReference openings closings text reference)
    (within : List.IsInfix text larger) : DelimitedReference openings closings larger reference :=
  let ⟨nonEmpty, noClosing, opening, isOpening, closing, isClosing, enclosed⟩ := delimited
  ⟨nonEmpty, noClosing, opening, isOpening, closing, isClosing, enclosed.trans within⟩

/-- The tail the C and Lua attempts share: an opening delimiter, a greedy run, and a
closing delimiter. -/
theorem delimitedReference_of_tail {isOpening inner isClosing : Char → Bool}
    {openings closings text afterOpen path rest afterClose : List Char}
    (opening_mem : ∀ c, isOpening c = true → c ∈ openings)
    (inner_not_mem : ∀ c, inner c = true → c ∉ closings)
    (closing_mem : ∀ c, isClosing c = true → c ∈ closings)
    (opened : takeOne isOpening text = some afterOpen)
    (spanned : spanSome inner afterOpen = some (path, rest))
    (closed : takeOne isClosing rest = some afterClose) :
    DelimitedReference openings closings text (String.mk path) := by
  obtain ⟨opening, rfl, isOpen⟩ := takeOne_eq_some opened
  obtain ⟨rfl, nonEmpty, inPath⟩ := spanSome_eq_some spanned
  obtain ⟨closing, rfl, isClose⟩ := takeOne_eq_some closed
  exact ⟨fun empty => nonEmpty (congrArg String.data empty),
    fun c mem => inner_not_mem c (inPath c mem), opening, opening_mem _ isOpen, closing,
    closing_mem _ isClose, [], afterClose, by simp⟩

/-- `^\s*(?:%include|\.include)\s+(["']?)([^\s"']+)\1`, keeping group 2. -/
def asmIncludeAttempt (lineStart : Bool) (text : List Char) : Option (String × Nat) := do
  guard lineStart
  let start := text.dropWhile isSpace
  let rest ← stripLiteral "%include".toList start <|> stripLiteral ".include".toList start
  let (_, rest) ← spanSome isSpace rest
  let (quote, rest) := match rest with
    | c :: more => if c = doubleQuote ∨ c = singleQuote then ([c], more) else ([], rest)
    | [] => ([], [])
  let (path, rest) ← spanSome (fun c => !isSpace c && c != doubleQuote && c != singleQuote)
    rest
  let rest ← stripLiteral quote rest
  matched text path rest

/-- `_regex_asm_includes`. -/
def regexAsmIncludes (sourceText : String) : List String :=
  findIter asmIncludeAttempt sourceText

/-- `^\s*#\s*include\s+[<"]([^>"]+)[>"]`. -/
def cIncludeAttempt (lineStart : Bool) (text : List Char) : Option (String × Nat) := do
  guard lineStart
  let rest ← stripLiteral ['#'] (text.dropWhile isSpace)
  let rest ← stripLiteral "include".toList (rest.dropWhile isSpace)
  let (_, rest) ← spanSome isSpace rest
  let rest ← takeOne (fun c => c = '<' || c = doubleQuote) rest
  let (path, rest) ← spanSome (fun c => c != '>' && c != doubleQuote) rest
  let rest ← takeOne (fun c => c = '>' || c = doubleQuote) rest
  matched text path rest

theorem cIncludeAttempt_delimited {lineStart : Bool} {text : List Char} {value : String}
    {length : Nat} (found : cIncludeAttempt lineStart text = some (value, length)) :
    DelimitedReference ['<', doubleQuote] ['>', doubleQuote] text value := by
  simp only [cIncludeAttempt, matched, Option.bind_eq_bind, Option.bind_eq_some] at found
  obtain ⟨_, _, afterHash, hash, afterInclude, included, ⟨spaces, afterSpaces⟩, spaced,
    afterOpen, opened, ⟨path, rest⟩, spanned, afterClose, closed, finished⟩ := found
  cases finished
  have tail : DelimitedReference ['<', doubleQuote] ['>', doubleQuote] afterSpaces _ :=
    delimitedReference_of_tail (by simp) (by simp) (by simp) opened spanned closed
  have hashSuffix := (stripLiteral_eq_some hash) ▸ List.suffix_append ['#'] afterHash
  have includeSuffix := (stripLiteral_eq_some included) ▸ List.suffix_append _ afterInclude
  have spacesSuffix := (spanSome_eq_some spaced).1 ▸ List.suffix_append spaces afterSpaces
  exact tail.of_isInfix (spacesSuffix.trans (includeSuffix.trans ((List.dropWhile_suffix _).trans
    (hashSuffix.trans (List.dropWhile_suffix _))))).isInfix

theorem cIncludeAttempt_ne_empty {lineStart : Bool} {text : List Char} {value : String}
    {length : Nat} (found : cIncludeAttempt lineStart text = some (value, length)) :
    value ≠ "" :=
  (cIncludeAttempt_delimited found).nonEmpty

/-- `_regex_c_includes`. -/
def regexCIncludes (sourceText : String) : List String :=
  findIter cIncludeAttempt sourceText

/-- `require\s*\(\s*['"]([^'"]+)['"]\s*\)`, tried at every position. -/
def luaRequireAttempt (_lineStart : Bool) (text : List Char) : Option (String × Nat) := do
  let rest ← stripLiteral "require".toList text
  let rest ← takeOne (· = '(') (rest.dropWhile isSpace)
  let quote := fun c => c = singleQuote || c = doubleQuote
  let rest ← takeOne quote (rest.dropWhile isSpace)
  let (name, rest) ← spanSome (fun c => !quote c) rest
  let rest ← takeOne quote rest
  let rest ← takeOne (· = ')') (rest.dropWhile isSpace)
  matched text name rest

theorem luaRequireAttempt_delimited {lineStart : Bool} {text : List Char} {value : String}
    {length : Nat} (found : luaRequireAttempt lineStart text = some (value, length)) :
    DelimitedReference [singleQuote, doubleQuote] [singleQuote, doubleQuote] text value := by
  simp only [luaRequireAttempt, matched, Option.bind_eq_bind, Option.bind_eq_some] at found
  obtain ⟨afterRequire, required, afterParen, paren, afterOpen, opened, ⟨name, rest⟩, spanned,
    afterClose, closed, _, _, finished⟩ := found
  cases finished
  have tail : DelimitedReference [singleQuote, doubleQuote] [singleQuote, doubleQuote]
      (afterParen.dropWhile isSpace) _ :=
    delimitedReference_of_tail (by simp) (by simp) (by simp) opened spanned closed
  obtain ⟨_, parenEq, _⟩ := takeOne_eq_some paren
  have requireSuffix := (stripLiteral_eq_some required) ▸ List.suffix_append _ afterRequire
  have parenSuffix := parenEq ▸ List.suffix_cons _ afterParen
  exact tail.of_isInfix ((List.dropWhile_suffix _).trans (parenSuffix.trans
    ((List.dropWhile_suffix _).trans requireSuffix))).isInfix

theorem luaRequireAttempt_ne_empty {lineStart : Bool} {text : List Char} {value : String}
    {length : Nat} (found : luaRequireAttempt lineStart text = some (value, length)) :
    value ≠ "" :=
  (luaRequireAttempt_delimited found).nonEmpty

/-- `_regex_lua_requires`. -/
def regexLuaRequires (sourceText : String) : List String :=
  findIter luaRequireAttempt sourceText

/-- Every reference of the C and Lua scans stands in the text between an opening and a
closing delimiter of the pattern's classes and contains no closing one.  Nothing more: the
classes do not tie the closing delimiter to the opening one, and `[^>"]`, `[^'"]` admit a
newline. -/
theorem fallback_references_delimited (text : String) :
    (∀ reference ∈ regexCIncludes text,
      DelimitedReference ['<', doubleQuote] ['>', doubleQuote] text.data reference) ∧
    ∀ reference ∈ regexLuaRequires text,
      DelimitedReference [singleQuote, doubleQuote] [singleQuote, doubleQuote] text.data
        reference := by
  constructor
  all_goals
    intro reference mem
    obtain ⟨_, suffix, _, isSuffix, found⟩ := exists_attempt_of_mem_findIter mem
  · exact (cIncludeAttempt_delimited found).of_isInfix isSuffix.isInfix
  · exact (luaRequireAttempt_delimited found).of_isInfix isSuffix.isInfix

/-- A reference need not sit between a matching pair, nor on one line. -/
theorem fallback_references_mismatched_or_multiline :
    regexCIncludes "#include <a.h\"\n#include <b\nc>\n" = ["a.h", "b\nc"] ∧
      regexLuaRequires "require('x\")" = ["x"] := by
  decide

/-- `^\s*use\s+([\w:]+)`. -/
def perlUseAttempt (word : WordClass) (lineStart : Bool) (text : List Char) :
    Option (String × Nat) := do
  guard lineStart
  let rest ← stripLiteral "use".toList (text.dropWhile isSpace)
  let (_, rest) ← spanSome isSpace rest
  let (name, rest) ← spanSome (fun c => word.isWord c || c = ':') rest
  matched text name rest

theorem perlUseAttempt_ne_empty {word : WordClass} {lineStart : Bool} {text : List Char}
    {value : String} {length : Nat}
    (found : perlUseAttempt word lineStart text = some (value, length)) : value ≠ "" := by
  simp only [perlUseAttempt, matched, Option.bind_eq_bind, Option.bind_eq_some] at found
  obtain ⟨_, _, _, _, _, _, ⟨path, rest⟩, spanned, finished⟩ := found
  cases finished
  exact fun empty => spanSome_fst_ne_nil spanned (congrArg String.data empty)

/-- `_regex_perl_uses`. -/
def regexPerlUses (word : WordClass) (sourceText : String) : List String :=
  findIter (perlUseAttempt word) sourceText

/-- The `from\s+([\w\.]+)\s+import` branch: group 1 and what follows. -/
def fromImportBranch (moduleChar : Char → Bool) (text : List Char) :
    Option (List Char × List Char) := do
  let rest ← stripLiteral "from".toList text
  let (_, rest) ← spanSome isSpace rest
  let (name, rest) ← spanSome moduleChar rest
  let (_, rest) ← spanSome isSpace rest
  let rest ← stripLiteral "import".toList rest
  pure (name, rest)

/-- The `import\s+([\w\.]+)` branch: group 2 and what follows. -/
def plainImportBranch (moduleChar : Char → Bool) (text : List Char) :
    Option (List Char × List Char) := do
  let rest ← stripLiteral "import".toList text
  let (_, rest) ← spanSome isSpace rest
  spanSome moduleChar rest

/-- `^\s*(?:from\s+([\w\.]+)\s+import|import\s+([\w\.]+))`, keeping
`match.group(1) or match.group(2)`. -/
def pythonImportAttempt (word : WordClass) (lineStart : Bool) (text : List Char) :
    Option (String × Nat) := do
  guard lineStart
  let start := text.dropWhile isSpace
  let moduleChar := fun c => word.isWord c || c = '.'
  let (name, rest) ← fromImportBranch moduleChar start <|> plainImportBranch moduleChar start
  matched text name rest

/-- `_regex_python_imports`, with its `if module:` guard. -/
def regexPythonImports (word : WordClass) (sourceText : String) : List String :=
  (findIter (pythonImportAttempt word) sourceText).filter (· ≠ "")

/-- `^\s*(?:source|\.)\s+([^\s]+)`. -/
def bashSourceAttempt (lineStart : Bool) (text : List Char) : Option (String × Nat) := do
  guard lineStart
  let start := text.dropWhile isSpace
  let rest ← stripLiteral "source".toList start <|> stripLiteral ['.'] start
  let (_, rest) ← spanSome isSpace rest
  let (path, rest) ← spanSome (fun c => !isSpace c) rest
  matched text path rest

theorem bashSourceAttempt_ne_empty {lineStart : Bool} {text : List Char} {value : String}
    {length : Nat} (found : bashSourceAttempt lineStart text = some (value, length)) :
    value ≠ "" := by
  simp only [bashSourceAttempt, matched, Option.bind_eq_bind, Option.bind_eq_some] at found
  obtain ⟨_, _, _, _, _, _, ⟨path, rest⟩, spanned, finished⟩ := found
  cases finished
  exact fun empty => spanSome_fst_ne_nil spanned (congrArg String.data empty)

/-- `_regex_bash_sources`. -/
def regexBashSources (sourceText : String) : List String :=
  findIter bashSourceAttempt sourceText

end XinimTooling.AstDependencies
