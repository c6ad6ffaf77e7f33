/-
Module: XinimTooling.Tools.ArchScan
Purpose: `tools/arch_scan.py`: `find_sources`, which walks the tree and keeps the files
  with a source suffix outside the skipped directories; `scan_clang_features` and
  `analyze`, which search each file for architecture macros and C++ constructs; and the
  report `main` prints.  Every source lands in exactly one of the report's two lists:
  under `Modern files:`, sorted, when it can be read and ends in `.cpp` or `.hpp`, and
  under `Legacy files:`, in walk order, otherwise, unreadable `.cpp` files included.
Trusted boundary: `os.walk`, given as the list of directories it visits, each with the
  names of its files; reading a file as in `XinimTooling.Python.Text`; CPython's `re`
  on the nine patterns, each modelled by a hand-written matcher, with the Unicode word
  class a parameter
Main exports: archMacros, clangPatterns, findSources, scanClangFeatures, analyze, main,
  main_spec
-/
import XinimTooling.Tools.AsciiTree
import XinimTooling.Python.Dict
import XinimTooling.Python.Str
import XinimTooling.Python.Text

namespace XinimTooling.ArchScan

/-!
`re.search(pattern, text)` holds when a match of `pattern` starts at some position of the
text.  Each pattern below is a matcher for a match starting at a position, given the
character before it, for `\b`; `search` tries every position.  The lazy `.*?` of the lambda
pattern only chooses which match is reported, not whether there is one, so its matcher
asks for any `[`, then `](` and then `)` with no newline between, as `.` excludes `\n`.
-/

/-- `re.search` with a matcher for a match starting at a position: the matcher gets the
character before the position, if any, and the text from it. -/
def searchFrom (attempt : Option Char → List Char → Bool) : Option Char → List Char → Bool
  | before, [] => attempt before []
  | before, c :: rest => attempt before (c :: rest) || searchFrom attempt (some c) rest

/-- `re.search(pattern, text)` for the pattern a matcher stands for. -/
def search (attempt : Option Char → List Char → Bool) (text : List Char) : Bool :=
  searchFrom attempt none text

/-- `\b` between two characters, a missing one counting as a non-word character. -/
def boundary (word : WordClass) (before after : Option Char) : Bool :=
  before.any word.isWord != after.any word.isWord

/-- A literal at the position. -/
def literalAt (literal : List Char) (_ : Option Char) (text : List Char) : Bool :=
  Str.startsWith literal text

/-- `\bliteral\b` at the position. -/
def boundedAt (word : WordClass) (literal : List Char) (before : Option Char)
    (text : List Char) : Bool :=
  boundary word before text.head? && Str.startsWith literal text &&
    boundary word literal.getLast? (text.drop literal.length).head?

/-- `\bstd::` at the position. -/
def stdAt (word : WordClass) (before : Option Char) (text : List Char) : Bool :=
  boundary word before text.head? && Str.startsWith "std::".toList text

/-- `__builtin_\w+` at the position. -/
def builtinAt (word : WordClass) (_ : Option Char) (text : List Char) : Bool :=
  Str.startsWith "__builtin_".toList text && ((text.drop 10).head?.any word.isWord)

/-- `.*?\)`: a `)` before any newline. -/
def closesParen : List Char → Bool
  | [] => false
  | c :: rest => c = ')' || (c ≠ '\n' && closesParen rest)

/-- `.*?\]\(.*?\)`: a `](` before any newline, followed by `.*?\)`. -/
def closesBracket : List Char → Bool
  | [] => false
  | c :: rest =>
      c ≠ '\n' && ((c = ']' && rest.head? = some '(' && closesParen (rest.drop 1)) ||
        closesBracket rest)

/-- `\[.*?\]\(.*?\)` at the position. -/
def lambdaAt (_ : Option Char) (text : List Char) : Bool :=
  text.head? = some '[' && closesBracket (text.drop 1)

/-- `ARCH_MACROS`. -/
def archMacros : List String := ["__x86_64__", "__i386__", "__aarch64__", "__arm__", "__arm64__"]

/-- `CLANG_PATTERNS`, each key with the search its pattern makes. -/
def clangPatterns (word : WordClass) : List (String × (List Char → Bool)) :=
  [("clang_attribute", search (literalAt "__attribute__".toList)),
    ("clang_builtin", search (builtinAt word)),
    ("constexpr", search (boundedAt word "constexpr".toList)),
    ("auto", search (boundedAt word "auto".toList)),
    ("lambda", search lambdaAt),
    ("template", search (boundedAt word "template".toList)),
    ("namespace", search (boundedAt word "namespace".toList)),
    ("std", search (stdAt word)),
    ("cplusplus_macro", search (literalAt "__cplusplus".toList))]

/-- `scan_clang_features(text)`. -/
def scanClangFeatures (word : WordClass) (text : List Char) : List String :=
  (clangPatterns word).filterMap fun (key, found) => if found text then some key else none

/-- `os.path.join(first, second)`. -/
def osPathJoin (first second : String) : String :=
  if Str.startsWith ['/'] second.toList then second
  else if first = "" ∨ Str.endsWith ['/'] first.toList then first ++ second
  else first ++ "/" ++ second

/-- The suffixes `find_sources` keeps. -/
def sourceExtensions : List String := [".cpp", ".hpp", ".c", ".h", ".s", ".asm"]

/-- `find_sources(root)`, where `walk` is what `os.walk(root)` yields: each visited
directory's path with the names of its files. -/
def findSources (root : String) (walk : List (String × List String)) : List String :=
  walk.flatMap fun (current, files) =>
    if Str.contains ".git".toList current.toList ∨
        Str.startsWith (osPathJoin root "build").toList current.toList then []
    else (files.filter fun name =>
      sourceExtensions.any fun extension => Str.endsWith extension.toList name.toList).map
        (osPathJoin current)

/-- What `analyze` returns: the status, the macros and the features. -/
structure Analysis where
  status : String
  macros : List String
  features : List String
deriving Repr, DecidableEq

/-- `analyze(path)`, where `contents` is what opening the file gives: its bytes, or `none`
for an `OSError`. -/
def analyze (word : WordClass) (path : String) (contents : Option (List UInt8)) : Analysis :=
  match contents with
  | none => ⟨"unknown", [], []⟩
  | some bytes =>
      let text := universalNewlines (decodeIgnore bytes).data
      let macros := archMacros.filter fun symbol => search (boundedAt word symbol.toList) text
      let status :=
        if Str.endsWith ".cpp".toList path.toList || Str.endsWith ".hpp".toList path.toList then
          "modern"
        else "legacy"
      ⟨status, macros, scanClangFeatures word text⟩

/-- The line `main` prints for a modern file. -/
def modernLine (file : String) (analysis : Analysis) : String :=
  file ++ (if analysis.macros = [] then "" else
      " [macros: " ++ ", ".intercalate analysis.macros ++ "]") ++
    if analysis.features = [] then "" else
      " [features: " ++ ", ".intercalate analysis.features ++ "]"

/-- `sorted(modern.items())`: the keys are distinct, so their order decides. -/
def sortedByPath (items : List (String × Analysis)) : List (String × Analysis) :=
  items.insertionSort fun first second => AsciiTree.codePointLe first.1.toList second.1.toList

/-- One pass of the loop of `main` over the sources: a modern file's analysis goes into
`modern`, any other file onto `legacy`. -/
def recordSource (word : WordClass) (contents : String → Option (List UInt8))
    (state : PyDict Analysis × List String) (file : String) : PyDict Analysis × List String :=
  let analysis := analyze word file (contents file)
  if analysis.status = "modern" then (state.1.setItem file analysis, state.2)
  else (state.1, state.2 ++ [file])

/-- `main(root)`: the lines it prints. -/
def main (word : WordClass) (root : String) (walk : List (String × List String))
    (contents : String → Option (List UInt8)) : List String :=
  let (modern, legacy) := (findSources root walk).foldl (recordSource word contents)
    (PyDict.empty, [])
  "Modern files:" :: (sortedByPath modern.entries).map (fun (file, analysis) =>
    modernLine file analysis) ++ "\nLegacy files:" :: legacy

/-- The sources: a file with one of the suffixes, joined to a visited directory whose path
contains `.git` nowhere, not only as a component, and does not start with `root/build`, not
only as a component either. -/
theorem mem_findSources (root file : String) (walk : List (String × List String)) :
    file ∈ findSources root walk ↔ ∃ current files, (current, files) ∈ walk ∧
      Str.contains ".git".toList current.toList = false ∧
      Str.startsWith (osPathJoin root "build").toList current.toList = false ∧
      ∃ name ∈ files, (sourceExtensions.any fun extension =>
        Str.endsWith extension.toList name.toList) ∧ osPathJoin current name = file := by
  simp only [findSources, List.mem_flatMap, Prod.exists]
  refine exists_congr fun current => exists_congr fun files => and_congr_right fun _ => ?_
  cases git : Str.contains ".git".toList current.toList <;>
    cases build : Str.startsWith (osPathJoin root "build").toList current.toList <;>
    simp [git, build, and_assoc]

example : findSources "." [("./.github/ci", ["probe.c"]), ("./buildtools", ["gen.c"]),
    ("./kernel", ["main.c", "notes.txt"])] = ["./kernel/main.c"] := by
  decide

/-! ### Modern and legacy files -/

/-- A source `main` lists under `Modern files:`: it can be read, and it ends in `.cpp` or
`.hpp`. -/
def isModern (contents : String → Option (List UInt8)) (file : String) : Bool :=
  (contents file).isSome &&
    (Str.endsWith ".cpp".toList file.toList || Str.endsWith ".hpp".toList file.toList)

theorem analyze_status (word : WordClass) (contents : String → Option (List UInt8))
    (file : String) :
    (analyze word file (contents file)).status = "modern" ↔ isModern contents file := by
  unfold analyze isModern
  cases contents file with
  | none => simp
  | some bytes =>
    cases suffix : (Str.endsWith ".cpp".toList file.toList ||
      Str.endsWith ".hpp".toList file.toList) <;> simp [suffix]

theorem foldl_recordSource (word : WordClass) (contents : String → Option (List UInt8)) :
    ∀ (files : List String) (modern : PyDict Analysis) (legacy : List String), files.Nodup →
      (∀ file ∈ files, file ∉ modern.keys) →
      (files.foldl (recordSource word contents) (modern, legacy)).1.entries =
          modern.entries ++ (files.filter (isModern contents)).map
            (fun file => (file, analyze word file (contents file))) ∧
        (files.foldl (recordSource word contents) (modern, legacy)).2 =
          legacy ++ files.filter fun file => !isModern contents file
  | [], _, _, _, _ => by simp
  | file :: files, modern, legacy, distinct, fresh => by
      rw [List.nodup_cons] at distinct
      rw [List.foldl_cons]
      by_cases modernFile : isModern contents file
      · have step : recordSource word contents (modern, legacy) file =
            (modern.setItem file (analyze word file (contents file)), legacy) := by
          simp [recordSource, (analyze_status word contents file).mpr modernFile]
        obtain ⟨entries, rest⟩ := foldl_recordSource word contents files _ legacy distinct.2
          fun other mem => by
            rw [PyDict.keys_setItem, if_neg (fresh file (List.mem_cons_self _ _))]
            simp only [List.mem_append, List.mem_singleton, not_or]
            exact ⟨fresh other (List.mem_cons_of_mem _ mem), fun same => distinct.1 (same ▸ mem)⟩
        rw [step, entries, rest,
          PyDict.entries_setItem_of_not_mem _ (fresh file (List.mem_cons_self _ _))]
        simp [modernFile]
      · have step : recordSource word contents (modern, legacy) file = (modern, legacy ++ [file]) := by
          simp [recordSource, mt (analyze_status word contents file).mp modernFile]
        obtain ⟨entries, rest⟩ := foldl_recordSource word contents files modern (legacy ++ [file])
          distinct.2 fun other mem => fresh other (List.mem_cons_of_mem _ mem)
        rw [step, entries, rest]
        simp [modernFile]

/-- What `main` prints: every source once, under `Modern files:`, in path order with its
macros and features, when it can be read and ends in `.cpp` or `.hpp`, and otherwise under
`Legacy files:`, in walk order; a `.cpp` file that cannot be read is listed as legacy. -/
theorem main_spec (word : WordClass) (root : String) (walk : List (String × List String))
    (contents : String → Option (List UInt8)) (distinct : (findSources root walk).Nodup) :
    main word root walk contents =
      "Modern files:" :: (sortedByPath (((findSources root walk).filter (isModern contents)).map
          fun file => (file, analyze word file (contents file)))).map
        (fun (file, analysis) => modernLine file analysis) ++
      "\nLegacy files:" :: (findSources root walk).filter fun file => !isModern contents file := by
  obtain ⟨entries, legacy⟩ :=
    foldl_recordSource word contents (findSources root walk) PyDict.empty [] distinct
      fun _ _ missing => by cases missing
  unfold main
  cases result : (findSources root walk).foldl (recordSource word contents) (PyDict.empty, []) with
  | mk modern legacyFiles =>
  rw [result] at entries legacy
  dsimp only at entries legacy ⊢
  rw [entries, legacy]
  rfl

/-- A readable `.cpp` file, listed as modern with its feature; an unreadable `.cpp` file and
a `.c` file, listed as legacy. -/
theorem main_spec_mixedSources :
    (findSources "." [(".", ["b.cpp", "a.cpp", "c.c"])]).Nodup ∧
      main WordClass.ascii "." [(".", ["b.cpp", "a.cpp", "c.c"])]
          (fun path => if path = "./b.cpp" then none
            else some "constexpr int x;\n".toUTF8.data.toList) =
        "Modern files:" :: (sortedByPath
            (((findSources "." [(".", ["b.cpp", "a.cpp", "c.c"])]).filter
              (isModern (fun path => if path = "./b.cpp" then none
                else some "constexpr int x;\n".toUTF8.data.toList))).map fun file =>
              (file, analyze WordClass.ascii file
                ((fun path => if path = "./b.cpp" then none
                  else some "constexpr int x;\n".toUTF8.data.toList) file)))).map
          (fun (file, analysis) => modernLine file analysis) ++
        "\nLegacy files:" :: (findSources "." [(".", ["b.cpp", "a.cpp", "c.c"])]).filter
          (fun file => !isModern (fun path => if path = "./b.cpp" then none
            else some "constexpr int x;\n".toUTF8.data.toList) file) ∧
      main WordClass.ascii "." [(".", ["b.cpp", "a.cpp", "c.c"])]
          (fun path => if path = "./b.cpp" then none
            else some "constexpr int x;\n".toUTF8.data.toList) =
        ["Modern files:", "./a.cpp [features: constexpr]", "\nLegacy files:", "./b.cpp",
          "./c.c"] :=
  ⟨by decide, main_spec WordClass.ascii "." [(".", ["b.cpp", "a.cpp", "c.c"])] _ (by decide),
    by decide⟩

end XinimTooling.ArchScan
