/-
Module: XinimTooling.AstDependencies.Scan
Purpose: The orchestration of `scripts/generate_ast_dependencies.py` (lines 19-31,
  209-256): `LANGUAGE_MAP`, `detect_language`, `analyze_file`, `iter_repository_files`
  and the loop of `build_dependency_graph`, with its step and run lemmas.
Trusted boundary: CPython's `PurePath.suffix` (3.12) and `relative_to` on POSIX paths
Main exports: RepositoryFile, RepositoryEntry, detectLanguage, analyzeFile,
  analyzeFile_dispatches, iterRepositoryFiles, ScanState, buildDependencyGraph,
  scanFiles_eq_ok_iff, ScanState.recordAll_graphs_get?,
  ScanState.recordAll_languageCounts_get?, ScanState.Consistent
-/
import XinimTooling.AstDependencies.Graph
import XinimTooling.AstDependencies.Strategy

namespace XinimTooling.AstDependencies

open PyDict

/-!
The loop of `build_dependency_graph` has two effects per recognised file: it adds the
file's dependencies to its language's graph, and it counts the file.  Only
`analyze_file` can raise.  `scanFiles_eq_ok_iff` separates the two concerns: a run
completes exactly when every file is analysed without an exception, and then its state
is a pure fold of `ScanState.record` over the files' records.  The fold is described
per language by `recordAll_languageCounts_get?` and `recordAll_graphs_get?`.
-/

/-- A regular file under the root: its path components relative to the root and its
bytes. -/
structure RepositoryFile where
  parts : List String
  content : List UInt8
deriving Repr, DecidableEq

/-- One path that `root.rglob("*")` yields. -/
inductive RepositoryEntry where
  | directory (parts : List String)
  | file (file : RepositoryFile)
deriving Repr, DecidableEq

/-- `LANGUAGE_MAP`. -/
def languageMap : List (String × String) :=
  [(".c", "c"), (".h", "c"), (".cpp", "cpp"), (".hpp", "cpp"), (".cppm", "cpp"), (".S", "c"),
    (".py", "python"), (".sh", "bash"), (".lua", "lua"), (".pl", "perl")]

/-- The index of the last occurrence of a character (`str.rfind`). -/
def lastIndexOf (c : Char) : List Char → Option Nat
  | [] => none
  | d :: rest =>
      match lastIndexOf c rest with
      | some i => some (i + 1)
      | none => if d = c then some 0 else none

/-- `PurePath.suffix` of a final component: from its last dot, unless that dot starts or
ends the name. -/
def nameSuffix (name : String) : String :=
  match lastIndexOf '.' name.data with
  | some i => if 0 < i ∧ i < name.length - 1 then String.mk (name.data.drop i) else ""
  | none => ""

namespace RepositoryFile

/-- `path.name`. -/
def name (file : RepositoryFile) : String := file.parts.getLast?.getD ""

/-- `path.suffix`. -/
def suffix (file : RepositoryFile) : String := nameSuffix file.name

/-- `str(path.relative_to(root))`. -/
def relPath (file : RepositoryFile) : String := "/".intercalate file.parts

end RepositoryFile

/-- `detect_language`. -/
def detectLanguage (file : RepositoryFile) : Option String := languageMap.lookup file.suffix

/-- `analyze_file`: the language id and the dependencies of one file. -/
def analyzeFile (externals : Externals) (file : RepositoryFile) :
    Except ScriptError (Option String × List String) :=
  match detectLanguage file with
  | none => .ok (none, [])
  | some languageId =>
      match queryDispatch languageId with
      | some strategy =>
          (strategy.run externals file.content languageId).map fun dependencies =>
            (some languageId, dependencies)
      | none =>
          if file.suffix = ".S" then
            .ok (some languageId, regexAsmIncludes (decodeIgnore file.content))
          else .ok (some languageId, [])

/-- Every language of `LANGUAGE_MAP` has a strategy in `QUERY_DISPATCH`. -/
theorem queryDispatch_isSome_of_lookup {suffix languageId : String}
    (found : languageMap.lookup suffix = some languageId) : (queryDispatch languageId).isSome := by
  obtain ⟨before, after, listed, -⟩ := List.lookup_eq_some_iff.mp found
  have every : ∀ entry ∈ languageMap, (queryDispatch entry.2).isSome := by decide
  exact every (suffix, languageId) (listed ▸ List.mem_append_right _ (List.mem_cons_self _ _))

/-- A file of a supported language is always analysed by its dispatched strategy: the
`.S` branch, the only caller of `_regex_asm_includes`, and the `else []` branch of
`analyze_file` are never reached, since `.S` maps to `c`. -/
theorem analyzeFile_dispatches (externals : Externals) (file : RepositoryFile)
    (languageId : String) (detected : detectLanguage file = some languageId) :
    ∃ strategy, queryDispatch languageId = some strategy ∧
      analyzeFile externals file = (strategy.run externals file.content languageId).map
        fun dependencies => (some languageId, dependencies) := by
  obtain ⟨strategy, dispatched⟩ :=
    Option.isSome_iff_exists.mp (queryDispatch_isSome_of_lookup detected)
  exact ⟨strategy, dispatched, by simp only [analyzeFile, detected, dispatched]⟩

/-- `.S` maps to `c`, so an assembly file goes to `_query_c_includes` whatever the grammar
does.  Its `%include` and `.include` directives, which neither the C grammar nor the C
fallback recognises, then give no dependencies, although `_regex_asm_includes` finds
them. -/
theorem assemblyIncludes_not_extracted :
    (∀ externals : Externals,
      analyzeFile externals
          ⟨["boot.S"], "%include \"boot.inc\"\n.include \"vec.s\"\n".toUTF8.data.toList⟩ =
        (queryCIncludes externals
            "%include \"boot.inc\"\n.include \"vec.s\"\n".toUTF8.data.toList "c").map
          fun dependencies => (some "c", dependencies)) ∧
    regexAsmIncludes
        (decodeIgnore "%include \"boot.inc\"\n.include \"vec.s\"\n".toUTF8.data.toList) =
      ["boot.inc", "vec.s"] ∧
    analyzeFile (.constant (.captures [] false))
        ⟨["boot.S"], "%include \"boot.inc\"\n.include \"vec.s\"\n".toUTF8.data.toList⟩ =
      .ok (some "c", []) :=
  ⟨fun _ => rfl, by decide, rfl⟩

/-- `iter_repository_files`: the regular files, leaving out every file with an omitted
name among its path components, at any depth. -/
def iterRepositoryFiles (omitted : List String) (entries : List RepositoryEntry) :
    List RepositoryFile :=
  entries.filterMap fun
    | .directory _ => none
    | .file file => if file.parts.any (· ∈ omitted) then none else some file

/-- The state of `build_dependency_graph`'s loop. -/
structure ScanState where
  graphs : PyDict DependencyGraph
  languageCounts : PyDict Nat

namespace ScanState

/-- `defaultdict(DependencyGraph)` and `Counter()`. -/
def initial : ScanState := ⟨PyDict.empty, PyDict.empty⟩

/-- The loop body for a recognised file: `graphs[language_id].add(rel_path, dependencies)`
and `language_counts[language_id] += 1`. -/
def record (state : ScanState) (languageId relPath : String) (dependencies : List String) :
    ScanState :=
  ⟨state.graphs.modify languageId DependencyGraph.empty (·.add relPath dependencies),
    state.languageCounts.modify languageId 0 (· + 1)⟩

end ScanState

/-- One turn of the loop. -/
def scanFile (externals : Externals) (state : ScanState) (file : RepositoryFile) :
    Except ScriptError ScanState :=
  (analyzeFile externals file).map fun
    | (none, _) => state
    | (some languageId, dependencies) => state.record languageId file.relPath dependencies

/-- The loop over the enumerated files. -/
def scanFiles (externals : Externals) : ScanState → List RepositoryFile →
    Except ScriptError ScanState
  | state, [] => .ok state
  | state, file :: files =>
      (scanFile externals state file).bind fun next => scanFiles externals next files

/-- `build_dependency_graph`, returning the graphs and the counts as one state. -/
def buildDependencyGraph (externals : Externals) (omitted : List String)
    (entries : List RepositoryEntry) : Except ScriptError ScanState :=
  scanFiles externals ScanState.initial (iterRepositoryFiles omitted entries)

/-! ### Analysis -/

/-- A file is analysed without an exception. -/
def Analyzes (externals : Externals) (file : RepositoryFile) : Prop :=
  ∃ result, analyzeFile externals file = .ok result

/-- `analyze_file` reports the language `detect_language` gives. -/
theorem analyzeFile_language {externals : Externals} {file : RepositoryFile}
    {languageId? : Option String} {dependencies : List String}
    (analyzed : analyzeFile externals file = .ok (languageId?, dependencies)) :
    languageId? = detectLanguage file := by
  unfold analyzeFile at analyzed
  split at analyzed
  · rename_i undetected
    cases analyzed
    exact undetected.symm
  · rename_i languageId detected
    rw [detected]
    split at analyzed
    · rename_i strategy _
      cases result : strategy.run externals file.content languageId <;>
        simp_all [Except.map]
    · split at analyzed <;> cases analyzed <;> rfl

/-- What the loop records for a recognised file. -/
structure FileRecord where
  languageId : String
  relPath : String
  dependencies : List String
deriving Repr, DecidableEq

/-- The record a file contributes, once analysed. -/
def fileRecord (externals : Externals) (file : RepositoryFile) : Option FileRecord :=
  match analyzeFile externals file with
  | .ok (some languageId, dependencies) => some ⟨languageId, file.relPath, dependencies⟩
  | _ => none

namespace ScanState

/-- The loop's state updates over a list of records, in order. -/
def recordAll (state : ScanState) (records : List FileRecord) : ScanState :=
  records.foldl (fun current entry =>
    current.record entry.languageId entry.relPath entry.dependencies) state

end ScanState

/-- The run lemma: the loop completes exactly when every file is analysed without an
exception, and then it has recorded every recognised file, in order. -/
theorem scanFiles_eq_ok_iff (externals : Externals) :
    ∀ (files : List RepositoryFile) (state final : ScanState),
      scanFiles externals state files = .ok final ↔
        (∀ file ∈ files, Analyzes externals file) ∧
          final = state.recordAll (files.filterMap (fileRecord externals))
  | [], state, final => by
      simp [scanFiles, ScanState.recordAll, eq_comm]
  | file :: files, state, final => by
      simp only [scanFiles, scanFile, List.forall_mem_cons, List.filterMap_cons]
      cases analyzed : analyzeFile externals file with
      | error error =>
          simp [Except.map, Except.bind, Analyzes, analyzed]
      | ok result =>
          obtain ⟨languageId?, dependencies⟩ := result
          have analyzes : Analyzes externals file := ⟨_, analyzed⟩
          cases languageId? <;>
            simp [Except.map, Except.bind, fileRecord, analyzed, analyzes,
              scanFiles_eq_ok_iff externals files, ScanState.recordAll]

/-! ### The loop per language -/

/-- The records of one language. -/
def recordsFor (languageId : String) (records : List FileRecord) : List FileRecord :=
  records.filter (·.languageId = languageId)

/-- The records of one language, as the `add` calls its graph received. -/
def callsFor (languageId : String) (records : List FileRecord) : List (String × List String) :=
  (recordsFor languageId records).map fun entry => (entry.relPath, entry.dependencies)

theorem recordsFor_cons_of_eq {languageId : String} {entry : FileRecord}
    (same : entry.languageId = languageId) (records : List FileRecord) :
    recordsFor languageId (entry :: records) = entry :: recordsFor languageId records := by
  simp [recordsFor, List.filter_cons, same]

theorem recordsFor_cons_of_ne {languageId : String} {entry : FileRecord}
    (other : entry.languageId ≠ languageId) (records : List FileRecord) :
    recordsFor languageId (entry :: records) = recordsFor languageId records := by
  simp [recordsFor, List.filter_cons, other]

theorem callsFor_cons_of_eq {languageId : String} {entry : FileRecord}
    (same : entry.languageId = languageId) (records : List FileRecord) :
    callsFor languageId (entry :: records) =
      (entry.relPath, entry.dependencies) :: callsFor languageId records := by
  simp [callsFor, recordsFor_cons_of_eq same]

theorem callsFor_cons_of_ne {languageId : String} {entry : FileRecord}
    (other : entry.languageId ≠ languageId) (records : List FileRecord) :
    callsFor languageId (entry :: records) = callsFor languageId records := by
  simp [callsFor, recordsFor_cons_of_ne other]

namespace ScanState

theorem recordAll_cons (state : ScanState) (entry : FileRecord) (records : List FileRecord) :
    state.recordAll (entry :: records) =
      (state.record entry.languageId entry.relPath entry.dependencies).recordAll records := rfl

@[simp] theorem get?_record_graphs (state : ScanState) (languageId relPath query : String)
    (dependencies : List String) :
    (state.record languageId relPath dependencies).graphs.get? query =
      if query = languageId then
        some ((state.graphs.getD languageId .empty).add relPath dependencies)
      else state.graphs.get? query :=
  get?_modify _ _ _ _ _

@[simp] theorem get?_record_languageCounts (state : ScanState) (languageId relPath query : String)
    (dependencies : List String) :
    (state.record languageId relPath dependencies).languageCounts.get? query =
      if query = languageId then some (state.languageCounts.getD languageId 0 + 1)
      else state.languageCounts.get? query :=
  get?_modify _ _ _ _ _

/-- A language's count grows by the number of its records; its key appears with the
first one. -/
theorem recordAll_languageCounts_get? (languageId : String) :
    ∀ (records : List FileRecord) (state : ScanState),
      (state.recordAll records).languageCounts.get? languageId =
        if recordsFor languageId records = [] then state.languageCounts.get? languageId
        else some (state.languageCounts.getD languageId 0 +
          (recordsFor languageId records).length)
  | [], state => by simp [recordsFor, recordAll]
  | entry :: records, state => by
      rw [recordAll_cons, recordAll_languageCounts_get? languageId records]
      by_cases same : entry.languageId = languageId
      · subst same
        rw [recordsFor_cons_of_eq rfl, if_neg (List.cons_ne_nil _ _)]
        split
        · rename_i empty
          simp [empty]
        · simp only [PyDict.getD, get?_record_languageCounts, if_true, Option.getD_some,
            List.length_cons]
          congr 1
          omega
      · rw [recordsFor_cons_of_ne same]
        simp [PyDict.getD, Ne.symm same]

/-- A language's graph receives the `add` calls of its records, in order; its key
appears with the first one. -/
theorem recordAll_graphs_get? (languageId : String) :
    ∀ (records : List FileRecord) (state : ScanState),
      (state.recordAll records).graphs.get? languageId =
        if recordsFor languageId records = [] then state.graphs.get? languageId
        else some ((state.graphs.getD languageId .empty).addAll (callsFor languageId records))
  | [], state => by simp [recordsFor, recordAll]
  | entry :: records, state => by
      rw [recordAll_cons, recordAll_graphs_get? languageId records]
      by_cases same : entry.languageId = languageId
      · subst same
        rw [callsFor_cons_of_eq rfl, recordsFor_cons_of_eq rfl, if_neg (List.cons_ne_nil _ _)]
        split
        · rename_i empty
          simp [empty, callsFor, DependencyGraph.addAll]
        · simp [PyDict.getD, DependencyGraph.addAll]
      · rw [callsFor_cons_of_ne same, recordsFor_cons_of_ne same]
        simp [PyDict.getD, Ne.symm same]

/-- The loop invariant: `graphs` and `language_counts` have the same keys, in the same
order, and every count is positive. -/
structure Consistent (state : ScanState) : Prop where
  keys : state.graphs.keys = state.languageCounts.keys
  positive : ∀ languageId count, state.languageCounts.get? languageId = some count → 1 ≤ count

theorem consistent_initial : initial.Consistent :=
  ⟨rfl, fun _ _ found => by simp [initial] at found⟩

/-- The step lemma: a recognised file creates its language's graph and count together,
and only ever adds to a count. -/
theorem Consistent.record {state : ScanState} (consistent : state.Consistent)
    (languageId relPath : String) (dependencies : List String) :
    (state.record languageId relPath dependencies).Consistent := by
  refine ⟨?_, fun query count found => ?_⟩
  · simp only [ScanState.record, keys_modify, consistent.keys]
  · rw [get?_record_languageCounts] at found
    split at found
    · cases found; omega
    · exact consistent.positive query count found

/-- The run lemma of the invariant. -/
theorem Consistent.recordAll {state : ScanState} (consistent : state.Consistent) :
    ∀ records : List FileRecord, (state.recordAll records).Consistent
  | [] => consistent
  | _ :: records => (consistent.record _ _ _).recordAll records

/-- Every record adds one to the sum of the counts. -/
theorem sum_languageCounts_recordAll (state : ScanState) :
    ∀ records : List FileRecord,
      (state.recordAll records).languageCounts.values.sum =
        state.languageCounts.values.sum + records.length
  | [] => rfl
  | entry :: records => by
      rw [recordAll_cons, sum_languageCounts_recordAll _ records, ScanState.record,
        sum_values_modify_succ, List.length_cons]
      omega

/-- The run from the initial state: per language, the count is the number of its
records and the graph is the one its `add` calls build from the empty graph. -/
theorem initial_recordAll (records : List FileRecord) (languageId : String) :
    (initial.recordAll records).languageCounts.getD languageId 0 =
        (recordsFor languageId records).length ∧
      (initial.recordAll records).graphs.getD languageId .empty =
        DependencyGraph.ofCalls (callsFor languageId records) ∧
      (languageId ∈ (initial.recordAll records).graphs.keys ↔
        recordsFor languageId records ≠ []) := by
  refine ⟨?_, ?_, ?_⟩
  · by_cases empty : recordsFor languageId records = []
    · simp [PyDict.getD, recordAll_languageCounts_get?, empty, initial]
    · simp [PyDict.getD, recordAll_languageCounts_get?, empty, initial]
  · by_cases empty : recordsFor languageId records = []
    · simp [PyDict.getD, recordAll_graphs_get?, empty, initial, callsFor,
        DependencyGraph.ofCalls, DependencyGraph.addAll]
    · simp [PyDict.getD, recordAll_graphs_get?, empty, initial, DependencyGraph.ofCalls]
  · rw [mem_keys_iff, recordAll_graphs_get?]
    by_cases empty : recordsFor languageId records = [] <;> simp [empty, initial]

end ScanState

/-! ### What a completed run recorded -/

/-- The records of the enumerated files. -/
def recordsOf (externals : Externals) (files : List RepositoryFile) : List FileRecord :=
  files.filterMap (fileRecord externals)

theorem fileRecord_eq_some_iff {externals : Externals} {file : RepositoryFile}
    {entry : FileRecord} :
    fileRecord externals file = some entry ↔
      entry.relPath = file.relPath ∧
        analyzeFile externals file = .ok (some entry.languageId, entry.dependencies) := by
  unfold fileRecord
  split
  · rename_i languageId dependencies analyzed
    rw [analyzed]
    constructor
    · rintro ⟨⟩; exact ⟨rfl, rfl⟩
    · rintro ⟨same, found⟩
      cases found
      cases entry
      simp_all
  · rename_i notRecorded
    constructor
    · intro impossible; cases impossible
    · rintro ⟨-, analyzed⟩
      exact (notRecorded _ _ analyzed).elim

/-- A run that completes reads the files once: its run lemma at the initial state. -/
theorem buildDependencyGraph_eq_ok_iff (externals : Externals) (omitted : List String)
    (entries : List RepositoryEntry) (state : ScanState) :
    buildDependencyGraph externals omitted entries = .ok state ↔
      (∀ file ∈ iterRepositoryFiles omitted entries, Analyzes externals file) ∧
        state = ScanState.initial.recordAll
          (recordsOf externals (iterRepositoryFiles omitted entries)) :=
  scanFiles_eq_ok_iff externals _ _ _

/-- Two exceptions no handler catches.  An include path whose bytes are not UTF-8
(`caf\xe9.h` in a Latin-1 C file) raises out of `_query_c_includes`, which has no `try`;
a parse failure raises out of `_query_python_imports` before its `try`.  Either one
aborts the scan. -/
theorem grammar_failures_abort_scan :
    buildDependencyGraph (.constant (.captures [⟨9, 17, "include"⟩] false)) []
        [.file ⟨["caf.c"], "#include \"caf".toUTF8.data.toList ++ [0xE9] ++
          ".h\"\n".toUTF8.data.toList⟩] = .error .unicodeDecode ∧
      buildDependencyGraph (.constant (.raises .parseSource)) []
        [.file ⟨["a.py"], "import os\n".toUTF8.data.toList⟩] = .error (.grammar .parseSource) :=
  ⟨rfl, rfl⟩

/-- Over analysed files, a language has one record per file `detect_language` maps to it. -/
theorem length_recordsFor_recordsOf (externals : Externals) (languageId : String) :
    ∀ files : List RepositoryFile, (∀ file ∈ files, Analyzes externals file) →
      (recordsFor languageId (recordsOf externals files)).length =
        (files.filter fun file => detectLanguage file = some languageId).length
  | [], _ => rfl
  | file :: files, analyzed => by
      rw [List.forall_mem_cons] at analyzed
      have rest := length_recordsFor_recordsOf externals languageId files analyzed.2
      obtain ⟨⟨languageId?, dependencies⟩, found⟩ := analyzed.1
      have detected := analyzeFile_language found
      unfold recordsOf at rest ⊢
      rw [List.filterMap_cons, List.filter_cons]
      cases languageId? with
      | none =>
          simp [fileRecord, found, ← detected, rest]
      | some other =>
          by_cases same : other = languageId
          · simp [fileRecord, found, ← detected, same, recordsFor_cons_of_eq, rest]
          · simp [fileRecord, found, ← detected, same, recordsFor_cons_of_ne, rest]

/-- Over analysed files, there is one record per file of a supported language. -/
theorem length_recordsOf (externals : Externals) :
    ∀ files : List RepositoryFile, (∀ file ∈ files, Analyzes externals file) →
      (recordsOf externals files).length =
        (files.filter fun file => (detectLanguage file).isSome).length
  | [], _ => rfl
  | file :: files, analyzed => by
      rw [List.forall_mem_cons] at analyzed
      have rest := length_recordsOf externals files analyzed.2
      obtain ⟨⟨languageId?, dependencies⟩, found⟩ := analyzed.1
      have detected := analyzeFile_language found
      unfold recordsOf at rest ⊢
      rw [List.filterMap_cons, List.filter_cons]
      cases languageId? <;> simp [fileRecord, found, ← detected, rest]

theorem mem_callsFor_recordsOf {externals : Externals} {languageId path : String}
    {dependencies : List String} {files : List RepositoryFile} :
    (path, dependencies) ∈ callsFor languageId (recordsOf externals files) ↔
      ∃ file ∈ files, file.relPath = path ∧
        analyzeFile externals file = .ok (some languageId, dependencies) := by
  simp only [callsFor, recordsFor, recordsOf, List.mem_map, List.mem_filter,
    List.mem_filterMap, fileRecord_eq_some_iff, Prod.mk.injEq, decide_eq_true_eq]
  constructor
  · rintro ⟨entry, ⟨⟨file, mem, samePath, analyzed⟩, rfl⟩, rfl, rfl⟩
    exact ⟨file, mem, samePath.symm, analyzed⟩
  · rintro ⟨file, mem, rfl, analyzed⟩
    exact ⟨⟨languageId, file.relPath, dependencies⟩, ⟨⟨file, mem, rfl, analyzed⟩, rfl⟩, rfl, rfl⟩

end XinimTooling.AstDependencies
