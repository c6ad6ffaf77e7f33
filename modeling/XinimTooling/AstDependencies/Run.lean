/-
Module: XinimTooling.AstDependencies.Run
Purpose: What a completed `build_dependency_graph` holds, per language, in terms of the
  enumerated files, and that its counts and the detailed JSON `main` writes from it do not
  depend on the order in which the files are enumerated.
Trusted boundary: none
Main exports: outputPayload, dumpSortedKeys, edges_of_completed,
  buildDependencyGraph_characterised
-/
import XinimTooling.AstDependencies.Scan

namespace XinimTooling.AstDependencies

open PyDict DependencyGraph

/-- `output_payload` in `main`: `{lang: graph.to_serializable() for lang, graph in ...}`. -/
def outputPayload (graphs : PyDict DependencyGraph) : PyDict (PyDict (List String)) :=
  graphs.mapValues fun _ graph => graph.toSerializable

/-- `json.dumps(output_payload, indent=2, sort_keys=True)`, as the nested items it
writes, in the order it writes them. -/
def dumpSortedKeys (payload : PyDict (PyDict (List String))) :
    List (String × List (String × List String)) :=
  (payload.mapValues fun _ serialized => serialized.sortedItems).sortedItems

theorem sortedItems_toSerializable_of_sameEdges {first second : DependencyGraph}
    (same : SameEdges first second) :
    first.toSerializable.sortedItems = second.toSerializable.sortedItems :=
  sortedItems_eq_of_get?_eq fun source => by simp [toSerializable, same source]

/-- With distinct relative paths, two calls from one path carry the same dependencies. -/
theorem unique_dependencies {externals : Externals} {files : List RepositoryFile}
    (distinct : (files.map RepositoryFile.relPath).Nodup) {languageId path : String}
    {first second : List String}
    (one : (path, first) ∈ callsFor languageId (recordsOf externals files))
    (two : (path, second) ∈ callsFor languageId (recordsOf externals files)) :
    second = first := by
  obtain ⟨file, mem, samePath, analyzed⟩ := mem_callsFor_recordsOf.mp one
  obtain ⟨file', mem', samePath', analyzed'⟩ := mem_callsFor_recordsOf.mp two
  obtain rfl := List.inj_on_of_nodup_map distinct mem' mem (samePath'.trans samePath.symm)
  rw [analyzed] at analyzed'
  cases analyzed'
  rfl

/-- The edges a completed run records for one language: a file has a key exactly when
its dependencies hold a non-empty string, and its targets are those strings. -/
theorem edges_of_completed (externals : Externals) {files : List RepositoryFile}
    (distinct : (files.map RepositoryFile.relPath).Nodup) (languageId path : String)
    (targets : Finset String) :
    (ofCalls (callsFor languageId (recordsOf externals files))).edges.get? path =
        some targets ↔
      ∃ file ∈ files, file.relPath = path ∧ ∃ dependencies,
        analyzeFile externals file = .ok (some languageId, dependencies) ∧
          (∃ dependency ∈ dependencies, dependency ≠ "") ∧
            targets = nonEmptyTargets dependencies := by
  rw [get?_edges_ofCalls]
  constructor
  · intro found
    split at found
    · rename_i supplied
      cases found
      obtain ⟨target, memTarget⟩ := supplied
      obtain ⟨-, dependencies, mem, -⟩ := mem_suppliedTargets.mp memTarget
      have same := suppliedTargets_eq_of_unique mem fun _ other =>
        unique_dependencies distinct mem other
      obtain ⟨file, memFile, samePath, analyzed⟩ := mem_callsFor_recordsOf.mp mem
      refine ⟨file, memFile, samePath, dependencies, analyzed, ?_, same⟩
      rw [← nonEmptyTargets_nonempty_iff, ← same]
      exact ⟨target, memTarget⟩
    · cases found
  · rintro ⟨file, memFile, rfl, dependencies, analyzed, nonEmpty, rfl⟩
    have mem := mem_callsFor_recordsOf.mpr ⟨file, memFile, rfl, analyzed⟩
    rw [suppliedTargets_eq_of_unique mem fun _ other => unique_dependencies distinct mem other,
      if_pos ((nonEmptyTargets_nonempty_iff _).mpr nonEmpty)]

/-- The C strategy checks for an empty result before `add` drops empty strings: a first
include `#include ""` strips to `""`, keeps the regex fallback from running, and is then
dropped, so the file gets no edge although the fallback finds `a.h` in its text. -/
theorem emptyInclude_hides_fallback :
    regexCIncludes (decodeIgnore "#include \"\"\n/*\n#include \"a.h\"\n*/\n".toUTF8.data.toList) =
        ["a.h"] ∧
      ∃ state, buildDependencyGraph (.constant (.captures [⟨9, 11, "include"⟩] false)) []
          [.file ⟨["a.c"], "#include \"\"\n/*\n#include \"a.h\"\n*/\n".toUTF8.data.toList⟩] =
          .ok state ∧
        state.languageCounts.get? "c" = some 1 ∧
        (state.graphs.get? "c").map DependencyGraph.sources = some [] :=
  ⟨by decide, _, rfl, rfl, rfl⟩

/-- The Python query captures only the `dotted_name` children of `import_statement`, not
those inside `aliased_import`.  With `import os` captured, the fallback does not run and
`numpy` from `import numpy as np` is never recorded, though the fallback finds it. -/
theorem aliasedImport_not_recorded :
    regexPythonImports WordClass.ascii "import os\nimport numpy as np\n" = ["os", "numpy"] ∧
      ∃ state, buildDependencyGraph (.constant (.captures [⟨7, 9, "module"⟩] false)) []
          [.file ⟨["a.py"], "import os\nimport numpy as np\n".toUTF8.data.toList⟩] =
          .ok state ∧
        ((state.graphs.get? "python").bind fun graph => graph.edges.get? "a.py") =
          some {"os"} :=
  ⟨by decide, _, rfl, by decide⟩

/-- The Bash query captures every `word` argument of every command whose name the
unanchored `#match? @cmd "source|\\."` accepts.  So `source lib.sh arg` records `arg` as
well, and `./build.sh release` records `release`; the regex fallback, not reached here,
finds only `lib.sh`. -/
theorem bashQuery_records_other_arguments :
    regexBashSources "source lib.sh arg\n./build.sh release\n" = ["lib.sh"] ∧
      ∃ state, buildDependencyGraph
          (.constant (.captures [⟨0, 6, "cmd"⟩, ⟨7, 13, "path"⟩, ⟨0, 6, "cmd"⟩,
            ⟨14, 17, "path"⟩, ⟨18, 28, "cmd"⟩, ⟨29, 36, "path"⟩] false)) []
          [.file ⟨["run.sh"], "source lib.sh arg\n./build.sh release\n".toUTF8.data.toList⟩] =
          .ok state ∧
        ((state.graphs.get? "bash").bind fun graph => graph.edges.get? "run.sh") =
          some {"lib.sh", "arg", "release"} :=
  ⟨by decide, _, rfl, by simp; decide⟩

theorem sameEdges_of_perm {first second : List FileRecord} (perm : first.Perm second)
    (languageId : String) :
    SameEdges (ofCalls (callsFor languageId first)) (ofCalls (callsFor languageId second)) :=
  sameEdges_ofCalls_of_supplies fun source target => by
    simp only [Supplies, ((perm.filter _).map _).mem_iff, callsFor, recordsFor]

theorem map_eq_of_rel {α β γ : Type} {r : α → β → Prop} {f : α → γ} {g : β → γ}
    (agree : ∀ first second, r first second → f first = g second) :
    ∀ {first : Option α} {second : Option β}, Option.Rel r first second →
      first.map f = second.map g
  | _, _, .none => rfl
  | _, _, .some related => congrArg some (agree _ _ related)

/-- Two orders of the same records give every language the same count, and graphs with
the same edges. -/
theorem recordAll_perm {records reordered : List FileRecord} (perm : reordered.Perm records)
    (languageId : String) :
    (ScanState.initial.recordAll reordered).languageCounts.get? languageId =
        (ScanState.initial.recordAll records).languageCounts.get? languageId ∧
      Option.Rel SameEdges ((ScanState.initial.recordAll reordered).graphs.get? languageId)
        ((ScanState.initial.recordAll records).graphs.get? languageId) := by
  have length : (recordsFor languageId reordered).length =
      (recordsFor languageId records).length := (perm.filter _).length_eq
  have emptyIff : recordsFor languageId reordered = [] ↔ recordsFor languageId records = [] := by
    rw [← List.length_eq_zero, ← List.length_eq_zero, length]
  rw [ScanState.recordAll_languageCounts_get?, ScanState.recordAll_languageCounts_get?,
    ScanState.recordAll_graphs_get?, ScanState.recordAll_graphs_get?]
  by_cases empty : recordsFor languageId records = []
  · simp only [empty, emptyIff.mpr empty, if_true]
    exact ⟨trivial, .none⟩
  · simp only [empty, mt emptyIff.mp empty, if_false, length]
    exact ⟨trivial, .some (sameEdges_of_perm perm languageId)⟩

/-- What a completed run holds for one language, against the enumerated files. -/
structure RecordedLanguage (externals : Externals) (files : List RepositoryFile)
    (state : ScanState) (languageId : String) : Prop where
  /-- `language_counts[language_id]` is the number of files `detect_language` maps to the
  language, those without dependencies included. -/
  count : state.languageCounts.getD languageId 0 =
    (files.filter fun file => detectLanguage file = some languageId).length
  /-- The language has a graph exactly when it has a file. -/
  keyed : languageId ∈ state.graphs.keys ↔
    1 ≤ (files.filter fun file => detectLanguage file = some languageId).length
  /-- With distinct relative paths, a file has an edge entry exactly when its dependencies
  hold a non-empty string, and the entry is the set of those strings. -/
  edges : (files.map RepositoryFile.relPath).Nodup → ∀ path targets,
    (state.graphs.getD languageId .empty).edges.get? path = some targets ↔
      ∃ file ∈ files, file.relPath = path ∧ ∃ dependencies,
        analyzeFile externals file = .ok (some languageId, dependencies) ∧
          (∃ dependency ∈ dependencies, dependency ≠ "") ∧
            targets = nonEmptyTargets dependencies

/-- Every other enumeration order of the same entries completes too, with the same counts
and the same detailed JSON. -/
def SameForEveryOrder (externals : Externals) (omitted : List String)
    (entries : List RepositoryEntry) (state : ScanState) : Prop :=
  ∀ reordered : List RepositoryEntry, reordered.Perm entries →
    ∃ reorderedState,
      buildDependencyGraph externals omitted reordered = .ok reorderedState ∧
      (∀ languageId, reorderedState.languageCounts.getD languageId 0 =
        state.languageCounts.getD languageId 0) ∧
      dumpSortedKeys (outputPayload reorderedState.graphs) =
        dumpSortedKeys (outputPayload state.graphs)

/-- A completed run records every enumerated file of a supported language, per language,
and does not depend on the enumeration order. -/
theorem buildDependencyGraph_characterised (externals : Externals) (omitted : List String)
    (entries : List RepositoryEntry) (state : ScanState)
    (completed : buildDependencyGraph externals omitted entries = .ok state) :
    (∀ languageId,
      RecordedLanguage externals (iterRepositoryFiles omitted entries) state languageId) ∧
    SameForEveryOrder externals omitted entries state := by
  obtain ⟨analyzed, rfl⟩ := (buildDependencyGraph_eq_ok_iff _ _ _ _).mp completed
  refine ⟨fun languageId => ?_, fun reordered perm => ?_⟩
  · obtain ⟨counted, graph, keyed⟩ := ScanState.initial_recordAll
      (recordsOf externals (iterRepositoryFiles omitted entries)) languageId
    have count := length_recordsFor_recordsOf externals languageId _ analyzed
    refine ⟨counted.trans count, ?_, fun distinct path targets => ?_⟩
    · simp only [keyed, ← count, Nat.one_le_iff_ne_zero, ne_eq, List.length_eq_zero]
    · rw [graph]
      exact edges_of_completed externals distinct languageId path targets
  · have files : (iterRepositoryFiles omitted reordered).Perm
        (iterRepositoryFiles omitted entries) := perm.filterMap _
    have records : (recordsOf externals (iterRepositoryFiles omitted reordered)).Perm
        (recordsOf externals (iterRepositoryFiles omitted entries)) := files.filterMap _
    have same := recordAll_perm records
    refine ⟨_, (buildDependencyGraph_eq_ok_iff _ _ _ _).mpr
      ⟨fun file mem => analyzed file (files.mem_iff.mp mem), rfl⟩, fun languageId => ?_, ?_⟩
    · simp only [PyDict.getD, (same languageId).1]
    · refine sortedItems_eq_of_get?_eq fun languageId => ?_
      simp only [outputPayload, get?_mapValues, Option.map_map]
      exact map_eq_of_rel (fun _ _ edges => sortedItems_toSerializable_of_sameEdges edges)
        (same languageId).2

/-- A Python file, a C file whose include the regex fallback finds (the captures are not
`@include` ones), and a file under the omitted directory `build`. -/
theorem buildDependencyGraph_characterised_twoLanguages :
    buildDependencyGraph (.constant (.captures [⟨7, 9, "module"⟩] false)) ["build"]
        [.file ⟨["src", "a.py"], "import os\n".toUTF8.data.toList⟩,
        .file ⟨["src", "b.c"], "#include \"a.h\"\n".toUTF8.data.toList⟩,
        .file ⟨["build", "c.py"], "import re\n".toUTF8.data.toList⟩] =
      .ok (ScanState.initial.recordAll
        [⟨"python", "src/a.py", ["os"]⟩, ⟨"c", "src/b.c", ["a.h"]⟩]) ∧
    (∀ languageId, RecordedLanguage (.constant (.captures [⟨7, 9, "module"⟩] false))
      (iterRepositoryFiles ["build"]
        [.file ⟨["src", "a.py"], "import os\n".toUTF8.data.toList⟩,
        .file ⟨["src", "b.c"], "#include \"a.h\"\n".toUTF8.data.toList⟩,
        .file ⟨["build", "c.py"], "import re\n".toUTF8.data.toList⟩])
      (ScanState.initial.recordAll
        [⟨"python", "src/a.py", ["os"]⟩, ⟨"c", "src/b.c", ["a.h"]⟩]) languageId) ∧
    SameForEveryOrder (.constant (.captures [⟨7, 9, "module"⟩] false)) ["build"]
      [.file ⟨["src", "a.py"], "import os\n".toUTF8.data.toList⟩,
        .file ⟨["src", "b.c"], "#include \"a.h\"\n".toUTF8.data.toList⟩,
        .file ⟨["build", "c.py"], "import re\n".toUTF8.data.toList⟩]
      (ScanState.initial.recordAll
        [⟨"python", "src/a.py", ["os"]⟩, ⟨"c", "src/b.c", ["a.h"]⟩]) :=
  have built : buildDependencyGraph (.constant (.captures [⟨7, 9, "module"⟩] false)) ["build"]
      [.file ⟨["src", "a.py"], "import os\n".toUTF8.data.toList⟩,
        .file ⟨["src", "b.c"], "#include \"a.h\"\n".toUTF8.data.toList⟩,
        .file ⟨["build", "c.py"], "import re\n".toUTF8.data.toList⟩] =
      .ok (ScanState.initial.recordAll
        [⟨"python", "src/a.py", ["os"]⟩, ⟨"c", "src/b.c", ["a.h"]⟩]) := rfl
  ⟨built, buildDependencyGraph_characterised _ _ _ _ built⟩

end XinimTooling.AstDependencies
