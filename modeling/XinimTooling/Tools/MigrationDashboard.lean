/-
Module: XinimTooling.Tools.MigrationDashboard
Purpose: `tools/migration_dashboard.py`: `analyze_dependencies`, and `prioritize`, which
  orders files by a `networkx.DiGraph` of their dependencies, falling back to a sort by
  in-degree when the graph has a cycle.
Trusted boundary: the networkx model of `XinimTooling.Networkx`; reading each file
  (`read_text(errors="ignore")`) gives its text or `none` for an `OSError`; the JSON summary
  and the printed report are left out
Main exports: pathName, analyzeDependencies, mentionedIn, analyzeDependencies_spec, DependsOn,
  dependencyGraph, edge_dependencyGraph, mem_nodes_dependencyGraph, prioritize, prioritize_spec,
  Mentions, prioritize_eq_error_iff, prioritize_analyzeDependencies_of_cycle
-/
import XinimTooling.Networkx.TopologicalSort
import XinimTooling.Python.Sorted
import XinimTooling.Python.Str

namespace XinimTooling.MigrationDashboard

open Networkx

/-- `Path(path).name`: the last component, once empty and `.` components are dropped. -/
def pathName (path : String) : List Char :=
  ((path.toList.splitOn '/').filter fun part => part ≠ [] ∧ part ≠ ['.']).getLastD []

/-- `analyze_dependencies(files)`, where `readText file` is `Path(file).read_text(errors=
"ignore")`, or `none` for an `OSError`, which the function lets through. -/
def analyzeDependencies (files : List String) (readText : String → Option (List Char)) :
    Option (PyDict (List String)) :=
  files.foldlM
    (fun deps file => (readText file).map fun text =>
      files.foldl (fun deps other =>
        if other ≠ file ∧ Str.contains (pathName other) text then
          deps.modify file [] (· ++ [other])
        else deps) deps)
    (files.foldl (fun deps file => deps.setItem file []) PyDict.empty)

/-! ### What `analyze_dependencies` records -/

/-- The files of `files` other than `file` whose name occurs in `text`, in the order of
`files`: what one pass of the inner loop appends to `deps[file]`. -/
def mentionedIn (files : List String) (file : String) (text : List Char) : List String :=
  files.filter fun other => other ≠ file ∧ Str.contains (pathName other) text

/-- The body of `for file in files` in `analyze_dependencies`: read the file, then append
to `deps[file]` each other file whose name occurs in its text. -/
def recordMentions (files : List String) (readText : String → Option (List Char))
    (deps : PyDict (List String)) (file : String) : Option (PyDict (List String)) :=
  (readText file).map fun text =>
    files.foldl (fun deps other =>
      if other ≠ file ∧ Str.contains (pathName other) text then
        deps.modify file [] (· ++ [other])
      else deps) deps

section AnalyzeDependencies

variable (files : List String) (readText : String → Option (List Char))

theorem foldl_setItem_nil :
    ∀ (keys : List String) (deps : PyDict (List String)) (key : String),
      (key ∈ (keys.foldl (fun deps file => deps.setItem file []) deps).keys ↔
          key ∈ deps.keys ∨ key ∈ keys) ∧
        (keys.foldl (fun deps file => deps.setItem file []) deps).getD key [] =
          if key ∈ keys then [] else deps.getD key []
  | [], _, _ => by simp
  | first :: keys, deps, key => by
      obtain ⟨memIff, getEq⟩ := foldl_setItem_nil keys (deps.setItem first []) key
      rw [List.foldl_cons, memIff, getEq, PyDict.mem_keys_setItem, PyDict.getD_setItem]
      constructor
      · simp only [List.mem_cons]
        tauto
      · by_cases same : key = first <;> simp [same]

/-- The inner loop `for other in files` for one file: `deps[file]` gains the mentioned
files, and nothing else changes. -/
theorem foldl_recordMention (file : String) (text : List Char) :
    ∀ (others : List String) (deps : PyDict (List String)), file ∈ deps.keys →
      let recorded := others.foldl (fun deps other =>
        if other ≠ file ∧ Str.contains (pathName other) text then
          deps.modify file [] (· ++ [other])
        else deps) deps
      recorded.keys = deps.keys ∧ ∀ key, recorded.getD key [] =
        if key = file then deps.getD file [] ++ mentionedIn others file text
        else deps.getD key []
  | [], deps, _ => ⟨rfl, fun key => by by_cases same : key = file <;> simp [same, mentionedIn]⟩
  | other :: others, deps, held => by
      by_cases hit : other ≠ file ∧ Str.contains (pathName other) text = true
      · obtain ⟨keysEq, getEq⟩ := foldl_recordMention file text others
          (deps.modify file [] (· ++ [other])) (by simp [held])
        refine ⟨by rw [List.foldl_cons, if_pos hit, keysEq, PyDict.keys_modify, if_pos held],
          fun key => ?_⟩
        rw [List.foldl_cons, if_pos hit, getEq]
        by_cases same : key = file <;> simp [same, mentionedIn, hit, PyDict.getD]
      · obtain ⟨keysEq, getEq⟩ := foldl_recordMention file text others deps held
        refine ⟨by rw [List.foldl_cons, if_neg hit, keysEq], fun key => ?_⟩
        rw [List.foldl_cons, if_neg hit, getEq]
        rw [mentionedIn, mentionedIn, List.filter_cons_of_neg (by simpa using hit)]

/-- The outer loop from any dict that has every pending file as a key: it stops at the first
file that cannot be read, and otherwise appends to each file's list, once per occurrence
of the file, the files it mentions. -/
theorem foldlM_recordMentions :
    ∀ (pending : List String) (deps : PyDict (List String)), (∀ file ∈ pending, file ∈ deps.keys) →
      (pending.foldlM (recordMentions files readText) deps = none ↔
          ∃ file ∈ pending, readText file = none) ∧
        ∀ result, pending.foldlM (recordMentions files readText) deps = some result →
          result.keys = deps.keys ∧ ∀ file text, readText file = some text →
            result.getD file [] = deps.getD file [] ++
              (List.replicate (pending.count file) (mentionedIn files file text)).flatten
  | [], deps, _ => ⟨by simp, fun result done => by cases done; simp⟩
  | file :: pending, deps, held => by
      rw [List.foldlM_cons]
      cases read : readText file with
      | none => exact ⟨by simp [recordMentions, read], fun result done => by
          simp [recordMentions, read] at done⟩
      | some text =>
        obtain ⟨keysEq, getEq⟩ := foldl_recordMention file text files deps
          (held file (List.mem_cons_self _ _))
        obtain ⟨noneIff, results⟩ := foldlM_recordMentions pending _
          fun other mem => keysEq ▸ held other (List.mem_cons_of_mem _ mem)
        simp only [recordMentions, read, Option.map_some', Option.some_bind]
        refine ⟨by simp [noneIff, read], fun result done => ?_⟩
        obtain ⟨resultKeys, resultGet⟩ := results result done
        refine ⟨resultKeys.trans keysEq, fun other otherText otherRead => ?_⟩
        rw [resultGet other otherText otherRead, getEq]
        by_cases same : other = file
        · subst same
          cases read.symm.trans otherRead
          simp [List.count_cons, List.replicate_succ]
        · simp [same, List.count_cons, Ne.symm same]

theorem analyzeDependencies_eq_none_iff :
    analyzeDependencies files readText = none ↔ ∃ file ∈ files, readText file = none :=
  (foldlM_recordMentions files readText files _
    fun file mem => ((foldl_setItem_nil files PyDict.empty file).1).mpr (.inr mem)).1

/-- A run that returns has read every file. -/
theorem exists_readText_of_analyzeDependencies {deps : PyDict (List String)}
    (done : analyzeDependencies files readText = some deps) {file : String}
    (listed : file ∈ files) : ∃ text, readText file = some text :=
  Option.ne_none_iff_exists'.mp fun unread =>
    absurd ((analyzeDependencies_eq_none_iff files readText).mpr ⟨file, listed, unread⟩)
      (by simp [done])

/-- What a dict that `analyze_dependencies` returns holds for each file. -/
theorem getD_of_analyzeDependencies {deps : PyDict (List String)}
    (done : analyzeDependencies files readText = some deps) (file : String) :
    (file ∈ deps.keys ↔ file ∈ files) ∧ ∀ text, readText file = some text →
      deps.getD file [] = (List.replicate (files.count file) (mentionedIn files file text)).flatten := by
  have init := foldl_setItem_nil files PyDict.empty file
  obtain ⟨keysEq, getEq⟩ := (foldlM_recordMentions files readText files _
    fun file mem => ((foldl_setItem_nil files PyDict.empty file).1).mpr (.inr mem)).2 deps done
  refine ⟨by simp [keysEq, init.1], fun text read => ?_⟩
  rw [getEq file text read, init.2]
  split <;> simp_all [PyDict.getD]

end AnalyzeDependencies

/-- The exceptions `prioritize` lets through. -/
inductive DashboardError where
  /-- Raised by `topological_sort` while iterating. -/
  | runtimeError
  /-- `sorted` comparing in-degrees: `G.in_degree(x)` of a file that is not a node is a
  degree view, and a view compares with neither a view nor an `int`. -/
  | typeError
deriving Repr, DecidableEq

/-- `sorted(files, key=lambda x: G.in_degree(x))`.  Timsort compares every item with
another once there are two, so a file outside the graph makes it raise. -/
def sortedByInDegree (graph : DiGraph) (files : List String) :
    Except DashboardError (List String) :=
  if 2 ≤ files.length ∧ ∃ file ∈ files, file ∉ graph.nodes then throw .typeError
  else pure (pySorted graph.inDegree false files)

/-- The graph `prioritize` builds: an edge from each dependency to the file that depends
on it. -/
def dependencyGraph (deps : PyDict (List String)) : DiGraph :=
  deps.entries.foldl
    (fun graph (file, dependencies) =>
      dependencies.foldl (fun graph dependency => graph.addEdge dependency file) graph)
    DiGraph.empty

/-- `file` lists `dependency` in `deps`. -/
def DependsOn (deps : PyDict (List String)) (file dependency : String) : Prop :=
  dependency ∈ deps.getD file []

/-! ### The graph `prioritize` builds -/

section DependencyGraph

variable {first second node : String}

theorem wellFormed_foldl_addEdge (file : String) :
    ∀ (dependencies : List String) {graph : DiGraph}, graph.WellFormed →
      (dependencies.foldl (fun graph dependency => graph.addEdge dependency file) graph).WellFormed
  | [], _, formed => formed
  | _ :: dependencies, _, formed => wellFormed_foldl_addEdge file dependencies (formed.addEdge _ _)

theorem edge_foldl_addEdge (file : String) :
    ∀ (dependencies : List String) (graph : DiGraph),
      (dependencies.foldl (fun graph dependency => graph.addEdge dependency file) graph).Edge
          first second ↔
        graph.Edge first second ∨ first ∈ dependencies ∧ second = file
  | [], _ => by simp
  | dependency :: dependencies, graph => by
      rw [List.foldl_cons, edge_foldl_addEdge file dependencies, DiGraph.edge_addEdge,
        List.mem_cons]
      tauto

theorem mem_nodes_foldl_addEdge (file : String) :
    ∀ (dependencies : List String) (graph : DiGraph),
      node ∈ (dependencies.foldl (fun graph dependency => graph.addEdge dependency file)
          graph).nodes ↔
        node ∈ graph.nodes ∨ node ∈ dependencies ∨ dependencies ≠ [] ∧ node = file
  | [], _ => by simp
  | dependency :: dependencies, graph => by
      rw [List.foldl_cons, mem_nodes_foldl_addEdge file dependencies, DiGraph.mem_nodes_addEdge,
        List.mem_cons]
      by_cases empty : dependencies = []
      · simp [empty]
      · simp [empty]
        tauto

/-- The loop over `deps.items()`, from any graph. -/
theorem edge_foldl_entries :
    ∀ (entries : List (String × List String)) (graph : DiGraph),
      (entries.foldl (fun graph (file, dependencies) =>
          dependencies.foldl (fun graph dependency => graph.addEdge dependency file) graph)
          graph).Edge first second ↔
        graph.Edge first second ∨ ∃ entry ∈ entries, first ∈ entry.2 ∧ second = entry.1
  | [], _ => by simp
  | (file, dependencies) :: entries, graph => by
      rw [List.foldl_cons, edge_foldl_entries entries, edge_foldl_addEdge]
      simp only [List.mem_cons, exists_eq_or_imp, or_assoc]

theorem mem_nodes_foldl_entries :
    ∀ (entries : List (String × List String)) (graph : DiGraph),
      node ∈ (entries.foldl (fun graph (file, dependencies) =>
          dependencies.foldl (fun graph dependency => graph.addEdge dependency file) graph)
          graph).nodes ↔
        node ∈ graph.nodes ∨
          ∃ entry ∈ entries, node ∈ entry.2 ∨ entry.2 ≠ [] ∧ node = entry.1
  | [], _ => by simp
  | (file, dependencies) :: entries, graph => by
      rw [List.foldl_cons, mem_nodes_foldl_entries entries, mem_nodes_foldl_addEdge]
      simp only [List.mem_cons, exists_eq_or_imp, or_assoc]

theorem wellFormed_foldl_entries :
    ∀ (entries : List (String × List String)) {graph : DiGraph}, graph.WellFormed →
      (entries.foldl (fun graph (file, dependencies) =>
          dependencies.foldl (fun graph dependency => graph.addEdge dependency file) graph)
          graph).WellFormed
  | [], _, formed => formed
  | (file, dependencies) :: entries, _, formed =>
      wellFormed_foldl_entries entries (wellFormed_foldl_addEdge file dependencies formed)

theorem wellFormed_dependencyGraph (deps : PyDict (List String)) :
    (dependencyGraph deps).WellFormed :=
  wellFormed_foldl_entries _ DiGraph.wellFormed_empty

/-- An edge `dependency → file` stands for each dependency `deps` lists for the file. -/
theorem edge_dependencyGraph (deps : PyDict (List String)) :
    (dependencyGraph deps).Edge first second ↔ DependsOn deps second first := by
  rw [dependencyGraph, edge_foldl_entries, DependsOn, PyDict.mem_getD_nil_iff]
  constructor
  · rintro (edge | ⟨⟨file, dependencies⟩, mem, listed, rfl⟩)
    · simp [DiGraph.Edge, DiGraph.successors, DiGraph.empty, PyDict.getD] at edge
    · exact ⟨dependencies, mem, listed⟩
  · rintro ⟨dependencies, mem, listed⟩
    exact .inr ⟨(second, dependencies), mem, listed, rfl⟩

/-- The nodes are the files that have a dependency or a dependent. -/
theorem mem_nodes_dependencyGraph (deps : PyDict (List String)) :
    node ∈ (dependencyGraph deps).nodes ↔
      ∃ other, DependsOn deps node other ∨ DependsOn deps other node := by
  simp only [dependencyGraph, mem_nodes_foldl_entries, DependsOn, PyDict.mem_getD_nil_iff]
  constructor
  · rintro (absent | ⟨⟨file, dependencies⟩, mem, listed | ⟨nonempty, rfl⟩⟩)
    · simp [DiGraph.nodes, DiGraph.empty] at absent
    · exact ⟨file, .inr ⟨dependencies, mem, listed⟩⟩
    · obtain ⟨other, listed⟩ := List.exists_mem_of_ne_nil _ nonempty
      exact ⟨other, .inl ⟨dependencies, mem, listed⟩⟩
  · rintro ⟨other, ⟨dependencies, mem, listed⟩ | ⟨dependencies, mem, listed⟩⟩
    · exact .inr ⟨(node, dependencies), mem, .inr ⟨List.ne_nil_of_mem listed, rfl⟩⟩
    · exact .inr ⟨(other, dependencies), mem, .inl listed⟩

end DependencyGraph

/-- `prioritize(files, deps)`. -/
def prioritize (files : List String) (deps : PyDict (List String)) :
    Except DashboardError (List String) :=
  match topologicalSort (dependencyGraph deps) with
  | .ok order => pure order
  | .error .unfeasible => sortedByInDegree (dependencyGraph deps) files
  | .error .runtimeError => throw .runtimeError

/-- Only files with a dependency, or a dependent, are nodes of the graph, and the
topological sort lists nodes only: two files that mention neither each other's name are
prioritised to nothing. -/
theorem independentFiles_dropped :
    ((analyzeDependencies ["a.c", "b.c"] fun _ => some "int x;\n".toList).map
        PyDict.entries = some [("a.c", []), ("b.c", [])]) ∧
      prioritize ["a.c", "b.c"] ⟨[("a.c", []), ("b.c", [])], by decide⟩ = .ok [] := by
  refine ⟨by decide, ?_⟩
  unfold prioritize topologicalSort
  rw [generationsFrom]
  rfl

/-- What `prioritize` returns: when no file depends on itself through its dependencies, each
file that has a dependency or a dependent, once, after the files it depends on; and when one
does, the fallback sort by in-degree. -/
theorem prioritize_spec (files : List String) (deps : PyDict (List String)) :
    ((¬∃ file, Relation.TransGen (DependsOn deps) file file) ∧
      ∃ order, prioritize files deps = .ok order ∧ order.Nodup ∧
        (∀ file, file ∈ order ↔
          ∃ other, DependsOn deps file other ∨ DependsOn deps other file) ∧
        ∀ before file after, order = before ++ file :: after →
          ∀ dependency, DependsOn deps file dependency → dependency ∈ before) ∨
      ((∃ file, Relation.TransGen (DependsOn deps) file file) ∧
        prioritize files deps = sortedByInDegree (dependencyGraph deps) files) := by
  have formed := wellFormed_dependencyGraph deps
  have cycles : (∃ file, Relation.TransGen (DependsOn deps) file file) ↔
      ∃ node, Relation.TransGen (dependencyGraph deps).Edge node node := by
    refine exists_congr fun file => ⟨fun cycle => ?_, fun cycle => ?_⟩
    · exact cycle.swap.mono fun _ _ depends => (edge_dependencyGraph deps).mpr depends
    · have flipped : Relation.TransGen (Function.swap (DependsOn deps)) file file :=
        cycle.mono fun _ _ edge => (edge_dependencyGraph deps).mp edge
      exact flipped.swap
  rcases topologicalSort_spec formed with
    ⟨order, sorted, perm, ordered⟩ | ⟨raised, cycle⟩
  · refine .inl ⟨fun cyclic => ?_, order, by simp only [prioritize, sorted]; rfl,
      perm.nodup_iff.mpr (dependencyGraph deps).succ.keys_nodup,
      fun file => perm.mem_iff.trans (mem_nodes_dependencyGraph deps),
      fun before file after split dependency depends => ordered before file after split dependency
        ((formed.mem_predecessors _ _).mpr ((edge_dependencyGraph deps).mpr depends))⟩
    have raised := (topologicalSort_eq_error_iff formed .unfeasible).mpr ⟨rfl, cycles.mp cyclic⟩
    rw [sorted] at raised
    cases raised
  · exact .inr ⟨cycles.mpr cycle, by simp only [prioritize, raised]⟩

/-! ### `prioritize` on what `analyze_dependencies` records -/

/-- `file` is one of `files`, it can be read, and the name of `other`, another of `files`,
occurs in its text. -/
def Mentions (files : List String) (readText : String → Option (List Char))
    (file other : String) : Prop :=
  file ∈ files ∧ ∃ text, readText file = some text ∧ other ∈ mentionedIn files file text

section Pipeline

variable {files : List String} {readText : String → Option (List Char)}
  {deps : PyDict (List String)}

/-- `deps` records exactly the mentions, whether or not `files` repeats a file. -/
theorem dependsOn_iff_mentions (done : analyzeDependencies files readText = some deps)
    (file other : String) : DependsOn deps file other ↔ Mentions files readText file other := by
  obtain ⟨keysIff, getEq⟩ := getD_of_analyzeDependencies files readText done file
  unfold DependsOn Mentions
  by_cases listed : file ∈ files
  · obtain ⟨text, read⟩ := exists_readText_of_analyzeDependencies files readText done listed
    rw [getEq text read]
    simp [listed, read, List.count_eq_zero]
  · have absent : deps.getD file [] = [] := by
      simp [PyDict.getD, PyDict.get?_eq_none_of_not_mem (mt keysIff.mp listed)]
    simp [absent, listed]

/-- The in-degree of a file in the graph `prioritize` builds is the number of other files it
mentions. -/
theorem inDegree_dependencyGraph (distinct : files.Nodup)
    (done : analyzeDependencies files readText = some deps) {file : String}
    (listed : file ∈ files) {text : List Char} (read : readText file = some text) :
    (dependencyGraph deps).inDegree file = (mentionedIn files file text).length := by
  have formed := wellFormed_dependencyGraph deps
  refine List.Perm.length_eq ((List.perm_ext_iff_of_nodup (formed.predecessors_nodup file)
    (distinct.filter _)).mpr fun other => ?_)
  rw [formed.mem_predecessors, ← DiGraph.Edge, edge_dependencyGraph,
    dependsOn_iff_mentions done]
  simp [Mentions, listed, read, mentionedIn]

/-- A file that is not a node of the graph neither mentions nor is mentioned. -/
theorem not_mem_nodes_iff (done : analyzeDependencies files readText = some deps) (file : String) :
    file ∉ (dependencyGraph deps).nodes ↔
      ∀ other, ¬Mentions files readText file other ∧ ¬Mentions files readText other file := by
  simp only [mem_nodes_dependencyGraph, dependsOn_iff_mentions done, not_exists, not_or]

/-- The mentions have a cycle exactly when the graph `prioritize` builds has one. -/
theorem exists_cycle_mentions_iff (done : analyzeDependencies files readText = some deps) :
    (∃ file, Relation.TransGen (Mentions files readText) file file) ↔
      ∃ node, Relation.TransGen (dependencyGraph deps).Edge node node := by
  have edge : ∀ node other, (dependencyGraph deps).Edge node other ↔
      Mentions files readText other node := fun node other =>
    (edge_dependencyGraph deps).trans (dependsOn_iff_mentions done other node)
  refine exists_congr fun file => ⟨fun cycle => cycle.swap.mono fun _ _ => (edge _ _).mpr,
    fun cycle => ?_⟩
  have flipped : Relation.TransGen (Function.swap (Mentions files readText)) file file :=
    cycle.mono fun _ _ => (edge _ _).mp
  exact flipped.swap

/-- When the mentions have a cycle, `prioritize(files, analyze_dependencies(files))` falls
back to `sorted(files, key=lambda x: G.in_degree(x))`, whose key is the number of other files
a file mentions: with two files or more, one of which neither mentions nor is mentioned, the
sort compares a degree view and raises `TypeError`; otherwise the files come out by that
number, fewest first, ties in their order. -/
theorem prioritize_analyzeDependencies_of_cycle (distinct : files.Nodup)
    (done : analyzeDependencies files readText = some deps)
    (cyclic : ∃ file, Relation.TransGen (Mentions files readText) file file) :
    (2 ≤ files.length ∧ (∃ file ∈ files, ∀ other,
        ¬Mentions files readText file other ∧ ¬Mentions files readText other file) →
      prioritize files deps = .error .typeError) ∧
    (¬(2 ≤ files.length ∧ ∃ file ∈ files, ∀ other,
        ¬Mentions files readText file other ∧ ¬Mentions files readText other file) →
      prioritize files deps = .ok (pySorted
        (fun file => (mentionedIn files file ((readText file).getD [])).length) false files)) := by
  have raised := (topologicalSort_eq_error_iff (wellFormed_dependencyGraph deps) .unfeasible).mpr
    ⟨rfl, (exists_cycle_mentions_iff done).mp cyclic⟩
  have keys : ∀ file ∈ files, (dependencyGraph deps).inDegree file =
      (mentionedIn files file ((readText file).getD [])).length := fun file listed => by
    obtain ⟨text, read⟩ := exists_readText_of_analyzeDependencies files readText done listed
    rw [inDegree_dependencyGraph distinct done listed read, read, Option.getD_some]
  simp only [prioritize, raised, sortedByInDegree, ← not_mem_nodes_iff done]
  exact ⟨fun condition => if_pos condition,
    fun condition => by rw [if_neg condition, pySorted_congr false keys]; rfl⟩

theorem prioritize_analyzeDependencies_of_cycle_mutual :
    ["a.c", "b.c"].Nodup ∧
      analyzeDependencies ["a.c", "b.c"] (fun _ => some "a.c b.c".toList) =
        some ⟨[("a.c", ["b.c"]), ("b.c", ["a.c"])], by decide⟩ ∧
      (∃ file, Relation.TransGen (Mentions ["a.c", "b.c"] fun _ => some "a.c b.c".toList)
        file file) ∧
      (2 ≤ ["a.c", "b.c"].length ∧ (∃ file ∈ ["a.c", "b.c"], ∀ other,
          ¬Mentions ["a.c", "b.c"] (fun _ => some "a.c b.c".toList) file other ∧
            ¬Mentions ["a.c", "b.c"] (fun _ => some "a.c b.c".toList) other file) →
        prioritize ["a.c", "b.c"] ⟨[("a.c", ["b.c"]), ("b.c", ["a.c"])], by decide⟩ =
          .error .typeError) ∧
      (¬(2 ≤ ["a.c", "b.c"].length ∧ ∃ file ∈ ["a.c", "b.c"], ∀ other,
          ¬Mentions ["a.c", "b.c"] (fun _ => some "a.c b.c".toList) file other ∧
            ¬Mentions ["a.c", "b.c"] (fun _ => some "a.c b.c".toList) other file) →
        prioritize ["a.c", "b.c"] ⟨[("a.c", ["b.c"]), ("b.c", ["a.c"])], by decide⟩ =
          .ok (pySorted (fun file => (mentionedIn ["a.c", "b.c"] file
            (((fun _ => some "a.c b.c".toList) file).getD [])).length) false ["a.c", "b.c"])) := by
  have there : Mentions ["a.c", "b.c"] (fun _ => some "a.c b.c".toList) "a.c" "b.c" :=
    ⟨by decide, _, rfl, by decide⟩
  have back : Mentions ["a.c", "b.c"] (fun _ => some "a.c b.c".toList) "b.c" "a.c" :=
    ⟨by decide, _, rfl, by decide⟩
  exact ⟨by decide, rfl, ⟨"a.c", .tail (.single there) back⟩,
    prioritize_analyzeDependencies_of_cycle (by decide) rfl ⟨"a.c", .tail (.single there) back⟩⟩

/-- Both ends of a recorded dependency are among the analysed files. -/
theorem mem_of_dependsOn (done : analyzeDependencies files readText = some deps)
    {file other : String} (depends : DependsOn deps file other) : file ∈ files ∧ other ∈ files :=
  let ⟨listed, _, _, mentioned⟩ := (dependsOn_iff_mentions done file other).mp depends
  ⟨listed, (List.mem_filter.mp mentioned).1⟩

/-- Every file in the order `prioritize` returns for analysed files is one of them. -/
theorem mem_of_prioritize_eq_ok (done : analyzeDependencies files readText = some deps)
    {order : List String} (sorted : prioritize files deps = .ok order) :
    ∀ file ∈ order, file ∈ files := by
  unfold prioritize at sorted
  split at sorted
  · next listed =>
    cases sorted
    obtain ⟨order, listed', perm, -⟩ | ⟨raised, -⟩ :=
      topologicalSort_spec (wellFormed_dependencyGraph deps)
    · rw [listed] at listed'
      cases listed'
      intro file mem
      obtain ⟨other, depends | depends⟩ :=
        (mem_nodes_dependencyGraph deps).mp (perm.subset mem)
      · exact (mem_of_dependsOn done depends).1
      · exact (mem_of_dependsOn done depends).2
    · rw [listed] at raised
      cases raised
  · unfold sortedByInDegree at sorted
    split at sorted
    · cases sorted
    · cases sorted
      exact fun file mem => (pySorted_perm _ _ _).subset mem
  · cases sorted

end Pipeline

end XinimTooling.MigrationDashboard
