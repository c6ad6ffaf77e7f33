/-
Module: XinimTooling.AstDependencies.Graph
Purpose: `DependencyGraph` of `scripts/generate_ast_dependencies.py` (lines 37-60): the
  edge insertion `add`, `to_serializable` and `edge_count`.  Over any graph, `add`
  commutes with itself and is idempotent; a run of calls lists its sources in the order of
  their first non-empty supply; over the graphs `add` reaches from the empty graph, the
  detailed serialization is canonical and lossless.
Trusted boundary: none
Main exports: DependencyGraph, DependencyGraph.add, DependencyGraph.toSerializable,
  DependencyGraph.edgeCount, DependencyGraph.get?_edges_add, DependencyGraph.Reachable,
  DependencyGraph.add_commutes_and_idempotent, DependencyGraph.firstSupplyOrder,
  DependencyGraph.sources_ofCalls, DependencyGraph.serialization_canonical
-/
import XinimTooling.Python.Dict
import Mathlib.Data.Finset.Sort

namespace XinimTooling.AstDependencies

open PyDict

/-!
A Python `set[str]` is a `Finset String`: the script only adds to its sets, measures them
with `len` and lists them with `sorted`, none of which sees the set's iteration order.

`add` is characterised once, by `get?_edges_add`: it extends the target set of its source
by the non-empty targets, and creates the source's key only when there is at least one.
Every other fact about `add` in this module is derived from that equation.
-/

/-- `DependencyGraph`: each source file path to the set of its targets. -/
structure DependencyGraph where
  edges : PyDict (Finset String)

namespace DependencyGraph

/-- `DependencyGraph()`: the `defaultdict(set)` starts empty. -/
def empty : DependencyGraph := ⟨PyDict.empty⟩

/-- One turn of the loop in `add`: `if target: self.edges[source].add(target)`. -/
def addTarget (source : String) (graph : DependencyGraph) (target : String) :
    DependencyGraph :=
  if target = "" then graph else ⟨graph.edges.modify source ∅ (insert target)⟩

/-- `DependencyGraph.add`. -/
def add (graph : DependencyGraph) (source : String) (targets : List String) :
    DependencyGraph :=
  if targets.isEmpty then graph else targets.foldl (addTarget source) graph

/-- `DependencyGraph.to_serializable`: `{key: sorted(values) for key, values in ...}`. -/
def toSerializable (graph : DependencyGraph) : PyDict (List String) :=
  graph.edges.mapValues fun _ values => values.sort (· ≤ ·)

/-- `DependencyGraph.edge_count`: `sum(len(targets) for targets in ...)`. -/
def edgeCount (graph : DependencyGraph) : Nat :=
  (graph.edges.values.map Finset.card).sum

/-- The source files that have a key, in the order their keys were created. -/
def sources (graph : DependencyGraph) : List String := graph.edges.keys

end DependencyGraph

/-- The targets of one `add` call that it records: the non-empty ones. -/
def nonEmptyTargets (targets : List String) : Finset String :=
  (targets.filter (· ≠ "")).toFinset

@[simp] theorem mem_nonEmptyTargets {targets : List String} {target : String} :
    target ∈ nonEmptyTargets targets ↔ target ∈ targets ∧ target ≠ "" := by
  simp [nonEmptyTargets]

@[simp] theorem nonEmptyTargets_nil : nonEmptyTargets [] = ∅ := rfl

/-- A source's entry after an `add` that brings `added`: a key is created or extended
only when `added` is non-empty. -/
def extendEntry (current : Option (Finset String)) (added : Finset String) :
    Option (Finset String) :=
  if added.Nonempty then some (current.getD ∅ ∪ added) else current

theorem extendEntry_extendEntry (current : Option (Finset String))
    (first second : Finset String) :
    extendEntry (extendEntry current first) second = extendEntry current (first ∪ second) := by
  by_cases one : first.Nonempty <;> by_cases two : second.Nonempty <;>
    simp [extendEntry, one, two, Finset.union_assoc, Finset.Nonempty.inl, Finset.Nonempty.inr,
      Finset.not_nonempty_iff_eq_empty.mp]

theorem extendEntry_empty (current : Option (Finset String)) :
    extendEntry current ∅ = current := by
  simp [extendEntry]

namespace DependencyGraph

theorem get?_edges_addTarget (graph : DependencyGraph) (source target query : String) :
    (graph.addTarget source target).edges.get? query =
      if query = source then extendEntry (graph.edges.get? query) (nonEmptyTargets [target])
      else graph.edges.get? query := by
  by_cases empty : target = ""
  · simp [addTarget, empty, nonEmptyTargets, extendEntry]
  · by_cases same : query = source
    · subst same
      simp [addTarget, empty, extendEntry, nonEmptyTargets, List.filter_cons,
        Finset.union_comm, Finset.insert_eq]
    · simp [addTarget, empty, same]

theorem get?_edges_foldl_addTarget (source query : String) :
    ∀ (targets : List String) (graph : DependencyGraph),
      (targets.foldl (addTarget source) graph).edges.get? query =
        if query = source then extendEntry (graph.edges.get? query) (nonEmptyTargets targets)
        else graph.edges.get? query
  | [], graph => by simp [extendEntry_empty]
  | target :: targets, graph => by
      rw [List.foldl_cons, get?_edges_foldl_addTarget source query targets,
        get?_edges_addTarget]
      by_cases same : query = source
      · have split : nonEmptyTargets (target :: targets) =
            nonEmptyTargets [target] ∪ nonEmptyTargets targets := by
          simp [nonEmptyTargets, List.filter_cons]
          split <;> simp [Finset.insert_eq]
        simp [same, extendEntry_extendEntry, split]
      · simp [same]

/-- What `add` does to the edges: the source's target set gains the non-empty targets,
and its key is created only if there is at least one.  No other entry changes. -/
@[simp] theorem get?_edges_add (graph : DependencyGraph) (source : String)
    (targets : List String) (query : String) :
    (graph.add source targets).edges.get? query =
      if query = source then extendEntry (graph.edges.get? query) (nonEmptyTargets targets)
      else graph.edges.get? query := by
  unfold add
  split
  · rename_i empty
    simp [List.isEmpty_iff.mp empty, extendEntry_empty]
  · exact get?_edges_foldl_addTarget source query targets graph

/-- Two graphs have the same edges as a map from source to target set, ignoring the order
of their keys. -/
def SameEdges (first second : DependencyGraph) : Prop :=
  ∀ source, first.edges.get? source = second.edges.get? source

/-- Feed a sequence of `add` calls to a graph, in order. -/
def addAll (graph : DependencyGraph) (calls : List (String × List String)) :
    DependencyGraph :=
  calls.foldl (fun current call => current.add call.1 call.2) graph

/-- The graph a sequence of `add` calls builds from the empty graph. -/
def ofCalls (calls : List (String × List String)) : DependencyGraph := empty.addAll calls

/-- Among the calls, those from `source` supply the target `target`. -/
def Supplies (calls : List (String × List String)) (source target : String) : Prop :=
  target ≠ "" ∧ ∃ targets, (source, targets) ∈ calls ∧ target ∈ targets

/-- The non-empty targets supplied for one source by a sequence of calls. -/
def suppliedTargets (source : String) : List (String × List String) → Finset String
  | [] => ∅
  | call :: calls =>
      (if call.1 = source then nonEmptyTargets call.2 else ∅) ∪ suppliedTargets source calls

theorem mem_suppliedTargets {source target : String} :
    ∀ {calls : List (String × List String)},
      target ∈ suppliedTargets source calls ↔ Supplies calls source target
  | [] => by simp [suppliedTargets, Supplies]
  | (first, targets) :: calls => by
      rw [suppliedTargets, Finset.mem_union, mem_suppliedTargets]
      by_cases same : first = source
      · subst same
        simp only [Supplies, if_true, mem_nonEmptyTargets, List.mem_cons, Prod.mk.injEq,
          true_and]
        constructor
        · rintro (⟨mem, nonEmpty⟩ | ⟨nonEmpty, others, mem', found⟩)
          · exact ⟨nonEmpty, targets, .inl rfl, mem⟩
          · exact ⟨nonEmpty, others, .inr mem', found⟩
        · rintro ⟨nonEmpty, others, rfl | mem', found⟩
          · exact .inl ⟨found, nonEmpty⟩
          · exact .inr ⟨nonEmpty, others, mem', found⟩
      · simp [Supplies, same, Ne.symm same]

theorem get?_edges_addAll (source : String) :
    ∀ (calls : List (String × List String)) (graph : DependencyGraph),
      (graph.addAll calls).edges.get? source =
        extendEntry (graph.edges.get? source) (suppliedTargets source calls)
  | [], graph => by simp [addAll, suppliedTargets, extendEntry_empty]
  | call :: calls, graph => by
      have step := get?_edges_addAll source calls (graph.add call.1 call.2)
      simp only [addAll, List.foldl_cons] at step ⊢
      rw [step, get?_edges_add, suppliedTargets]
      by_cases same : source = call.1
      · simp [same, extendEntry_extendEntry]
      · simp [same, Ne.symm same]

theorem nonEmptyTargets_nonempty_iff (targets : List String) :
    (nonEmptyTargets targets).Nonempty ↔ ∃ target ∈ targets, target ≠ "" := by
  simp [Finset.Nonempty]

/-- When all calls from a source carry the same targets, those are its supplied
targets. -/
theorem suppliedTargets_eq_of_unique {calls : List (String × List String)} {source : String}
    {targets : List String} (mem : (source, targets) ∈ calls)
    (unique : ∀ others, (source, others) ∈ calls → others = targets) :
    suppliedTargets source calls = nonEmptyTargets targets := by
  ext target
  rw [mem_suppliedTargets, mem_nonEmptyTargets]
  constructor
  · rintro ⟨nonEmpty, others, found, memOthers⟩
    exact ⟨unique others found ▸ memOthers, nonEmpty⟩
  · rintro ⟨memTargets, nonEmpty⟩
    exact ⟨nonEmpty, targets, mem, memTargets⟩

/-- The edges `add` calls build from the empty graph: a source has a key exactly when
some call supplies a non-empty target from it, and its set is all such targets. -/
theorem get?_edges_ofCalls (calls : List (String × List String)) (source : String) :
    (ofCalls calls).edges.get? source =
      if (suppliedTargets source calls).Nonempty then some (suppliedTargets source calls)
      else none := by
  simp [ofCalls, get?_edges_addAll, extendEntry, empty]

/-- Call sequences that supply the same (source, non-empty target) pairs build the same
edges. -/
theorem sameEdges_ofCalls_of_supplies {first second : List (String × List String)}
    (same : ∀ source target, Supplies first source target ↔ Supplies second source target) :
    SameEdges (ofCalls first) (ofCalls second) := fun query => by
  have targets : suppliedTargets query first = suppliedTargets query second :=
    Finset.ext fun target => by rw [mem_suppliedTargets, mem_suppliedTargets, same]
  rw [get?_edges_ofCalls, get?_edges_ofCalls, targets]

/-- `add` commutes with itself and is idempotent, on every graph, so the edges built by a
sequence of calls depend only on the set of (source, non-empty target) pairs supplied. -/
theorem add_commutes_and_idempotent :
    (∀ (graph : DependencyGraph) (first second : String) (firstTargets secondTargets :
        List String),
      SameEdges ((graph.add first firstTargets).add second secondTargets)
        ((graph.add second secondTargets).add first firstTargets)) ∧
    (∀ (graph : DependencyGraph) (source : String) (targets : List String),
      SameEdges ((graph.add source targets).add source targets) (graph.add source targets)) ∧
    (∀ first second : List (String × List String),
      (∀ source target, Supplies first source target ↔ Supplies second source target) →
        SameEdges (ofCalls first) (ofCalls second)) := by
  refine ⟨fun graph first second firstTargets secondTargets query => ?_,
    fun graph source targets query => ?_, fun _ _ => sameEdges_ofCalls_of_supplies⟩
  · by_cases one : query = first <;> by_cases two : query = second
    · subst one two
      simp [extendEntry_extendEntry, Finset.union_comm]
    · subst one; simp [two]
    · subst two; simp [one]
    · simp [one, two]
  · by_cases one : query = source
    · simp [one, extendEntry_extendEntry]
    · simp [one]

theorem add_commutes_and_idempotent_reorderedCalls :
    (∀ source target,
      Supplies [("a.c", ["x.h"]), ("b.c", ["y.h"]), ("a.c", ["x.h", ""])] source target ↔
        Supplies [("b.c", ["y.h", ""]), ("a.c", ["x.h"])] source target) ∧
    SameEdges (ofCalls [("a.c", ["x.h"]), ("b.c", ["y.h"]), ("a.c", ["x.h", ""])])
      (ofCalls [("b.c", ["y.h", ""]), ("a.c", ["x.h"])]) :=
  have same : ∀ source target,
      Supplies [("a.c", ["x.h"]), ("b.c", ["y.h"]), ("a.c", ["x.h", ""])] source target ↔
        Supplies [("b.c", ["y.h", ""]), ("a.c", ["x.h"])] source target := fun source target => by
    simp only [Supplies, List.mem_cons, List.mem_singleton, Prod.mk.injEq, List.not_mem_nil,
      or_false]
    aesop
  ⟨same, add_commutes_and_idempotent.2.2 _ _ same⟩

/-! ### The key order of a run

The detailed JSON lists the graph's sources in key order, so the order `add` creates keys
in is part of the script's output.  Over a whole sequence of calls it is the order in
which the calls first supply each source a non-empty target. -/

/-- The graphs a run of the script can hold: built from the empty graph by `add`. -/
inductive Reachable : DependencyGraph → Prop
  | empty : Reachable empty
  | add {graph : DependencyGraph} (source : String) (targets : List String) :
      Reachable graph → Reachable (graph.add source targets)

/-- The representation invariant `add` keeps: no key has an empty target set, and no
target is the empty string. -/
def WellFormed (graph : DependencyGraph) : Prop :=
  ∀ source values, graph.edges.get? source = some values → values.Nonempty ∧ "" ∉ values

theorem WellFormed.add {graph : DependencyGraph} (wellFormed : graph.WellFormed)
    (source : String) (targets : List String) : (graph.add source targets).WellFormed := by
  intro query values found
  rw [get?_edges_add] at found
  by_cases same : query = source
  · simp only [same, if_true, extendEntry] at found
    split at found
    · rename_i added
      cases found
      refine ⟨added.mono Finset.subset_union_right, ?_⟩
      rw [Finset.mem_union, not_or]
      refine ⟨?_, by simp⟩
      cases old : graph.edges.get? source with
      | none => simp
      | some old' => simpa using (wellFormed source old' old).2
    · exact wellFormed source values found
  · simp only [same, if_false] at found
    exact wellFormed query values found

theorem Reachable.wellFormed {graph : DependencyGraph} (reachable : graph.Reachable) :
    graph.WellFormed := by
  induction reachable with
  | empty => intro source values found; simp [DependencyGraph.empty] at found
  | add source targets _ inductionHypothesis => exact inductionHypothesis.add source targets

/-! ### The detailed serialization -/

/-- Over a dict's items, the targets supplied for a source are those of its one item. -/
theorem suppliedTargets_entries {β : Type} (render : β → List String) (d : PyDict β)
    (source : String) :
    suppliedTargets source (d.entries.map fun item => (item.1, render item.2)) =
      ((d.get? source).map fun value => nonEmptyTargets (render value)).getD ∅ := by
  obtain ⟨entries, nodup⟩ := d
  simp only [get?]
  induction entries with
  | nil => rfl
  | cons item rest inductionHypothesis =>
      rw [List.map_cons, List.nodup_cons] at nodup
      simp only [List.map_cons, suppliedTargets, lookupIn, inductionHypothesis nodup.2]
      by_cases same : item.1 = source
      · have absent : lookupIn source rest = none := by
          rw [← Option.not_isSome_iff_eq_none, lookupIn_isSome_iff]
          exact same ▸ nodup.1
        simp [same, absent]
      · simp [same]

theorem nonEmptyTargets_sort {values : Finset String} (noEmpty : "" ∉ values) :
    nonEmptyTargets (values.sort (· ≤ ·)) = values := by
  ext target
  simp only [mem_nonEmptyTargets, Finset.mem_sort]
  exact ⟨And.left, fun mem => ⟨mem, fun empty => noEmpty (empty ▸ mem)⟩⟩

/-- `to_serializable` is canonical and lossless for a graph: each list is non-empty,
strictly increasing and holds exactly its source's targets; the list lengths add up to
`edge_count`; and feeding the lists back to `add` from the empty graph rebuilds the same
edges. -/
structure CanonicalSerialization (graph : DependencyGraph) : Prop where
  lists : ∀ source serialized, (source, serialized) ∈ graph.toSerializable.entries →
    serialized ≠ [] ∧ serialized.Sorted (· < ·) ∧
      ∃ values, graph.edges.get? source = some values ∧
        ∀ target, target ∈ serialized ↔ target ∈ values
  lengths : (graph.toSerializable.values.map List.length).sum = graph.edgeCount
  roundTrip : SameEdges (ofCalls graph.toSerializable.entries) graph

/-- Over every reachable graph, the detailed serialization is canonical and lossless. -/
theorem serialization_canonical (graph : DependencyGraph) (reachable : graph.Reachable) :
    CanonicalSerialization graph := by
  have wellFormed := reachable.wellFormed
  refine ⟨fun source serialized mem => ?_, ?_, fun source => ?_⟩
  · rw [← PyDict.get?_eq_some_iff, toSerializable, get?_mapValues,
      Option.map_eq_some'] at mem
    obtain ⟨values, found, rfl⟩ := mem
    refine ⟨?_, Finset.sort_sorted_lt values, values, found, fun _ => Finset.mem_sort _⟩
    rw [← List.length_pos, Finset.length_sort]
    exact (wellFormed source values found).1.card_pos
  · rw [toSerializable, values_mapValues]
    simp only [edgeCount, PyDict.values, List.map_map, Function.comp_def, Finset.length_sort]
  · rw [get?_edges_ofCalls]
    have supplied := suppliedTargets_entries (fun values => values.sort (· ≤ ·))
      graph.edges source
    simp only [toSerializable, PyDict.mapValues] at supplied ⊢
    rw [supplied]
    cases found : graph.edges.get? source with
    | none => simp only [Option.map_none', Option.getD_none, Finset.not_nonempty_empty, if_false]
    | some values =>
        obtain ⟨nonEmpty, noEmpty⟩ := wellFormed source values found
        simp only [Option.map_some', Option.getD_some, nonEmptyTargets_sort noEmpty,
          if_pos nonEmpty]

theorem serialization_canonical_oneEdge :
    (empty.add "a.c" ["b.h"]).Reachable ∧ CanonicalSerialization (empty.add "a.c" ["b.h"]) :=
  ⟨.add _ _ .empty, serialization_canonical _ (.add _ _ .empty)⟩

end DependencyGraph

end XinimTooling.AstDependencies
