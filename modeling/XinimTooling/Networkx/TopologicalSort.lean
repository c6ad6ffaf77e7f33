/-
Module: XinimTooling.Networkx.TopologicalSort
Purpose: `nx.topological_sort` as networkx 2.6 and later computes it, by the generations of
  `topological_generations`; the loop's termination, and its correctness: on a graph built
  by `add_edge` it lists every node once, each after its predecessors, and it raises
  `NetworkXUnfeasible` exactly when the graph has a cycle.
Trusted boundary: networkx's `topological_generations`, transcribed below
Main exports: topologicalSort, generationsFrom, TopologicallyOrdered, RoundInvariant,
  RoundInvariant.step, generationsFrom_cases, topologicalSort_spec, topologicalSort_eq_error_iff
-/
import XinimTooling.Networkx.DiGraph
import Mathlib.Data.Fintype.Card

namespace XinimTooling.Networkx

open DiGraph

/-! ### `nx.topological_sort`

`list(nx.topological_sort(G))` lists the generations of Kahn's algorithm: the nodes of
in-degree zero in node order, then the nodes whose count of unlisted predecessors falls to
zero while the previous generation's edges are taken away, and so on.  When nodes remain
with predecessors, the iteration raises `NetworkXUnfeasible` after the last generation.
-/

/-- The exceptions `topological_sort` raises. -/
inductive TopologicalError where
  /-- `NetworkXUnfeasible("Graph contains a cycle or graph changed during iteration")`. -/
  | unfeasible
  /-- `RuntimeError("Graph changed during iteration")`: a node or an in-degree entry is
  missing, which a graph that is not changed meanwhile never causes. -/
  | runtimeError
deriving Repr, DecidableEq

/-- `indegree_map[child] -= 1`, followed by the test for zero: a child whose count falls to
zero is deleted from the map and joins the next generation.  Counts in the map are at least
one, so the subtraction stays in `Nat`. -/
def lowerInDegree (state : PyDict Nat × List String) (child : String) :
    Except TopologicalError (PyDict Nat × List String) :=
  match state.1.get? child with
  | none => throw .runtimeError
  | some degree =>
      if degree - 1 = 0 then pure (state.1.erase child, state.2 ++ [child])
      else pure (state.1.setItem child (degree - 1), state.2)

/-- The body of `for node in this_generation`. -/
def visitNode (graph : DiGraph) (state : PyDict Nat × List String) (node : String) :
    Except TopologicalError (PyDict Nat × List String) :=
  if node ∉ graph.nodes then throw .runtimeError
  else (graph.successors node).foldlM lowerInDegree state

/-- One generation: the in-degree map after its edges are taken away, and the next
generation. -/
def processGeneration (graph : DiGraph) (indegreeMap : PyDict Nat) (generation : List String) :
    Except TopologicalError (PyDict Nat × List String) :=
  generation.foldlM (visitNode graph) (indegreeMap, [])

/-- The size of the map plus the length of the generation being built: what a step of the
loop keeps. -/
def pending (state : PyDict Nat × List String) : Nat := state.1.keys.length + state.2.length

theorem pending_lowerInDegree {state result : PyDict Nat × List String} {child : String}
    (lowered : lowerInDegree state child = .ok result) : pending result = pending state := by
  unfold lowerInDegree at lowered
  split at lowered
  · cases lowered
  · next degree found =>
    have held : child ∈ state.1.keys := (PyDict.mem_keys_iff _ _).mpr (by simp [found])
    split at lowered <;> cases lowered
    · have := PyDict.length_keys_erase held
      simp only [pending, List.length_append, List.length_singleton]
      omega
    · simp only [pending, PyDict.keys_setItem, held, if_true]

theorem pending_foldlM_lowerInDegree :
    ∀ {children : List String} {state result : PyDict Nat × List String},
      children.foldlM lowerInDegree state = .ok result → pending result = pending state
  | [], _, _, done => by cases done; rfl
  | child :: children, state, result, done => by
      rw [List.foldlM_cons] at done
      cases lowered : lowerInDegree state child with
      | error _ => rw [lowered] at done; cases done
      | ok middle =>
        rw [lowered] at done
        exact (pending_foldlM_lowerInDegree done).trans (pending_lowerInDegree lowered)

theorem pending_visitNode {graph : DiGraph} {state result : PyDict Nat × List String}
    {node : String} (visited : visitNode graph state node = .ok result) :
    pending result = pending state := by
  unfold visitNode at visited
  split at visited
  · cases visited
  · exact pending_foldlM_lowerInDegree visited

theorem pending_foldlM_visitNode {graph : DiGraph} :
    ∀ {nodes : List String} {state result : PyDict Nat × List String},
      nodes.foldlM (visitNode graph) state = .ok result → pending result = pending state
  | [], _, _, done => by cases done; rfl
  | node :: nodes, state, result, done => by
      rw [List.foldlM_cons] at done
      cases visited : visitNode graph state node with
      | error _ => rw [visited] at done; cases done
      | ok middle =>
        rw [visited] at done
        exact (pending_foldlM_visitNode done).trans (pending_visitNode visited)

/-- A generation moves as many nodes out of the in-degree map as it puts into the next
generation. -/
theorem processGeneration_pending {graph : DiGraph} {indegreeMap : PyDict Nat}
    {generation : List String} {result : PyDict Nat × List String}
    (processed : processGeneration graph indegreeMap generation = .ok result) :
    pending result = indegreeMap.keys.length :=
  (pending_foldlM_visitNode processed).trans (Nat.add_zero _)

/-- The `while zero_indegree` loop and the final test, listing each generation after the
ones before it.  Each round takes the current generation's nodes out of the count, so the
loop ends. -/
def generationsFrom (graph : DiGraph) (indegreeMap : PyDict Nat) (zeroIndegree : List String) :
    Except TopologicalError (List String) :=
  if zeroIndegree = [] then
    if indegreeMap.keys = [] then pure [] else throw .unfeasible
  else
    match _processed : processGeneration graph indegreeMap zeroIndegree with
    | .error error => throw error
    | .ok (remaining, next) => do
        let later ← generationsFrom graph remaining next
        pure (zeroIndegree ++ later)
termination_by indegreeMap.keys.length + zeroIndegree.length
decreasing_by
  have kept := processGeneration_pending _processed
  have started : zeroIndegree.length ≠ 0 := fun empty =>
    ‹¬zeroIndegree = []› (List.length_eq_zero.mp empty)
  dsimp only [pending] at kept
  omega

/-! ### What a generation does to the counts -/

/-- `indegree_map.get(node, 0)`: the count the map holds for a node. -/
def degreeLeft (indegreeMap : PyDict Nat) (node : String) : Nat := indegreeMap.getD node 0

@[simp] theorem degreeLeft_erase (indegreeMap : PyDict Nat) (key node : String) :
    degreeLeft (indegreeMap.erase key) node =
      if node = key then 0 else degreeLeft indegreeMap node := by
  by_cases same : node = key <;> simp [degreeLeft, PyDict.getD, same]

@[simp] theorem degreeLeft_setItem (indegreeMap : PyDict Nat) (key node : String) (value : Nat) :
    degreeLeft (indegreeMap.setItem key value) node =
      if node = key then value else degreeLeft indegreeMap node := by
  simp [degreeLeft]

/-- Every count in the map is positive: a count that reaches zero leaves it. -/
def Positive (indegreeMap : PyDict Nat) : Prop :=
  ∀ node ∈ indegreeMap.keys, 0 < degreeLeft indegreeMap node

theorem mem_keys_of_degreeLeft_pos {indegreeMap : PyDict Nat} {node : String}
    (pos : 0 < degreeLeft indegreeMap node) : node ∈ indegreeMap.keys := by
  by_contra absent
  simp [degreeLeft, PyDict.getD, PyDict.get?_eq_none_of_not_mem absent] at pos

theorem Positive.setItem {indegreeMap : PyDict Nat} (positive : Positive indegreeMap)
    {key : String} {value : Nat} (pos : 0 < value) : Positive (indegreeMap.setItem key value) := by
  intro node held
  rw [degreeLeft_setItem]
  split
  · exact pos
  · next other =>
    rw [PyDict.keys_setItem] at held
    split at held
    · exact positive node held
    · exact positive node ((List.mem_append.mp held).resolve_right (by simpa using other))

/-- Lowering the counts of the nodes of `lowered`: each count drops by the node's number of
occurrences, and each node whose count reaches zero joins the next generation once. -/
structure Lowers (lowered : List String) (before after : PyDict Nat × List String) :
    Prop where
  positive : Positive after.1
  degreeLeft_eq : ∀ node,
    degreeLeft after.1 node = degreeLeft before.1 node - lowered.count node
  reached : ∃ reached, after.2 = before.2 ++ reached ∧ reached.Nodup ∧
    ∀ node, node ∈ reached ↔ 0 < degreeLeft before.1 node ∧ degreeLeft after.1 node = 0

theorem Lowers.refl {state : PyDict Nat × List String} (positive : Positive state.1) :
    Lowers [] state state :=
  ⟨positive, fun _ => rfl, [], by simp, List.nodup_nil, fun _ => by simp; omega⟩

theorem Lowers.trans {first second : List String} {start middle finish : PyDict Nat × List String}
    (one : Lowers first start middle) (two : Lowers second middle finish)
    (bounded : ∀ node, (first ++ second).count node ≤ degreeLeft start.1 node) :
    Lowers (first ++ second) start finish := by
  obtain ⟨_, oneEq, reachedOne, appendOne, nodupOne, memOne⟩ := one
  obtain ⟨positive, twoEq, reachedTwo, appendTwo, nodupTwo, memTwo⟩ := two
  refine ⟨positive, fun node => ?_, reachedOne ++ reachedTwo,
    by rw [appendTwo, appendOne, List.append_assoc], ?_, fun node => ?_⟩
  · rw [twoEq, oneEq, List.count_append, Nat.sub_sub]
  · refine List.nodup_append.mpr ⟨nodupOne, nodupTwo, fun node inOne inTwo => ?_⟩
    have := (memOne node).mp inOne
    have := (memTwo node).mp inTwo
    omega
  · have := bounded node
    rw [List.count_append] at this
    rw [List.mem_append, memOne, memTwo, twoEq, oneEq]
    omega

/-- The step lemma: lowering a positive count by one. -/
theorem lowerInDegree_lowers {state : PyDict Nat × List String} {child : String}
    (positive : Positive state.1) (held : 0 < degreeLeft state.1 child) :
    ∃ result, lowerInDegree state child = .ok result ∧ Lowers [child] state result := by
  obtain ⟨indegreeMap, next⟩ := state
  dsimp only at positive held ⊢
  have found : indegreeMap.get? child = some (degreeLeft indegreeMap child) := by
    obtain ⟨degree, found⟩ := Option.isSome_iff_exists.mp
      ((PyDict.mem_keys_iff _ _).mp (mem_keys_of_degreeLeft_pos held))
    simp [degreeLeft, PyDict.getD, found]
  unfold lowerInDegree
  simp only [found]
  split
  · next last =>
    refine ⟨_, rfl, fun node mem => ?_, fun node => ?_, [child], rfl, List.nodup_singleton _,
      fun node => ?_⟩
    · rw [PyDict.keys_erase, List.mem_filter] at mem
      have := positive node mem.1
      simp_all
    · by_cases same : node = child
      · subst same; simp; omega
      · simp [same]
    · by_cases same : node = child
      · subst same; simp; omega
      · simp [same]; omega
  · next more =>
    refine ⟨_, rfl, positive.setItem (by omega), fun node => ?_, [], by simp, List.nodup_nil,
      fun node => ?_⟩
    · by_cases same : node = child <;> simp [same]
    · by_cases same : node = child
      · subst same; simp; omega
      · simp [same]; omega

/-- The run lemma of the loop over a node's successors. -/
theorem foldlM_lowerInDegree_lowers :
    ∀ (children : List String) (state : PyDict Nat × List String), Positive state.1 →
      (∀ node, children.count node ≤ degreeLeft state.1 node) →
      ∃ result, children.foldlM lowerInDegree state = .ok result ∧
        Lowers children state result
  | [], state, positive, _ => ⟨state, rfl, .refl positive⟩
  | child :: children, state, positive, bounded => by
      have held : 0 < degreeLeft state.1 child := by
        have := bounded child
        simp only [List.count_cons_self] at this
        omega
      obtain ⟨middle, stepped, one⟩ := lowerInDegree_lowers positive held
      obtain ⟨result, rest, two⟩ := foldlM_lowerInDegree_lowers children middle one.positive
        fun node => by
          have := bounded node
          rw [one.degreeLeft_eq]
          simp only [List.count_cons, List.count_nil] at this ⊢
          omega
      exact ⟨result, by rw [List.foldlM_cons, stepped]; exact rest, one.trans two bounded⟩

/-- The run lemma of the loop over a generation: its nodes' edges are all taken away. -/
theorem foldlM_visitNode_lowers (graph : DiGraph) :
    ∀ (generation : List String) (state : PyDict Nat × List String), Positive state.1 →
      (∀ node ∈ generation, node ∈ graph.nodes) →
      (∀ node, (generation.flatMap graph.successors).count node ≤ degreeLeft state.1 node) →
      ∃ result, generation.foldlM (visitNode graph) state = .ok result ∧
        Lowers (generation.flatMap graph.successors) state result
  | [], state, positive, _, _ => ⟨state, rfl, .refl positive⟩
  | node :: generation, state, positive, inGraph, bounded => by
      rw [List.flatMap_cons] at bounded ⊢
      obtain ⟨middle, visited, one⟩ := foldlM_lowerInDegree_lowers (graph.successors node) state
        positive fun other => by have := bounded other; rw [List.count_append] at this; omega
      obtain ⟨result, rest, two⟩ := foldlM_visitNode_lowers graph generation middle one.positive
        (fun other mem => inGraph other (List.mem_cons_of_mem _ mem)) fun other => by
          have := bounded other
          rw [one.degreeLeft_eq]
          rw [List.count_append] at this
          omega
      refine ⟨result, ?_, one.trans two bounded⟩
      rw [List.foldlM_cons]
      unfold visitNode
      rw [if_neg (not_not.mpr (inGraph node (List.mem_cons_self _ _))), visited]
      exact rest

/-- `G.in_degree()`: each node with its in-degree, in node order. -/
def inDegrees (graph : DiGraph) : List (String × Nat) :=
  graph.nodes.map fun node => (node, graph.inDegree node)

/-- One item of `{v: d for v, d in G.in_degree() if d > 0}`. -/
def keepPositive (indegreeMap : PyDict Nat) (item : String × Nat) : PyDict Nat :=
  if item.2 > 0 then indegreeMap.setItem item.1 item.2 else indegreeMap

/-- `list(nx.topological_sort(G))`. -/
def topologicalSort (graph : DiGraph) : Except TopologicalError (List String) :=
  let indegreeMap := (inDegrees graph).foldl keepPositive PyDict.empty
  let zeroIndegree := ((inDegrees graph).filter fun item => item.2 = 0).map Prod.fst
  generationsFrom graph indegreeMap zeroIndegree

/-! ### The rounds of the `while` loop -/

/-- Each node comes after all its predecessors. -/
def TopologicallyOrdered (graph : DiGraph) (order : List String) : Prop :=
  ∀ before node after, order = before ++ node :: after →
    ∀ predecessor ∈ graph.predecessors node, predecessor ∈ before

/-- A generation whose predecessors are all listed can follow the listed nodes. -/
theorem TopologicallyOrdered.append {graph : DiGraph} {done generation : List String}
    (ordered : TopologicallyOrdered graph done)
    (ready : ∀ node ∈ generation,
      ∀ predecessor ∈ graph.predecessors node, predecessor ∈ done) :
    TopologicallyOrdered graph (done ++ generation) := by
  intro before node after split predecessor mem
  rcases List.append_eq_append_iff.mp split with
    ⟨middle, rfl, rest⟩ | ⟨middle, doneEq, rest⟩
  · exact List.mem_append_left _ (ready node (rest ▸ by simp) predecessor mem)
  · cases middle with
    | nil =>
      simp only [List.append_nil, List.nil_append] at doneEq rest
      exact doneEq ▸ ready node (rest ▸ List.mem_cons_self _ _) predecessor mem
    | cons first middle =>
      obtain ⟨rfl, -⟩ := List.cons.inj rest
      exact ordered before node middle doneEq predecessor mem

theorem countP_mem_cons {first : String} {generation : List String} (fresh : first ∉ generation) :
    ∀ {nodes : List String}, nodes.Nodup →
      nodes.countP (· ∈ first :: generation) =
        (if first ∈ nodes then 1 else 0) + nodes.countP (· ∈ generation)
  | [], _ => by simp
  | node :: nodes, nodup => by
      obtain ⟨notLater, nodup⟩ := List.nodup_cons.mp nodup
      rw [List.countP_cons, List.countP_cons, countP_mem_cons fresh nodup]
      by_cases isFirst : node = first
      · subst isFirst
        simp [fresh, notLater]
        omega
      · by_cases inGeneration : first ∈ nodes <;>
          simp [isFirst, inGeneration, Ne.symm isFirst, Nat.add_assoc]

/-- The edges a generation takes away from a node are those from its predecessors in the
generation. -/
theorem count_flatMap_successors {graph : DiGraph} (formed : graph.WellFormed) (node : String) :
    ∀ {generation : List String}, generation.Nodup →
      (generation.flatMap graph.successors).count node =
        (graph.predecessors node).countP (· ∈ generation)
  | [], _ => by simp
  | first :: generation, nodup => by
      obtain ⟨fresh, nodup⟩ := List.nodup_cons.mp nodup
      rw [List.flatMap_cons, List.count_append, count_flatMap_successors formed node nodup,
        countP_mem_cons fresh (formed.predecessors_nodup node),
        List.count_eq_of_nodup (formed.successors_nodup first)]
      simp only [formed.mem_predecessors]

theorem countP_not_mem_append {done generation : List String}
    (disjoint : ∀ node ∈ generation, node ∉ done) :
    ∀ nodes : List String, nodes.countP (· ∉ done) =
      nodes.countP (· ∈ generation) + nodes.countP (· ∉ done ++ generation)
  | [] => rfl
  | node :: nodes => by
      rw [List.countP_cons, List.countP_cons, List.countP_cons,
        countP_not_mem_append disjoint nodes]
      by_cases inGeneration : node ∈ generation
      · simp [inGeneration, disjoint node inGeneration]
        omega
      · by_cases inDone : node ∈ done <;> simp [inGeneration, inDone, Nat.add_assoc]

/-- What holds at the top of each round of the `while` loop, `done` being the generations
already listed and `generation` the one about to be: the map counts, for every node not
listed yet, its predecessors not listed yet. -/
structure RoundInvariant (graph : DiGraph) (done generation : List String)
    (indegreeMap : PyDict Nat) : Prop where
  positive : Positive indegreeMap
  nodup : (done ++ generation).Nodup
  listed_nodes : ∀ node ∈ done ++ generation, node ∈ graph.nodes
  degreeLeft_listed : ∀ node ∈ done ++ generation, degreeLeft indegreeMap node = 0
  degreeLeft_unlisted : ∀ node, node ∉ done ++ generation →
    degreeLeft indegreeMap node = (graph.predecessors node).countP (· ∉ done)
  waiting : ∀ node ∈ graph.nodes, node ∉ done ++ generation →
    0 < degreeLeft indegreeMap node
  ready : ∀ node ∈ generation, ∀ predecessor ∈ graph.predecessors node, predecessor ∈ done
  ordered : TopologicallyOrdered graph done

/-- A listed node has no predecessor in the generation. -/
theorem RoundInvariant.countP_listed {graph : DiGraph} {done generation : List String}
    {indegreeMap : PyDict Nat} (invariant : RoundInvariant graph done generation indegreeMap)
    {node : String} (listed : node ∈ done ++ generation) :
    (graph.predecessors node).countP (· ∈ generation) = 0 := by
  have disjoint := (List.nodup_append.mp invariant.nodup).2.2
  refine List.countP_eq_zero.mpr fun predecessor mem inGeneration => ?_
  rcases List.mem_append.mp listed with inDone | inGeneration'
  · obtain ⟨before, after, rfl⟩ := List.append_of_mem inDone
    exact disjoint
      (List.mem_append_left _ (invariant.ordered before node after rfl predecessor mem))
      (by simpa using inGeneration)
  · exact disjoint (invariant.ready node inGeneration' predecessor mem)
      (by simpa using inGeneration)

theorem RoundInvariant.not_mem_done {graph : DiGraph} {done generation : List String}
    {indegreeMap : PyDict Nat} (invariant : RoundInvariant graph done generation indegreeMap)
    {node : String} (inGeneration : node ∈ generation) : node ∉ done :=
  fun inDone => (List.nodup_append.mp invariant.nodup).2.2 inDone inGeneration

/-- The generation takes away no more edges from a node than its count. -/
theorem RoundInvariant.count_le {graph : DiGraph} (formed : graph.WellFormed)
    {done generation : List String} {indegreeMap : PyDict Nat}
    (invariant : RoundInvariant graph done generation indegreeMap) (node : String) :
    (generation.flatMap graph.successors).count node ≤ degreeLeft indegreeMap node := by
  rw [count_flatMap_successors formed node (List.nodup_append.mp invariant.nodup).2.1]
  by_cases listed : node ∈ done ++ generation
  · rw [invariant.countP_listed listed]
    exact Nat.zero_le _
  · rw [invariant.degreeLeft_unlisted node listed]
    exact List.countP_mono_left fun _ _ inGeneration => by
      simpa using invariant.not_mem_done (by simpa using inGeneration)

/-- Taking the generation's edges away keeps the invariant, with the generation listed and
the nodes whose count fell to zero as the next one. -/
theorem RoundInvariant.lowers {graph : DiGraph} (formed : graph.WellFormed)
    {done generation : List String} {indegreeMap remaining : PyDict Nat} {next : List String}
    (invariant : RoundInvariant graph done generation indegreeMap)
    (lowers : Lowers (generation.flatMap graph.successors) (indegreeMap, []) (remaining, next)) :
    RoundInvariant graph (done ++ generation) next remaining := by
  obtain ⟨positive, degreeEq, reached, nextEq, nodupReached, memReached⟩ := lowers
  dsimp only [List.nil_append] at positive degreeEq memReached nextEq
  subst nextEq
  have counts : ∀ node, node ∉ done ++ generation →
      degreeLeft remaining node = (graph.predecessors node).countP (· ∉ done ++ generation) := by
    intro node unlisted
    rw [degreeEq, count_flatMap_successors formed node (List.nodup_append.mp invariant.nodup).2.1,
      invariant.degreeLeft_unlisted node unlisted,
      countP_not_mem_append fun _ => invariant.not_mem_done]
    omega
  have unlisted : ∀ node ∈ next, node ∉ done ++ generation := fun node mem listed => by
    have := ((memReached node).mp mem).1
    rw [invariant.degreeLeft_listed node listed] at this
    exact Nat.lt_irrefl 0 this
  refine ⟨positive, List.nodup_append.mpr ⟨invariant.nodup, nodupReached,
    fun node listed mem => unlisted node mem listed⟩, fun node mem => ?listed,
    fun node mem => ?zero,
    fun node notListed => counts node (notListed <| List.mem_append_left _ ·),
    fun node inGraph notListed => ?waiting, fun node mem predecessor isPredecessor => ?ready,
    invariant.ordered.append invariant.ready⟩
  case listed =>
    rcases List.mem_append.mp mem with listed | inReached
    · exact invariant.listed_nodes node listed
    · have positiveCount := ((memReached node).mp inReached).1
      rw [invariant.degreeLeft_unlisted node (unlisted node inReached)] at positiveCount
      obtain ⟨_, isPredecessor, _⟩ := List.countP_pos_iff.mp positiveCount
      exact (formed.edge_nodes _ _ ((formed.mem_predecessors _ _).mp isPredecessor)).2
  case zero =>
    rcases List.mem_append.mp mem with listed | inReached
    · have := invariant.degreeLeft_listed node listed
      rw [degreeEq]
      omega
    · exact ((memReached node).mp inReached).2
  case waiting =>
    have := invariant.waiting node inGraph (notListed <| List.mem_append_left _ ·)
    by_contra zero
    exact notListed (List.mem_append_right _ ((memReached node).mpr ⟨this, by omega⟩))
  case ready =>
    have zero := ((memReached node).mp mem).2
    rw [counts node (unlisted node mem)] at zero
    by_contra notListed
    exact List.countP_eq_zero.mp zero predecessor isPredecessor (by simpa using notListed)

/-- The step lemma of the loop: a round never raises, and it keeps the invariant. -/
theorem RoundInvariant.step {graph : DiGraph} (formed : graph.WellFormed)
    {done generation : List String} {indegreeMap : PyDict Nat}
    (invariant : RoundInvariant graph done generation indegreeMap) :
    ∃ result, processGeneration graph indegreeMap generation = .ok result ∧
      RoundInvariant graph (done ++ generation) result.2 result.1 := by
  obtain ⟨⟨remaining, next⟩, processed, lowers⟩ := foldlM_visitNode_lowers graph generation
    (indegreeMap, []) invariant.positive
    (fun node mem => invariant.listed_nodes node (List.mem_append_right _ mem))
    (invariant.count_le formed)
  exact ⟨(remaining, next), processed, invariant.lowers formed lowers⟩

/-! ### The end of the loop -/

/-- When every node of a nonempty list has a predecessor in the list, the graph has a
cycle: going back along predecessors inside a finite list must come round. -/
theorem exists_cycle_of_forall_predecessor {graph : DiGraph} {stuck : List String}
    {start : String} (started : start ∈ stuck)
    (every : ∀ node ∈ stuck, ∃ predecessor ∈ stuck, graph.Edge predecessor node) :
    ∃ node, Relation.TransGen graph.Edge node node := by
  by_contra acyclic
  push_neg at acyclic
  let Reaches : stuck.toFinset → stuck.toFinset → Prop :=
    fun first second => Relation.TransGen graph.Edge first second
  have : IsTrans _ Reaches := ⟨fun _ _ _ one two => one.trans two⟩
  have : IsIrrefl _ Reaches := ⟨fun node => acyclic node⟩
  obtain ⟨least, -, minimal⟩ := (Finite.wellFounded_of_trans_of_irrefl Reaches).has_min
    Set.univ ⟨⟨start, List.mem_toFinset.mpr started⟩, trivial⟩
  obtain ⟨predecessor, mem, edge⟩ := every least (List.mem_toFinset.mp least.2)
  exact minimal ⟨predecessor, List.mem_toFinset.mpr mem⟩ trivial (.single edge)

/-- With no generation left and an empty map, every node is listed. -/
theorem RoundInvariant.perm_nodes {graph : DiGraph} {done : List String}
    {indegreeMap : PyDict Nat} (invariant : RoundInvariant graph done [] indegreeMap)
    (finished : indegreeMap.keys = []) : done.Perm graph.nodes := by
  have listed := invariant.listed_nodes
  have waiting := invariant.waiting
  rw [List.append_nil] at listed waiting
  refine (List.perm_ext_iff_of_nodup (by simpa using invariant.nodup) graph.succ.keys_nodup).mpr
    fun node => ⟨listed node, fun inGraph => ?_⟩
  by_contra unlisted
  have held := mem_keys_of_degreeLeft_pos (waiting node inGraph unlisted)
  rw [finished] at held
  exact List.not_mem_nil _ held

/-- With no generation left and nodes still counted, each counted node has a counted
predecessor, so the graph has a cycle. -/
theorem RoundInvariant.exists_cycle {graph : DiGraph} (formed : graph.WellFormed)
    {done : List String} {indegreeMap : PyDict Nat}
    (invariant : RoundInvariant graph done [] indegreeMap) (stuck : indegreeMap.keys ≠ []) :
    ∃ node, Relation.TransGen graph.Edge node node := by
  obtain ⟨start, started⟩ := List.exists_mem_of_ne_nil _ stuck
  refine exists_cycle_of_forall_predecessor started fun node counted => ?_
  have positive := invariant.positive node counted
  have unlisted : node ∉ done ++ [] := fun listed => by
    rw [invariant.degreeLeft_listed node listed] at positive
    exact Nat.lt_irrefl 0 positive
  rw [invariant.degreeLeft_unlisted node unlisted] at positive
  obtain ⟨predecessor, isPredecessor, notDone⟩ := List.countP_pos_iff.mp positive
  have edge := (formed.mem_predecessors _ _).mp isPredecessor
  exact ⟨predecessor, mem_keys_of_degreeLeft_pos (invariant.waiting predecessor
    (formed.edge_nodes _ _ edge).1 (by simpa using notDone)), edge⟩

/-- The run lemma of the loop: from a round that keeps the invariant, the loop either lists
the nodes not listed yet, so that all are listed in topological order, or raises
`NetworkXUnfeasible`, and then the graph has a cycle. -/
theorem generationsFrom_cases {graph : DiGraph} (formed : graph.WellFormed)
    {done generation : List String} {indegreeMap : PyDict Nat}
    (invariant : RoundInvariant graph done generation indegreeMap) :
    (∃ later, generationsFrom graph indegreeMap generation = .ok later ∧
        (done ++ later).Perm graph.nodes ∧ TopologicallyOrdered graph (done ++ later)) ∨
      (generationsFrom graph indegreeMap generation = .error .unfeasible ∧
        ∃ node, Relation.TransGen graph.Edge node node) := by
  rw [generationsFrom]
  split
  · next empty =>
    subst empty
    split
    · next finished =>
      exact .inl ⟨[], rfl, by simpa using invariant.perm_nodes finished,
        by simpa using invariant.ordered⟩
    · next stuck => exact .inr ⟨rfl, invariant.exists_cycle formed stuck⟩
  · next started =>
    obtain ⟨result, processed, next⟩ := invariant.step formed
    have shrinks := processGeneration_pending processed
    have nonempty : generation.length ≠ 0 := fun zero => started (List.length_eq_zero.mp zero)
    split
    · next failed => rw [processed] at failed; cases failed
    · next remaining later processedEq =>
      rw [processed] at processedEq
      cases processedEq
      rcases generationsFrom_cases formed next with
        ⟨rest, listed, perm, ordered⟩ | ⟨raised, cycle⟩
      · rw [List.append_assoc] at perm ordered
        exact .inl ⟨generation ++ rest, by rw [listed]; rfl, perm, ordered⟩
      · exact .inr ⟨by rw [raised]; rfl, cycle⟩
termination_by indegreeMap.keys.length + generation.length
decreasing_by
  dsimp only [pending] at shrinks
  omega

/-! ### The first round -/

/-- The count `{v: d for v, d in G.in_degree() if d > 0}` holds for a node. -/
theorem degreeLeft_foldl_keepPositive (graph : DiGraph) (node : String) :
    ∀ (nodes : List String) (indegreeMap : PyDict Nat),
      degreeLeft ((nodes.map fun node => (node, graph.inDegree node)).foldl keepPositive
          indegreeMap) node =
        if node ∈ nodes ∧ 0 < graph.inDegree node then graph.inDegree node
        else degreeLeft indegreeMap node
  | [], _ => by simp
  | first :: nodes, indegreeMap => by
      rw [List.map_cons, List.foldl_cons, degreeLeft_foldl_keepPositive graph node nodes]
      by_cases same : node = first
      · subst same
        by_cases positive : 0 < graph.inDegree node <;> simp [keepPositive, positive]
      · by_cases positive : 0 < graph.inDegree first <;> simp [keepPositive, positive, same]

theorem Positive.foldl_keepPositive :
    ∀ (items : List (String × Nat)) {indegreeMap : PyDict Nat}, Positive indegreeMap →
      Positive (items.foldl keepPositive indegreeMap)
  | [], _, positive => positive
  | item :: items, indegreeMap, positive => by
      refine Positive.foldl_keepPositive items ?_
      unfold keepPositive
      split
      · next pos => exact positive.setItem pos
      · exact positive

/-- A node that is not in a graph built by `add_edge` has no predecessors. -/
theorem predecessors_eq_nil_of_not_mem {graph : DiGraph} (formed : graph.WellFormed)
    {node : String} (absent : node ∉ graph.nodes) : graph.predecessors node = [] :=
  List.eq_nil_iff_forall_not_mem.mpr fun _ isPredecessor =>
    absent (formed.edge_nodes _ _ ((formed.mem_predecessors _ _).mp isPredecessor)).2

theorem TopologicallyOrdered.nil (graph : DiGraph) : TopologicallyOrdered graph [] :=
  fun _ _ _ split => absurd split.symm (by simp)

/-- The first round: no node listed, the nodes of in-degree zero as the generation, and the
in-degrees of the others in the map. -/
theorem roundInvariant_start {graph : DiGraph} (formed : graph.WellFormed) :
    RoundInvariant graph []
      (((inDegrees graph).filter fun item => item.2 = 0).map Prod.fst)
      ((inDegrees graph).foldl keepPositive PyDict.empty) := by
  have zeroEq : ((inDegrees graph).filter fun item => item.2 = 0).map Prod.fst =
      graph.nodes.filter fun node => graph.inDegree node = 0 := by
    simp [inDegrees, List.filter_map, Function.comp_def]
  have degreeEq : ∀ node, degreeLeft ((inDegrees graph).foldl keepPositive PyDict.empty) node =
      (graph.predecessors node).countP (· ∉ []) := fun node => by
    rw [inDegrees, degreeLeft_foldl_keepPositive]
    by_cases inGraph : node ∈ graph.nodes
    · by_cases zero : graph.inDegree node = 0 <;>
        simp_all [Nat.pos_iff_ne_zero, degreeLeft, PyDict.getD, inDegree]
    · simp [inGraph, degreeLeft, PyDict.getD, predecessors_eq_nil_of_not_mem formed inGraph]
  have listedIff : ∀ node, node ∈ [] ++ graph.nodes.filter (graph.inDegree · = 0) ↔
      node ∈ graph.nodes ∧ graph.predecessors node = [] := fun node => by simp [inDegree]
  rw [zeroEq]
  refine ⟨Positive.foldl_keepPositive _ fun _ held => by simp at held,
    graph.succ.keys_nodup.filter _, fun node listed => ?_, fun node listed => ?_,
    fun node _ => degreeEq node, fun node inGraph unlisted => ?_, fun node listed => ?_,
    TopologicallyOrdered.nil graph⟩
  · exact ((listedIff node).mp listed).1
  · simp [degreeEq, ((listedIff node).mp listed).2]
  · simpa [degreeEq, List.length_pos] using
      fun empty => unlisted ((listedIff node).mpr ⟨inGraph, empty⟩)
  · simp [((listedIff node).mp (List.mem_append_right _ listed)).2]

/-! ### What `topological_sort` returns -/

/-- A node reaching another along edges stands before it in a topological order. -/
theorem TopologicallyOrdered.mem_before_of_transGen {graph : DiGraph} {order : List String}
    (formed : graph.WellFormed) (ordered : TopologicallyOrdered graph order)
    {source target : String} (path : Relation.TransGen graph.Edge source target) :
    ∀ {before after}, order = before ++ target :: after → source ∈ before := by
  induction path with
  | single edge =>
    exact fun split => ordered _ _ _ split _ ((formed.mem_predecessors _ _).mpr edge)
  | tail _ edge earlier =>
    intro before after split
    obtain ⟨front, back, rfl⟩ :=
      List.append_of_mem (ordered _ _ _ split _ ((formed.mem_predecessors _ _).mpr edge))
    exact List.mem_append_left _ (earlier (by rw [split, List.append_assoc]; rfl))

/-- No cycle passes through a node that a topological order without repeats lists. -/
theorem TopologicallyOrdered.not_transGen_self {graph : DiGraph} {order : List String}
    (formed : graph.WellFormed) (ordered : TopologicallyOrdered graph order)
    (nodup : order.Nodup) {node : String} (listed : node ∈ order) :
    ¬Relation.TransGen graph.Edge node node := fun cycle => by
  obtain ⟨before, after, split⟩ := List.append_of_mem listed
  have early := ordered.mem_before_of_transGen formed cycle split
  rw [split] at nodup
  exact (List.nodup_append.mp nodup).2.2 early (List.mem_cons_self _ _)

/-- Kahn's algorithm on a graph built by `add_edge`: `topological_sort` lists every node once,
each after its predecessors, or raises `NetworkXUnfeasible` on a graph with a cycle. -/
theorem topologicalSort_spec {graph : DiGraph} (formed : graph.WellFormed) :
    (∃ order, topologicalSort graph = .ok order ∧ order.Perm graph.nodes ∧
        TopologicallyOrdered graph order) ∨
      (topologicalSort graph = .error .unfeasible ∧
        ∃ node, Relation.TransGen graph.Edge node node) := by
  simpa using generationsFrom_cases formed (roundInvariant_start formed)

/-- `topological_sort` raises `NetworkXUnfeasible` exactly on a graph with a cycle, and
raises nothing else. -/
theorem topologicalSort_eq_error_iff {graph : DiGraph} (formed : graph.WellFormed)
    (error : TopologicalError) :
    topologicalSort graph = .error error ↔
      error = .unfeasible ∧ ∃ node, Relation.TransGen graph.Edge node node := by
  rcases topologicalSort_spec formed with ⟨order, sorted, perm, ordered⟩ | ⟨raised, cycle⟩
  · refine ⟨fun raised => (by rw [sorted] at raised; cases raised), ?_⟩
    rintro ⟨-, node, cycle⟩
    obtain ⟨_, -, edge⟩ := Relation.TransGen.tail'_iff.mp cycle
    exact absurd cycle (ordered.not_transGen_self formed
      (perm.nodup_iff.mpr graph.succ.keys_nodup) (perm.mem_iff.mpr (formed.edge_nodes _ _ edge).2))
  · rw [raised]
    exact ⟨fun same => ⟨by cases same; rfl, cycle⟩, fun ⟨same, _⟩ => by rw [same]⟩

end XinimTooling.Networkx
