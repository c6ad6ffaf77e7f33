/-
Module: XinimTooling.Networkx.DiGraph
Purpose: The part of `networkx.DiGraph` that `tools/migration_dashboard.py` uses: nodes in
  insertion order, `add_edge`, successors, predecessors and in-degrees; and the shape that
  every graph built by `add_edge` has.
Trusted boundary: networkx's `DiGraph`, whose adjacency is a dict of dicts kept in insertion
  order
Main exports: DiGraph, DiGraph.addEdge, DiGraph.successors, DiGraph.predecessors,
  DiGraph.inDegree, DiGraph.Edge, DiGraph.WellFormed, DiGraph.WellFormed.addEdge
-/
import XinimTooling.Python.Dict

namespace XinimTooling.Networkx

/-- A `networkx.DiGraph` on strings: `G._succ` and `G._pred`, each a dict from every node,
in the order nodes were added, to its successors or predecessors in the order the edges
were added.  An inner dict of edge attributes is represented by its keys. -/
structure DiGraph where
  succ : PyDict (List String)
  pred : PyDict (List String)

namespace DiGraph

/-- `nx.DiGraph()`. -/
def empty : DiGraph := ⟨.empty, .empty⟩

/-- `list(G)`: the nodes in the order they were added. -/
def nodes (graph : DiGraph) : List String := graph.succ.keys

/-- `G.neighbors(node)`, the successors in the order their edges were added. -/
def successors (graph : DiGraph) (node : String) : List String := graph.succ.getD node []

/-- `G.predecessors(node)`. -/
def predecessors (graph : DiGraph) (node : String) : List String := graph.pred.getD node []

/-- `G.in_degree(node)` for a node of the graph. -/
def inDegree (graph : DiGraph) (node : String) : Nat := (graph.predecessors node).length

/-- An edge `u → v`. -/
def Edge (graph : DiGraph) (u v : String) : Prop := v ∈ graph.successors u

/-- The keys of an inner dict after `d[key] = ...`: a new key is appended. -/
def appendNew (key : String) (keys : List String) : List String :=
  if key ∈ keys then keys else keys ++ [key]

/-- The first lines of `add_edge`: a node not yet in the graph is added with no
neighbours. -/
def addNode (graph : DiGraph) (node : String) : DiGraph :=
  if node ∈ graph.succ.keys then graph
  else ⟨graph.succ.setItem node [], graph.pred.setItem node []⟩

/-- `G.add_edge(u, v)`: both nodes added if new, then `G._succ[u][v]` and `G._pred[v][u]`
set. -/
def addEdge (graph : DiGraph) (u v : String) : DiGraph :=
  let graph := (graph.addNode u).addNode v
  ⟨graph.succ.modify u [] (appendNew v), graph.pred.modify v [] (appendNew u)⟩

theorem mem_appendNew {key other : String} {keys : List String} :
    other ∈ appendNew key keys ↔ other ∈ keys ∨ other = key := by
  unfold appendNew
  split
  · next held => exact ⟨.inl, fun | .inl mem => mem | .inr rfl => held⟩
  · simp

theorem nodup_appendNew {key : String} {keys : List String} (nodup : keys.Nodup) :
    (appendNew key keys).Nodup := by
  unfold appendNew
  split
  · exact nodup
  · next fresh => exact nodup.append (List.nodup_singleton key) (by simpa using fresh)

/-! ### What `add_edge` changes -/

@[simp] theorem nodes_addNode (graph : DiGraph) (node : String) :
    (graph.addNode node).nodes = appendNew node graph.nodes := by
  unfold addNode nodes appendNew
  split
  · next held => simp [held]
  · next fresh => simp [PyDict.keys_setItem, fresh]

/-- A node added on its own has no neighbours, which is what a missing node reads as. -/
@[simp] theorem successors_addNode (graph : DiGraph) (node : String) :
    (graph.addNode node).successors = graph.successors := by
  funext query
  unfold addNode successors
  split
  · rfl
  · next fresh =>
    by_cases same : query = node
    · subst same
      simp [PyDict.getD, PyDict.get?_eq_none_of_not_mem fresh]
    · simp [same]

/-- A node's in-dict is created with its out-dict, so a node new to the one is new to the
other. -/
@[simp] theorem predecessors_addNode (graph : DiGraph) (node : String)
    (absentBoth : node ∉ graph.succ.keys → node ∉ graph.pred.keys) :
    (graph.addNode node).predecessors = graph.predecessors := by
  funext query
  unfold addNode predecessors
  split
  · rfl
  · next fresh =>
    by_cases same : query = node
    · subst same
      simp [PyDict.getD, PyDict.get?_eq_none_of_not_mem (absentBoth fresh)]
    · simp [same]

theorem pred_keys_addNode (graph : DiGraph) (node : String)
    (keysEq : graph.pred.keys = graph.succ.keys) :
    (graph.addNode node).pred.keys = (graph.addNode node).succ.keys := by
  unfold addNode
  split
  · exact keysEq
  · simp only [PyDict.keys_setItem, keysEq]

@[simp] theorem nodes_addEdge (graph : DiGraph) (u v : String) :
    (graph.addEdge u v).nodes = appendNew v (appendNew u graph.nodes) := by
  have held : u ∈ ((graph.addNode u).addNode v).succ.keys := by
    show u ∈ ((graph.addNode u).addNode v).nodes
    simp [mem_appendNew]
  simp only [addEdge, nodes, PyDict.keys_modify, held, if_true]
  show ((graph.addNode u).addNode v).nodes = appendNew v (appendNew u graph.nodes)
  simp only [nodes_addNode]

theorem successors_addEdge (graph : DiGraph) (u v w : String) :
    (graph.addEdge u v).successors w =
      if w = u then appendNew v (graph.successors u) else graph.successors w := by
  have kept : ((graph.addNode u).addNode v).successors = graph.successors := by simp
  simp only [addEdge, successors, PyDict.getD_modify]
  split
  · exact congrArg (appendNew v) (congrFun kept u)
  · exact congrFun kept w

theorem predecessors_addEdge (graph : DiGraph) (u v w : String)
    (keysEq : graph.pred.keys = graph.succ.keys) :
    (graph.addEdge u v).predecessors w =
      if w = v then appendNew u (graph.predecessors v) else graph.predecessors w := by
  have fresh : ∀ node (g : DiGraph), g.pred.keys = g.succ.keys →
      node ∉ g.succ.keys → node ∉ g.pred.keys := fun _ _ same absent => same ▸ absent
  have first := predecessors_addNode graph u (fresh u graph keysEq)
  have second := predecessors_addNode (graph.addNode u) v
    (fresh v _ (pred_keys_addNode graph u keysEq))
  rw [first] at second
  simp only [addEdge, predecessors, PyDict.getD_modify]
  split
  · exact congrArg (appendNew u) (congrFun second v)
  · exact congrFun second w

theorem mem_nodes_addEdge {graph : DiGraph} {u v node : String} :
    node ∈ (graph.addEdge u v).nodes ↔ node ∈ graph.nodes ∨ node = u ∨ node = v := by
  simp only [nodes_addEdge, mem_appendNew, or_assoc]

theorem edge_addEdge {graph : DiGraph} {u v first second : String} :
    (graph.addEdge u v).Edge first second ↔
      graph.Edge first second ∨ first = u ∧ second = v := by
  unfold Edge
  rw [successors_addEdge]
  by_cases isU : first = u
  · subst isU
    simp [mem_appendNew]
  · simp [isU]

/-- The shape of every graph that `add_edge` builds from the empty graph: the two dicts have
the same nodes, no neighbour is listed twice, and each edge is recorded at both ends, whose
nodes are in the graph. -/
structure WellFormed (graph : DiGraph) : Prop where
  keys_eq : graph.pred.keys = graph.succ.keys
  successors_nodup : ∀ node, (graph.successors node).Nodup
  predecessors_nodup : ∀ node, (graph.predecessors node).Nodup
  mem_predecessors : ∀ u v, u ∈ graph.predecessors v ↔ v ∈ graph.successors u
  edge_nodes : ∀ u v, v ∈ graph.successors u → u ∈ graph.nodes ∧ v ∈ graph.nodes

theorem wellFormed_empty : empty.WellFormed where
  keys_eq := rfl
  successors_nodup _ := List.nodup_nil
  predecessors_nodup _ := List.nodup_nil
  mem_predecessors _ _ := by simp [empty, successors, predecessors, PyDict.getD]
  edge_nodes _ _ mem := by simp [empty, successors, PyDict.getD] at mem

/-- `add_edge` keeps the shape. -/
theorem WellFormed.addEdge {graph : DiGraph} (formed : graph.WellFormed) (u v : String) :
    (graph.addEdge u v).WellFormed where
  keys_eq := by
    have keysEq := pred_keys_addNode _ v (pred_keys_addNode _ u formed.keys_eq)
    have heldU : u ∈ ((graph.addNode u).addNode v).succ.keys := by
      show u ∈ ((graph.addNode u).addNode v).nodes
      simp [mem_appendNew]
    have heldV : v ∈ ((graph.addNode u).addNode v).pred.keys := by
      rw [keysEq]
      show v ∈ ((graph.addNode u).addNode v).nodes
      simp [mem_appendNew]
    simp only [DiGraph.addEdge, PyDict.keys_modify, heldU, heldV, if_true]
    exact keysEq
  successors_nodup w := by
    rw [successors_addEdge]
    split
    · exact nodup_appendNew (formed.successors_nodup u)
    · exact formed.successors_nodup w
  predecessors_nodup w := by
    rw [predecessors_addEdge _ _ _ _ formed.keys_eq]
    split
    · exact nodup_appendNew (formed.predecessors_nodup v)
    · exact formed.predecessors_nodup w
  mem_predecessors first second := by
    rw [predecessors_addEdge _ _ _ _ formed.keys_eq, successors_addEdge]
    by_cases isV : second = v <;> by_cases isU : first = u <;>
      simp [isV, isU, mem_appendNew, formed.mem_predecessors]
  edge_nodes first second mem := by
    simp only [mem_nodes_addEdge]
    rcases edge_addEdge.mp mem with old | ⟨rfl, rfl⟩
    · exact ⟨.inl (formed.edge_nodes _ _ old).1, .inl (formed.edge_nodes _ _ old).2⟩
    · exact ⟨.inr (.inl rfl), .inr (.inr rfl)⟩

end DiGraph

end XinimTooling.Networkx
