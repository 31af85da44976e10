import PathAudit.Proofs.Graph.StalePlans

/-! One edge per pair. Importing edges, adding and removing single ones and applying plans, prepared
for the graph at hand or for another, never leaves two edges between the same functions. The lists
of a graph's nodes agree on every graph; that a graph is rebuilt from its own edges as it was rests
on this uniqueness. -/
namespace PathAudit

namespace CallGraph

section Nodes
variable (g : CallGraph)

theorem nodes_eq_firstMentions :
    g.nodes = firstMentions (g.edges.flatMap fun e => [e.caller, e.callee]) := by
  rw [firstMentions, List.foldl_flatMap]
  rfl

theorem nodup_nodes : g.nodes.Nodup := by
  rw [nodes_eq_firstMentions]
  exact nodup_firstMentions _

theorem mem_nodes (f : FunctionId) : f ∈ g.nodes ↔ g.contains f = true := by
  rw [nodes_eq_firstMentions, mem_firstMentions, contains, List.mem_flatMap, List.any_eq_true]
  simp only [List.mem_cons, List.not_mem_nil, or_false, Bool.or_eq_true, beq_iff_eq,
    eq_comm (a := f)]

theorem mem_sortedNodes (f : FunctionId) : f ∈ g.sortedNodes ↔ g.contains f = true := by
  rw [sortedNodes, mem_keys_sortMembers, List.map_map, ← mem_nodes]
  simp

end Nodes

theorem addEdge?_eq_some_iff (g : CallGraph) (e : CallEdge) (next : CallGraph) :
    g.addEdge? e = some next ↔ e.pair ∉ g.pairs ∧ next = ⟨g.edges ++ [e]⟩ := by
  have linked : g.hasEdge e.caller e.callee = true ↔ e.pair ∈ g.pairs := hasEdge_iff g _ _
  rw [addEdge?]
  split
  next held => simp [linked.mp held]
  next free => simp [mt linked.mpr free, eq_comm]

/-- One change of a graph. A plan may be any, whatever graph it was prepared for. -/
inductive Edit where
  | add (edge : CallEdge)
  | remove (pairs : List (FunctionId × FunctionId))
  | extend (plan : ExtendPlan)
  | compress (plan : CompressPlan)

def carryOut (g : CallGraph) : Edit → CallGraph
  | .add edge => (g.addEdge? edge).getD g
  | .remove pairs => g.removeEdges pairs
  | .extend plan => plan.leaves g
  | .compress plan => plan.leaves g

section Unique
variable {g : CallGraph}

theorem nodup_addEdge? (unique : g.pairs.Nodup) {e : CallEdge} {next : CallGraph}
    (added : g.addEdge? e = some next) : next.pairs.Nodup := by
  obtain ⟨absent, rfl⟩ := (addEdge?_eq_some_iff g e next).mp added
  rw [pairs, List.map_append]
  refine List.Nodup.append unique (List.nodup_singleton _) ?_
  rw [List.map_singleton, List.disjoint_singleton]
  exact absent

theorem nodup_removeEdges (unique : g.pairs.Nodup) (listed : List (FunctionId × FunctionId)) :
    (g.removeEdges listed).pairs.Nodup := by
  have kept : (g.removeEdges listed).edges.Sublist g.edges := by
    rw [edges_removeEdges]
    exact List.filter_sublist
  exact unique.sublist (kept.map CallEdge.pair)

theorem nodup_addUntilRefused (unique : g.pairs.Nodup) (news : List CallEdge) :
    (g.addUntilRefused news).pairs.Nodup := by
  induction news generalizing g with
  | nil => exact unique
  | cons e news ih =>
    rw [addUntilRefused]
    split
    next next added => exact ih (nodup_addEdge? unique added)
    next => exact unique

theorem nodup_extend (unique : g.pairs.Nodup) (plan : ExtendPlan) :
    (plan.leaves g).pairs.Nodup := by
  unfold ExtendPlan.leaves
  split
  next => exact unique
  next => exact nodup_addUntilRefused unique plan.newEdges

theorem nodup_compress (unique : g.pairs.Nodup) (plan : CompressPlan) :
    (plan.leaves g).pairs.Nodup := by
  unfold CompressPlan.leaves CompressPlan.apply
  cases added : (g.removeEdges plan.removed).addEdge? plan.replacement with
  | none => exact unique
  | some next => exact nodup_addEdge? (nodup_removeEdges unique plan.removed) added

theorem nodup_carryOut (unique : g.pairs.Nodup) (edit : Edit) :
    (g.carryOut edit).pairs.Nodup := by
  cases edit with
  | add edge =>
    rw [carryOut]
    cases added : g.addEdge? edge with
    | none => exact unique
    | some next => exact nodup_addEdge? unique added
  | remove listed => exact nodup_removeEdges unique listed
  | extend plan => exact nodup_extend unique plan
  | compress plan => exact nodup_compress unique plan

theorem nodup_edits (unique : g.pairs.Nodup) (edits : List Edit) :
    (edits.foldl carryOut g).pairs.Nodup := by
  induction edits generalizing g with
  | nil => exact unique
  | cons edit edits ih =>
    rw [List.foldl_cons]
    exact ih (nodup_carryOut unique edit)

end Unique

theorem ofEdges_eq_edits (imported : List CallEdge) :
    ofEdges imported = (imported.map .add).foldl carryOut empty := by
  rw [List.foldl_map, ofEdges]
  congr 1
  funext g e
  rw [carryOut, addEdge?]
  split
  next => rfl
  next => rfl

theorem edits_add_of_nodup (g : CallGraph) (news : List CallEdge)
    (distinct : ((g.edges ++ news).map CallEdge.pair).Nodup) :
    (news.map .add).foldl carryOut g = ⟨g.edges ++ news⟩ := by
  induction news generalizing g with
  | nil => simp
  | cons e news ih =>
    have absent : e.pair ∉ g.pairs := by
      rw [List.map_append, List.map_cons] at distinct
      exact fun linked => List.disjoint_of_nodup_append distinct linked List.mem_cons_self
    rw [List.map_cons, List.foldl_cons, carryOut, addEdge?_of_absent g e absent, Option.getD_some]
    rw [ih ⟨g.edges ++ [e]⟩ (by simpa using distinct)]
    simp

theorem ofEdges_edges {g : CallGraph} (unique : g.pairs.Nodup) : ofEdges g.edges = g := by
  rw [ofEdges_eq_edits, edits_add_of_nodup empty g.edges unique]
  rfl

/-- Whatever is imported and whatever is done to the graph afterwards: no pair has two edges, the
graph's nodes are the same however they are listed, each of them listed once, and the graph can be
built again from its edges. -/
theorem edits_keep_edges_unique (imported : List CallEdge) (edits : List Edit) :
    let g := edits.foldl carryOut (ofEdges imported)
    g.pairs.Nodup ∧ g.nodes.Nodup ∧
      (∀ f, (f ∈ g.nodes ↔ g.contains f = true) ∧ (f ∈ g.sortedNodes ↔ g.contains f = true)) ∧
      ofEdges g.edges = g := by
  intro g
  have unique : g.pairs.Nodup := by
    apply nodup_edits
    rw [ofEdges_eq_edits]
    exact nodup_edits (g := empty) List.nodup_nil _
  exact ⟨unique, g.nodup_nodes, fun f => ⟨g.mem_nodes f, g.mem_sortedNodes f⟩,
    ofEdges_edges unique⟩

end CallGraph

end PathAudit
