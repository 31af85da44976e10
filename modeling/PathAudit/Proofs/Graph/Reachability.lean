import PathAudit.Graph.Mutation
import Mathlib.Logic.Relation

/-! Directed paths of a call graph. Everything is said of the connected pairs, so that labels play
no part; the edge operations are described by what they do to the edges and their pairs. -/
namespace PathAudit.CallGraph

def pairs (g : CallGraph) : List (FunctionId × FunctionId) := g.edges.map CallEdge.pair

def Reaches (g : CallGraph) : FunctionId → FunctionId → Prop :=
  Relation.TransGen fun u v => (u, v) ∈ g.pairs

/-- A path leads from `u` to `v`. A node is joined to itself by the path of no calls. -/
def Joins (g : CallGraph) (u v : FunctionId) : Prop :=
  g.Reaches u v ∨ u = v ∧ g.contains u = true

theorem hasEdge_iff (g : CallGraph) (u v : FunctionId) :
    g.hasEdge u v = true ↔ (u, v) ∈ g.pairs := by
  simp [hasEdge, pairs, CallEdge.connects, CallEdge.pair]

theorem contains_iff (g : CallGraph) (f : FunctionId) :
    g.contains f = true ↔ ∃ p ∈ g.pairs, p.1 = f ∨ p.2 = f := by
  simp only [contains, pairs, List.any_eq_true, Bool.or_eq_true, beq_iff_eq]
  constructor
  · rintro ⟨e, inside, touches⟩
    exact ⟨e.pair, List.mem_map_of_mem inside, touches⟩
  · rintro ⟨p, member, touches⟩
    obtain ⟨e, inside, rfl⟩ := List.mem_map.mp member
    exact ⟨e, inside, touches⟩

theorem mem_callers (g : CallGraph) (u f : FunctionId) : u ∈ g.callers f ↔ (u, f) ∈ g.pairs := by
  simp only [callers, pairs, CallEdge.pair, List.mem_map, List.mem_filter, beq_iff_eq,
    Prod.mk.injEq]
  constructor
  · rintro ⟨e, ⟨inside, callee⟩, caller⟩
    exact ⟨e, inside, caller, callee⟩
  · rintro ⟨e, inside, caller, callee⟩
    exact ⟨e, ⟨inside, callee⟩, caller⟩

theorem mem_callees (g : CallGraph) (f v : FunctionId) : v ∈ g.callees f ↔ (f, v) ∈ g.pairs := by
  simp only [callees, pairs, CallEdge.pair, List.mem_map, List.mem_filter, beq_iff_eq,
    Prod.mk.injEq, and_assoc]

theorem edges_removeEdges (g : CallGraph) (listed : List (FunctionId × FunctionId)) :
    (g.removeEdges listed).edges = g.edges.filter fun e => e.pair ∉ listed := by
  apply List.filter_congr
  intro e _
  have found : (listed.any fun p => e.connects p.1 p.2) = true ↔ e.pair ∈ listed := by
    simp only [List.any_eq_true, CallEdge.connects, Bool.and_eq_true, beq_iff_eq]
    constructor
    · rintro ⟨⟨caller, callee⟩, inside, rfl, rfl⟩
      exact inside
    · intro inside
      exact ⟨e.pair, inside, rfl, rfl⟩
  change (!(listed.any fun p => e.connects p.1 p.2)) = decide (e.pair ∉ listed)
  rw [decide_not, Bool.eq_iff_iff, Bool.not_eq_true', Bool.not_eq_true', ← Bool.not_eq_true,
    found, decide_eq_false_iff_not]

theorem addEdge?_of_absent (g : CallGraph) (e : CallEdge) (absent : e.pair ∉ g.pairs) :
    g.addEdge? e = some ⟨g.edges ++ [e]⟩ := by
  have free : ¬g.hasEdge e.caller e.callee = true := by rwa [hasEdge_iff]
  simp [addEdge?, free]

theorem contains_of_mem (g : CallGraph) (u v : FunctionId) (linked : (u, v) ∈ g.pairs) :
    g.contains u = true ∧ g.contains v = true :=
  ⟨(contains_iff g u).mpr ⟨_, linked, Or.inl rfl⟩, (contains_iff g v).mpr ⟨_, linked, Or.inr rfl⟩⟩

theorem Reaches.contains_left {g : CallGraph} {u v : FunctionId} (path : g.Reaches u v) :
    g.contains u = true := by
  induction path using Relation.TransGen.head_induction_on with
  | single linked => exact (contains_of_mem g _ _ linked).1
  | head linked _ _ => exact (contains_of_mem g _ _ linked).1

theorem Reaches.contains_right {g : CallGraph} {u v : FunctionId} (path : g.Reaches u v) :
    g.contains v = true := by
  cases path with
  | single linked => exact (contains_of_mem g _ _ linked).2
  | tail _ linked => exact (contains_of_mem g _ _ linked).2

section Growth
variable {g h : CallGraph} (grows : ∀ p ∈ g.pairs, p ∈ h.pairs)
include grows

theorem Reaches.mono {u v : FunctionId} (path : g.Reaches u v) : h.Reaches u v :=
  Relation.TransGen.mono (fun _ _ linked => grows _ linked) _ _ path

theorem contains_mono {f : FunctionId} (node : g.contains f = true) : h.contains f = true := by
  obtain ⟨p, inside, touches⟩ := (contains_iff g f).mp node
  exact (contains_iff h f).mpr ⟨p, grows p inside, touches⟩

theorem Joins.mono {u v : FunctionId} (path : g.Joins u v) : h.Joins u v := by
  rcases path with path | ⟨same, node⟩
  · exact Or.inl (path.mono grows)
  · exact Or.inr ⟨same, contains_mono grows node⟩

end Growth

end PathAudit.CallGraph
