import PathAudit.Proofs.Graph.Reachability
import Mathlib.Data.List.Induction
import Mathlib.Data.List.Nodup

/-! Attaching a callee. A plan names each caller once and a callee that is no node yet, so on the
graph it was prepared for all of its edges are added. -/
namespace PathAudit
open CallGraph

structure Mentioned (names distinct : List FunctionId) : Prop where
  members : ∀ f, f ∈ distinct ↔ f ∈ names
  ordered : distinct.Pairwise fun a b => names.idxOf a < names.idxOf b

section Mentions

theorem firstMentions_append (names : List FunctionId) (f : FunctionId) :
    firstMentions (names ++ [f]) =
      if (firstMentions names).contains f then firstMentions names
      else firstMentions names ++ [f] := by
  rw [firstMentions, List.foldl_append]
  rfl

theorem mem_firstMentions (names : List FunctionId) (f : FunctionId) :
    f ∈ firstMentions names ↔ f ∈ names := by
  induction names using List.reverseRecOn with
  | nil => rfl
  | append_singleton names last ih =>
    rw [firstMentions_append, List.mem_append, List.mem_singleton, ← ih]
    split
    next known =>
      have held : last ∈ firstMentions names := List.contains_iff_mem.mp known
      exact (or_iff_left_of_imp fun same => same ▸ held).symm
    next => rw [List.mem_append, List.mem_singleton]

theorem mentioned_firstMentions (names : List FunctionId) :
    Mentioned names (firstMentions names) := by
  refine ⟨mem_firstMentions names, ?_⟩
  induction names using List.reverseRecOn with
  | nil => exact .nil
  | append_singleton names last ih =>
    have kept : (firstMentions names).Pairwise fun a b =>
        (names ++ [last]).idxOf a < (names ++ [last]).idxOf b := by
      refine ih.imp_of_mem fun first second less => ?_
      rw [mem_firstMentions] at first second
      rwa [List.idxOf_append_of_mem first, List.idxOf_append_of_mem second]
    rw [firstMentions_append]
    split
    · exact kept
    next unseen =>
      have new : last ∉ names := by
        rwa [List.contains_iff_mem, mem_firstMentions] at unseen
      refine List.pairwise_append.mpr ⟨kept, List.pairwise_singleton _ _, ?_⟩
      intro a early b only
      rw [mem_firstMentions] at early
      rw [List.mem_singleton.mp only, List.idxOf_append_of_mem early,
        List.idxOf_append_of_notMem new]
      exact Nat.lt_add_right _ (List.idxOf_lt_length_of_mem early)

theorem nodup_firstMentions (names : List FunctionId) : (firstMentions names).Nodup := by
  refine (mentioned_firstMentions names).ordered.imp fun less => ?_
  rintro rfl
  exact Nat.lt_irrefl _ less

theorem firstMentions_ne_nil {names : List FunctionId} (some : names ≠ []) :
    firstMentions names ≠ [] := by
  obtain ⟨f, member⟩ := List.exists_mem_of_ne_nil names some
  exact List.ne_nil_of_mem ((mem_firstMentions names f).mpr member)

end Mentions

namespace ExtendPlan

/-- The callers are known and the plan attaches the first callee found to each of them. -/
structure Attachable (g : CallGraph) (r : Resolver) (suffix : String) (callers : List FunctionId)
    (plan : ExtendPlan) : Prop where
  asked : callers ≠ []
  known : ∀ f ∈ callers, g.contains f = true
  candidates : plan.candidates = matchingCallees r suffix callers
  first : plan.candidates.head? = some plan.resolved
  fresh : g.contains plan.resolved = false
  body : r.body plan.resolved = .ok plan.body
  edges : plan.newEdges = (firstMentions callers).map (CallEdge.calls · plan.resolved)

/-- A callee that is no node has no callers yet, so none of them is left out. -/
private theorem filter_unlinked {g : CallGraph} {f : FunctionId} (fresh : g.contains f = false)
    (callers : List FunctionId) : callers.filter (!g.hasEdge · f) = callers := by
  rw [List.filter_eq_self]
  intro caller _
  have unlinked : ¬g.hasEdge caller f = true := by
    intro linked
    have node := (contains_of_mem g caller f ((hasEdge_iff g _ _).mp linked)).2
    simp [fresh] at node
  simpa using unlinked

theorem lacking_eq_false_iff (g : CallGraph) (callers : List FunctionId) :
    (callers.isEmpty || !(callers.filter (!g.contains ·)).isEmpty) = false ↔
      callers ≠ [] ∧ ∀ f ∈ callers, g.contains f = true := by
  simp [List.filter_eq_nil_iff]

theorem prepare_eq_ok_iff (g : CallGraph) (r : Resolver) (suffix : String)
    (callers : List FunctionId) (plan : ExtendPlan) :
    prepare g r suffix callers = .ok plan ↔ Attachable g r suffix callers plan := by
  constructor
  · intro prepared
    unfold prepare at prepared
    dsimp only at prepared
    split at prepared
    next => contradiction
    next complete =>
    split at prepared
    next => contradiction
    next resolved others found =>
    split at prepared
    next => contradiction
    next absent =>
    split at prepared
    next => contradiction
    next body held =>
    cases Except.ok.inj prepared
    have fresh : g.contains resolved = false := by simpa using absent
    rw [Bool.not_eq_true, lacking_eq_false_iff] at complete
    obtain ⟨asked, known⟩ := complete
    exact ⟨asked, known, found.symm, rfl, fresh, held, by rw [filter_unlinked fresh]⟩
  · rintro ⟨asked, known, candidates, first, fresh, body, edges⟩
    obtain ⟨resolved, found, text, news⟩ := plan
    dsimp only at candidates first fresh body edges
    obtain ⟨others, rfl⟩ := List.head?_eq_some_iff.mp first
    have complete := (lacking_eq_false_iff g callers).mpr ⟨asked, known⟩
    simp only [prepare, complete, ← candidates, fresh, body, filter_unlinked fresh, edges]
    rfl

theorem prepared_of_same_nodes {g other : CallGraph} {r : Resolver} {suffix : String}
    {callers : List FunctionId} {plan : ExtendPlan}
    (nodes : ∀ f, other.contains f = g.contains f)
    (prepared : prepare g r suffix callers = .ok plan) :
    prepare other r suffix callers = .ok plan := by
  obtain ⟨asked, known, candidates, first, fresh, body, edges⟩ :=
    (prepare_eq_ok_iff ..).mp prepared
  refine (prepare_eq_ok_iff ..).mpr ⟨asked, ?_, candidates, first, ?_, body, edges⟩
  · intro f member
    rw [nodes, known f member]
  · rw [nodes, fresh]

private theorem foldlM_addEdge (news : List CallEdge) (g : CallGraph)
    (distinct : (news.map CallEdge.pair).Nodup) (absent : ∀ e ∈ news, e.pair ∉ g.pairs) :
    news.foldlM (fun g e =>
      match g.addEdge? e with
      | some g => Except.ok g
      | none => Except.error (MutationError.duplicateEdge e.caller e.callee)) g =
      .ok ⟨g.edges ++ news⟩ := by
  induction news generalizing g with
  | nil => simp [pure, Except.pure]
  | cons e news ih =>
    rw [List.map_cons, List.nodup_cons] at distinct
    rw [List.foldlM_cons, addEdge?_of_absent g e (absent e List.mem_cons_self)]
    have later : ∀ other ∈ news, other.pair ∉ (CallGraph.mk (g.edges ++ [e])).pairs := by
      intro other member linked
      rw [pairs, List.map_append, List.mem_append] at linked
      rcases linked with old | new
      · exact absent other (List.mem_cons_of_mem _ member) old
      · have same : other.pair = e.pair := by simpa using new
        exact distinct.1 (same ▸ List.mem_map_of_mem member)
    have rest := ih ⟨g.edges ++ [e]⟩ distinct.2 later
    rw [List.append_assoc] at rest
    exact rest

theorem apply_of_absent {plan : ExtendPlan} {g : CallGraph}
    (distinct : (plan.newEdges.map CallEdge.pair).Nodup)
    (absent : ∀ e ∈ plan.newEdges, e.pair ∉ g.pairs) :
    plan.apply g = .ok ⟨g.edges ++ plan.newEdges⟩ := by
  have none : (plan.newEdges.find? fun e => g.hasEdge e.caller e.callee) = none := by
    rw [List.find?_eq_none]
    intro e member linked
    exact absent e member ((hasEdge_iff g _ _).mp linked)
  rw [apply, none]
  exact foldlM_addEdge plan.newEdges g distinct absent

theorem nodup_newEdges {g : CallGraph} {r : Resolver} {suffix : String} {callers : List FunctionId}
    {plan : ExtendPlan} (prepared : prepare g r suffix callers = .ok plan) :
    (plan.newEdges.map CallEdge.pair).Nodup := by
  rw [((prepare_eq_ok_iff ..).mp prepared).edges, List.map_map]
  apply (nodup_firstMentions callers).map
  intro a b same
  exact (Prod.mk.inj same).1

theorem apply_prepared {g : CallGraph} {r : Resolver} {suffix : String} {callers : List FunctionId}
    {plan : ExtendPlan} (prepared : prepare g r suffix callers = .ok plan) :
    plan.apply g = .ok ⟨g.edges ++ plan.newEdges⟩ := by
  have ready := (prepare_eq_ok_iff ..).mp prepared
  refine apply_of_absent (nodup_newEdges prepared) ?_
  intro e member linked
  rw [ready.edges] at member
  obtain ⟨caller, -, rfl⟩ := List.mem_map.mp member
  have node := (contains_of_mem g caller plan.resolved linked).2
  simp [ready.fresh] at node

theorem newEdges_ne_nil {g : CallGraph} {r : Resolver} {suffix : String}
    {callers : List FunctionId} {plan : ExtendPlan}
    (prepared : prepare g r suffix callers = .ok plan) : plan.newEdges ≠ [] := by
  have ready := (prepare_eq_ok_iff ..).mp prepared
  rw [ready.edges]
  simpa using firstMentions_ne_nil ready.asked

theorem not_prepared_again {g : CallGraph} {r : Resolver} {suffix : String}
    {callers : List FunctionId} {plan again : ExtendPlan}
    (prepared : prepare g r suffix callers = .ok plan) :
    prepare ⟨g.edges ++ plan.newEdges⟩ r suffix callers ≠ .ok again := by
  intro repeated
  have ready := (prepare_eq_ok_iff ..).mp prepared
  have anew := (prepare_eq_ok_iff ..).mp repeated
  have same : plan.resolved = again.resolved := by
    have first := ready.first
    rw [ready.candidates, ← anew.candidates, anew.first] at first
    exact (Option.some.inj first).symm
  have absent := anew.fresh
  obtain ⟨e, rest, edges⟩ := List.exists_cons_of_ne_nil (newEdges_ne_nil prepared)
  have callee : e.callee = plan.resolved := by
    have member : e ∈ plan.newEdges := by rw [edges]; exact List.mem_cons_self
    rw [ready.edges] at member
    obtain ⟨caller, -, rfl⟩ := List.mem_map.mp member
    rfl
  simp [contains, edges, callee, same] at absent

end ExtendPlan

end PathAudit
