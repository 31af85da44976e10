import PathAudit.Proofs.Graph.Contraction
import PathAudit.Proofs.Graph.Extension

/-! Plans and the graphs they are applied to. A plan is checked against one graph and may be applied
to another, at once or later and more than once. Either all of it is taken over or nothing is, and
the pairs it connects alone decide which. -/
namespace PathAudit
open CallGraph

/-- The graph after the edges are added one by one, up to the first that is refused; the edges
before it stay. -/
def CallGraph.addUntilRefused (g : CallGraph) : List CallEdge → CallGraph
  | [] => g
  | e :: news =>
    match g.addEdge? e with
    | some next => next.addUntilRefused news
    | none => g

def ExtendPlan.leaves (p : ExtendPlan) (g : CallGraph) : CallGraph :=
  match p.newEdges.find? fun e => g.hasEdge e.caller e.callee with
  | some _ => g
  | none => g.addUntilRefused p.newEdges

/-- What a graph has become when the plan was applied to it. The change is made on a copy, which
takes the graph's place when it is complete. -/
def CompressPlan.leaves (p : CompressPlan) (g : CallGraph) : CallGraph :=
  match p.apply g with
  | .ok next => next
  | .error _ => g

section Applying
variable (apply : CallGraph → Except MutationError CallGraph) (leaves : CallGraph → CallGraph)

def Refused (g : CallGraph) : Prop :=
  (∃ caller callee, apply g = .error (.duplicateEdge caller callee)) ∧ leaves g = g

/-- A plan that is refused where its pairs are `taken`, makes `next` of every other graph, and is
refused when it is applied a second time in a row. -/
structure AllOrNothing (taken : CallGraph → Prop) (next : CallGraph → CallGraph) : Prop where
  refused_iff : ∀ g, Refused apply leaves g ↔ taken g
  applied : ∀ g, ¬taken g → apply g = .ok (next g) ∧ leaves g = next g
  again : ∀ g, Refused apply leaves (leaves g)

variable {apply leaves} {taken : CallGraph → Prop} {next : CallGraph → CallGraph}

theorem AllOrNothing.of_fills (refused : ∀ g, taken g → Refused apply leaves g)
    (applied : ∀ g, ¬taken g → apply g = .ok (next g) ∧ leaves g = next g)
    (fills : ∀ g, taken (next g)) : AllOrNothing apply leaves taken next := by
  refine ⟨fun g => ⟨?_, refused g⟩, applied, fun g => ?_⟩
  · rintro ⟨⟨caller, callee, error⟩, -⟩
    by_contra free
    rw [(applied g free).1] at error
    contradiction
  · by_cases held : taken g
    · rw [(refused g held).2]
      exact refused g held
    · rw [(applied g held).2]
      exact refused (next g) (fills g)

end Applying

namespace ExtendPlan

private theorem addUntilRefused_of_foldlM (news : List CallEdge) {g next : CallGraph}
    (added : news.foldlM (fun g e =>
      match g.addEdge? e with
      | some g => Except.ok g
      | none => Except.error (MutationError.duplicateEdge e.caller e.callee)) g = .ok next) :
    g.addUntilRefused news = next := by
  induction news generalizing g with
  | nil => exact Except.ok.inj added
  | cons e news ih =>
    rw [List.foldlM_cons] at added
    rw [addUntilRefused]
    cases free : g.addEdge? e with
    | none =>
      rw [free] at added
      contradiction
    | some more =>
      rw [free] at added
      exact ih added

theorem leaves_of_applied {plan : ExtendPlan} {g next : CallGraph}
    (applied : plan.apply g = .ok next) : plan.leaves g = next := by
  unfold apply at applied
  unfold leaves
  cases taken : plan.newEdges.find? fun e => g.hasEdge e.caller e.callee with
  | some e =>
    rw [taken] at applied
    contradiction
  | none =>
    rw [taken] at applied
    exact addUntilRefused_of_foldlM plan.newEdges applied

theorem refused_of_taken {plan : ExtendPlan} {g : CallGraph}
    (taken : ∃ e ∈ plan.newEdges, e.pair ∈ g.pairs) : Refused plan.apply plan.leaves g := by
  obtain ⟨e, member, linked⟩ := taken
  have found : (plan.newEdges.find? fun e => g.hasEdge e.caller e.callee).isSome := by
    rw [List.find?_isSome]
    exact ⟨e, member, (hasEdge_iff g _ _).mpr linked⟩
  obtain ⟨first, found⟩ := Option.isSome_iff_exists.mp found
  refine ⟨⟨first.caller, first.callee, ?_⟩, ?_⟩
  · rw [apply, found]
  · rw [leaves, found]

theorem prepared_allOrNothing {origin : CallGraph} {r : Resolver} {suffix : String}
    {callers : List FunctionId} {plan : ExtendPlan}
    (prepared : prepare origin r suffix callers = .ok plan) :
    AllOrNothing plan.apply plan.leaves
      (fun g => ∃ e ∈ plan.newEdges, (e.caller, plan.resolved) ∈ g.pairs)
      (fun g => ⟨g.edges ++ plan.newEdges⟩) := by
  have pair (e : CallEdge) (member : e ∈ plan.newEdges) : (e.caller, plan.resolved) = e.pair := by
    rw [((prepare_eq_ok_iff ..).mp prepared).edges] at member
    obtain ⟨caller, -, rfl⟩ := List.mem_map.mp member
    rfl
  refine .of_fills ?_ ?_ ?_
  · rintro g ⟨e, member, linked⟩
    exact refused_of_taken ⟨e, member, pair e member ▸ linked⟩
  · intro g free
    have absent : ∀ e ∈ plan.newEdges, e.pair ∉ g.pairs := by
      intro e member linked
      exact free ⟨e, member, pair e member ▸ linked⟩
    have applied := apply_of_absent (nodup_newEdges prepared) absent
    exact ⟨applied, leaves_of_applied applied⟩
  · intro g
    obtain ⟨e, rest, edges⟩ := List.exists_cons_of_ne_nil (newEdges_ne_nil prepared)
    have member : e ∈ plan.newEdges := by rw [edges]; exact List.mem_cons_self
    refine ⟨e, member, ?_⟩
    rw [pair e member]
    exact List.mem_map_of_mem (List.mem_append_right _ member)

end ExtendPlan

namespace CompressPlan

theorem replacement_not_removed {origin : CallGraph} {start finish : FunctionId}
    {intermediates : List FunctionId} {label : String} {plan : CompressPlan}
    (prepared : prepare origin start intermediates finish label = .ok plan) :
    plan.replacement.pair = (start, finish) ∧ (start, finish) ∉ plan.removed := by
  obtain ⟨chain, rfl⟩ :=
    (prepare_eq_ok_iff origin start intermediates finish label plan).mp prepared
  exact ⟨rfl, fun link => chain.fresh (chain.linked _ link)⟩

theorem mem_pairs_removeEdges (g : CallGraph) (listed : List (FunctionId × FunctionId))
    (p : FunctionId × FunctionId) :
    p ∈ (g.removeEdges listed).pairs ↔ p ∈ g.pairs ∧ p ∉ listed := by
  simp only [pairs, edges_removeEdges, List.mem_map, List.mem_filter, decide_eq_true_eq]
  constructor
  · rintro ⟨e, ⟨inside, kept⟩, rfl⟩
    exact ⟨⟨e, inside, rfl⟩, kept⟩
  · rintro ⟨⟨e, inside, rfl⟩, kept⟩
    exact ⟨e, ⟨inside, kept⟩, rfl⟩

theorem prepared_allOrNothing {origin : CallGraph} {start finish : FunctionId}
    {intermediates : List FunctionId} {label : String} {plan : CompressPlan}
    (prepared : prepare origin start intermediates finish label = .ok plan) :
    AllOrNothing plan.apply plan.leaves (fun g => (start, finish) ∈ g.pairs)
      (fun g => ⟨(g.edges.filter fun e => e.pair ∉ plan.removed) ++ [plan.replacement]⟩) := by
  obtain ⟨pair, outside⟩ := replacement_not_removed prepared
  have kept (g : CallGraph) :
      plan.replacement.pair ∈ (g.removeEdges plan.removed).pairs ↔ (start, finish) ∈ g.pairs := by
    rw [pair, mem_pairs_removeEdges]
    exact and_iff_left outside
  refine .of_fills ?_ ?_ ?_
  · intro g linked
    have held := (hasEdge_iff _ _ _).mpr ((kept g).mpr linked)
    have error : plan.apply g =
        .error (.duplicateEdge plan.replacement.caller plan.replacement.callee) := by
      simp only [apply, addEdge?, held, if_true]
    exact ⟨⟨_, _, error⟩, by rw [leaves, error]⟩
  · intro g free
    have absent : plan.replacement.pair ∉ (g.removeEdges plan.removed).pairs := by
      rwa [kept]
    have applied : plan.apply g =
        .ok ⟨(g.edges.filter fun e => e.pair ∉ plan.removed) ++ [plan.replacement]⟩ := by
      simp only [apply, addEdge?_of_absent _ _ absent, edges_removeEdges]
    exact ⟨applied, by rw [leaves, applied]⟩
  · intro g
    simp [pairs, pair]

end CompressPlan

/-- A plan prepared for some graph and applied to any other is refused exactly when a pair that it
connects is connected by now; the graph is then as it was. Otherwise the whole change is made. The
graph a plan was prepared for always takes it, and no graph takes it twice in a row. -/
theorem prepared_all_or_nothing (origin : CallGraph) :
    (∀ r suffix callers plan, ExtendPlan.prepare origin r suffix callers = .ok plan →
      AllOrNothing plan.apply plan.leaves
        (fun g => ∃ e ∈ plan.newEdges, (e.caller, plan.resolved) ∈ g.pairs)
        (fun g => ⟨g.edges ++ plan.newEdges⟩) ∧
      ∃ next, plan.apply origin = .ok next) ∧
    ∀ start intermediates finish label plan,
      CompressPlan.prepare origin start intermediates finish label = .ok plan →
      AllOrNothing plan.apply plan.leaves (fun g => (start, finish) ∈ g.pairs)
        (fun g => ⟨(g.edges.filter fun e => e.pair ∉ plan.removed) ++ [plan.replacement]⟩) ∧
      ∃ next, plan.apply origin = .ok next := by
  constructor
  · intro r suffix callers plan prepared
    exact ⟨ExtendPlan.prepared_allOrNothing prepared, _, ExtendPlan.apply_prepared prepared⟩
  · intro start intermediates finish label plan prepared
    exact ⟨CompressPlan.prepared_allOrNothing prepared, _,
      CompressPlan.apply_prepared origin start intermediates finish label plan prepared⟩

def callOfHelper : CodeBase where
  bodies := Dict.empty.insert "m.helper" "def helper(): pass"
  calls := [("a", "m.helper"), ("d", "m.helper")]

theorem prepared_all_or_nothing_entered :
    (∃ plan, ExtendPlan.prepare CompressPlan.entered callOfHelper.resolver "helper"
        ["a", "d", "a"] = .ok plan ∧
      Refused plan.apply plan.leaves ⟨[.calls "d" "m.helper"]⟩ ∧
      plan.leaves ⟨[.calls "d" "b"]⟩ =
        ⟨[.calls "d" "b", .calls "a" "m.helper", .calls "d" "m.helper"]⟩) ∧
    ∃ plan, CompressPlan.prepare CompressPlan.entered "a" ["b", "c"] "d" "via b and c" = .ok plan ∧
      Refused plan.apply plan.leaves ⟨[.calls "a" "b", ⟨"a", "d", "directly"⟩]⟩ ∧
      plan.leaves ⟨[.calls "a" "b", .calls "b" "x"]⟩ =
        ⟨[.calls "b" "x", ⟨"a", "d", "via b and c"⟩]⟩ := by
  obtain ⟨attaching, folding⟩ := prepared_all_or_nothing CompressPlan.entered
  constructor
  · have prepared : ExtendPlan.prepare CompressPlan.entered callOfHelper.resolver "helper"
        ["a", "d", "a"] = .ok ⟨"m.helper", ["m.helper"], "def helper(): pass",
          [.calls "a" "m.helper", .calls "d" "m.helper"]⟩ := by rfl
    obtain ⟨whole, -⟩ := attaching _ _ _ _ prepared
    refine ⟨_, prepared, (whole.refused_iff _).mpr ?_, (whole.applied _ ?_).2⟩
    · exact ⟨.calls "d" "m.helper", by decide, by decide⟩
    · decide
  · have prepared : CompressPlan.prepare CompressPlan.entered "a" ["b", "c"] "d" "via b and c" =
        .ok ⟨[("a", "b"), ("b", "c"), ("c", "d")], ⟨"a", "d", "via b and c"⟩⟩ := by cbv
    obtain ⟨whole, -⟩ := folding _ _ _ _ _ prepared
    refine ⟨_, prepared, (whole.refused_iff _).mpr ?_, (whole.applied _ ?_).2⟩
    · decide
    · decide

end PathAudit
