import PathAudit.Proofs.Graph.Contraction

/-! The shape of a chain that is folded. Each intermediate is checked against its neighbours only,
so a chain may run round a cycle more than once and come back to its own ends. It can do so in one
place alone: where the intermediates make up a cycle that no call enters or leaves. -/
namespace PathAudit.CompressPlan
open CallGraph

/-- No intermediate is visited twice, and the chain does not come back to its ends. -/
structure Simple (start : FunctionId) (intermediates : List FunctionId) (finish : FunctionId) :
    Prop where
  distinct : intermediates.Nodup
  startOutside : start ∉ intermediates
  finishOutside : finish ∉ intermediates

def Secluded (g : CallGraph) (functions : List FunctionId) : Prop :=
  ∀ p ∈ g.pairs, p.1 ∈ functions ↔ p.2 ∈ functions

section Foldable
variable {g : CallGraph} {start finish : FunctionId} {intermediates : List FunctionId}

theorem Foldable.simple_iff (chain : Foldable g start intermediates finish) :
    Simple start intermediates finish ↔ start ∉ intermediates := by
  constructor
  · intro simple
    exact simple.startOutside
  · intro outside
    have distinct := nodup_of_linear chain.linear outside
    have apart : finish ∉ intermediates := by rwa [← chain.start_mem_iff]
    exact ⟨distinct, outside, apart⟩

theorem Foldable.secluded_iff (chain : Foldable g start intermediates finish) :
    Secluded g intermediates ↔ start ∈ intermediates := by
  constructor
  · intro secluded
    obtain ⟨first, rest, rfl⟩ := List.exists_cons_of_ne_nil chain.nonempty
    have link : (start, first) ∈ links start (first :: rest) finish := List.mem_cons_self
    exact (secluded _ (chain.linked _ link)).mpr List.mem_cons_self
  · intro inside
    -- Both ends lie inside, and a call that touches the inside is a link of the chain.
    have finishInside := chain.start_mem_iff.mp inside
    intro p edge
    constructor
    · intro leaves
      rcases chain.callee_cases edge leaves with within | last
      · exact within
      · rwa [last]
    · intro enters
      rcases chain.caller_cases edge enters with first | within
      · rwa [first]
      · exact within

theorem Foldable.removes_iff (chain : Foldable g start intermediates finish) (label : String) :
    (∀ f ∈ intermediates, (folded g start intermediates finish label).contains f = false) ↔
      start ∉ intermediates := by
  constructor
  · intro removed inside
    have kept : (folded g start intermediates finish label).contains start = true :=
      (chain.contains_folded label start).mpr (Or.inr (Or.inl rfl))
    rw [removed start inside] at kept
    contradiction
  · intro outside f inside
    rw [← Bool.not_eq_true, chain.contains_folded]
    rintro (⟨-, apart⟩ | rfl | rfl)
    · exact apart inside
    · exact outside inside
    · exact outside (chain.start_mem_iff.mpr inside)

end Foldable

/-- A chain whose folding is accepted is simple exactly when some call connects an intermediate with
a function outside them, and exactly when folding it removes all of them. -/
theorem prepared_simple_iff (g : CallGraph) (start : FunctionId) (intermediates : List FunctionId)
    (finish : FunctionId) (label : String) (plan : CompressPlan)
    (prepared : prepare g start intermediates finish label = .ok plan) :
    (Simple start intermediates finish ↔ ¬Secluded g intermediates) ∧
      ∃ next, plan.apply g = .ok next ∧
        (Simple start intermediates finish ↔
          ∀ f ∈ intermediates, next.contains f = false) := by
  obtain ⟨chain, -⟩ := (prepare_eq_ok_iff g start intermediates finish label plan).mp prepared
  have applied := apply_prepared g start intermediates finish label plan prepared
  refine ⟨?_, _, applied, ?_⟩
  · rw [chain.simple_iff, chain.secluded_iff]
  · rw [chain.simple_iff, chain.removes_iff]

theorem prepared_simple_entered :
    ∃ plan, prepare entered "a" ["b", "c"] "d" "via b and c" = .ok plan ∧
      ¬Secluded entered ["b", "c"] ∧ Simple "a" ["b", "c"] "d" := by
  have prepared : prepare entered "a" ["b", "c"] "d" "via b and c" =
      .ok ⟨[("a", "b"), ("b", "c"), ("c", "d")], ⟨"a", "d", "via b and c"⟩⟩ := by cbv
  have connected : ¬Secluded entered ["b", "c"] := by
    intro secluded
    have crossing := secluded ("a", "b") (by decide)
    exact absurd (crossing.mpr (by decide)) (by decide)
  have shape := (prepared_simple_iff entered "a" ["b", "c"] "d" _ _ prepared).1
  exact ⟨_, prepared, connected, shape.mpr connected⟩

def ring : CallGraph := ⟨[.calls "a" "b", .calls "b" "c", .calls "c" "a"]⟩

/-- Five calls round a cycle of three: the chain is accepted and folded, although it visits `b`
twice and comes back to its start and its end, both of which stay. -/
theorem chain_round_ring :
    ring.pairs.Nodup ∧ ∃ plan next,
      prepare ring "a" ["b", "c", "a", "b"] "c" "round" = .ok plan ∧
      plan.apply ring = .ok next ∧ next.edges = [⟨"a", "c", "round"⟩] ∧
      ¬["b", "c", "a", "b"].Nodup ∧ "a" ∈ ["b", "c", "a", "b"] ∧ "c" ∈ ["b", "c", "a", "b"] := by
  have prepared : prepare ring "a" ["b", "c", "a", "b"] "c" "round" =
      .ok ⟨[("a", "b"), ("b", "c"), ("c", "a"), ("a", "b"), ("b", "c")],
        ⟨"a", "c", "round"⟩⟩ := by cbv
  refine ⟨by decide, _, ⟨[⟨"a", "c", "round"⟩]⟩, prepared, ?_, rfl, ?_, ?_, ?_⟩
  · cbv
  · decide
  · decide
  · decide

end PathAudit.CompressPlan
