import PathAudit.Proofs.Audit.Extracting
import PathAudit.Proofs.Audit.Freshness
import PathAudit.Proofs.Audit.Transcript
import PathAudit.Proofs.Graph.EdgeUniqueness

/-! The findings an audit starts from. Before its first drawing every node but the sink that has
nothing yet and whose code can be had is given findings, for one request each, in the order of the
nodes; whatever the reasoners reply, nothing else in the session changes. -/
namespace PathAudit
open World

theorem Annotations.hasAny_merge (a : Annotations) (f : FunctionId) {updates : Findings}
    (given : updates.isEmpty = false) : (a.merge f updates).hasAny f = true := by
  rw [hasAny, get?_merge_self a f given, Bool.not_eq_true']
  obtain ⟨kind, member⟩ := List.isEmpty_eq_false_iff_exists_mem.mp given
  have held : updates.contains kind = true := (List.mem_filter.mp member).2
  refine Findings.isEmpty_eq_false kind ?_
  obtain ⟨text, found⟩ := Option.isSome_iff_exists.mp held
  simp [Findings.contains, found]

namespace Audit
variable {σ : Type}

/-- A node that still needs findings and can get them. -/
structure Lacking (r : Resolver) (sink : FunctionId) (a : Annotations) (f : FunctionId) : Prop where
  inner : f ≠ sink
  bare : a.hasAny f = false
  readable : ∃ body, r.body f = .ok body

structure OpensWith (r : Resolver) (g : CallGraph) (sink f : FunctionId) (x : Exchange) : Prop where
  role : x.role = .extract
  question : ∃ body, r.body f = .ok body ∧
    x.request.messages = [.user (Extraction.question f body (g.callees f) sink none)]

/-- What a pass over some nodes has come to: the findings after it, the requests made and the nodes
that findings were asked for. -/
structure Pass (r : Resolver) (g : CallGraph) (sink : FunctionId) (nodes : List FunctionId)
    (before after : Annotations) (made : List Exchange) (asked : List FunctionId) : Prop where
  ordered : asked.Sublist nodes
  selected : ∀ f, f ∈ asked ↔ f ∈ nodes ∧ Lacking r sink before f
  found : ∀ f ∈ asked, after.hasAny f = true
  spared : ∀ f, f ∉ asked → after.get? f = before.get? f
  requested : List.Forall₂ (OpensWith r g sink) asked (made.filter (·.role = .extract))
  findings : ∀ x ∈ made, ForFindings x

namespace Pass
variable {r : Resolver} {g : CallGraph} {sink node : FunctionId} {nodes asked : List FunctionId}
  {before middle after : Annotations} {made : List Exchange}

theorem nil (r : Resolver) (g : CallGraph) (sink : FunctionId) (a : Annotations) :
    Pass r g sink [] a a [] [] where
  ordered := .slnil
  selected := by simp
  found := by simp
  spared _ _ := rfl
  requested := .nil
  findings := by simp

theorem skip (pass : Pass r g sink nodes before after made asked)
    (served : ¬Lacking r sink before node) :
    Pass r g sink (node :: nodes) before after made asked where
  ordered := pass.ordered.cons node
  selected f := by
    rw [pass.selected, List.mem_cons]
    constructor
    · exact fun ⟨member, lacking⟩ => ⟨.inr member, lacking⟩
    · rintro ⟨rfl | member, lacking⟩
      · exact absurd lacking served
      · exact ⟨member, lacking⟩
  found := pass.found
  spared := pass.spared
  requested := pass.requested
  findings := pass.findings

theorem cons (pass : Pass r g sink nodes middle after made asked) (new : node ∉ nodes)
    (lacking : Lacking r sink before node) {updates : Findings}
    (given : updates.isEmpty = false) (merged : middle = before.merge node updates)
    {first : Exchange} {more : List Exchange} (opens : OpensWith r g sink node first)
    (corrections : ∀ x ∈ more, x.role = .extractThink) :
    Pass r g sink (node :: nodes) before after (first :: more ++ made) (node :: asked) := by
  -- The rest of the pass starts from findings that differ at a node it does not come to again.
  have unasked : node ∉ asked := fun member => new (pass.ordered.subset member)
  have other {f : FunctionId} (apart : f ≠ node) : middle.get? f = before.get? f := by
    rw [merged]
    exact before.get?_merge_of_ne node f updates apart
  have alike {f : FunctionId} (apart : f ≠ node) :
      Lacking r sink middle f ↔ Lacking r sink before f := by
    have bare : middle.hasAny f = before.hasAny f := by
      rw [Annotations.hasAny, other apart, Annotations.hasAny]
    exact ⟨fun l => ⟨l.inner, bare ▸ l.bare, l.readable⟩,
      fun l => ⟨l.inner, bare.trans l.bare, l.readable⟩⟩
  have requests : (first :: more ++ made).filter (·.role = .extract) =
      first :: made.filter (·.role = .extract) := by
    have none : more.filter (·.role = .extract) = [] := by
      refine List.filter_eq_nil_iff.mpr fun x member => ?_
      simp [corrections x member]
    simp [opens.role, none]
  refine ⟨pass.ordered.cons_cons node, fun f => ?_, fun f member => ?_, fun f absent => ?_, ?_, ?_⟩
  · rw [List.mem_cons, List.mem_cons]
    by_cases same : f = node
    · simp [same, lacking]
    · rw [pass.selected, alike same]
      simp [same]
  · rcases List.mem_cons.mp member with rfl | later
    · rw [Annotations.hasAny, pass.spared f unasked, merged]
      exact before.hasAny_merge f given
    · exact pass.found f later
  · rw [List.mem_cons, not_or] at absent
    rw [pass.spared f absent.2, other absent.1]
  · rw [requests]
    exact .cons opens pass.requested
  · intro x member
    rcases List.mem_append.mp member with now | later
    · rcases List.mem_cons.mp now with rfl | correction
      · exact .inl opens.role
      · exact .inr (corrections x correction)
    · exact pass.findings x later

end Pass

section Steps
variable (c : Collaborators σ) (config : AuditConfig)

theorem analyze_opens (s : Session) {f : FunctionId} {body : String}
    (read : c.resolver.body f = .ok body) (w : World σ) :
    let analysis := Extraction.analyze c config.service.extraction f body (s.graph.callees f)
      s.sink none w
    analysis.1.isEmpty = false ∧
      ∃ first more, analysis.2.exchanges = w.exchanges ++ first :: more ∧
        OpensWith c.resolver s.graph s.sink f first ∧ ∀ x ∈ more, x.role = .extractThink := by
  intro analysis
  obtain ⟨usable, first, second, obtained⟩ := Extraction.analyze_usable c
    config.service.extraction f body (s.graph.callees f) s.sink none w
  obtain ⟨made, grown, puts⟩ := Extraction.analyze_questioned c config.service.extraction f body
    (s.graph.callees f) s.sink none w
  obtain rfl : made = first :: second.toList :=
    List.append_cancel_left (grown.symm.trans obtained.asked)
  refine ⟨usable.found, first, second.toList, grown, ⟨obtained.instructed, body, read, ?_⟩, ?_⟩
  · cases puts first List.mem_cons_self with
    | asked _ alone => exact alone
    | corrected _ _ role =>
      rw [obtained.instructed] at role
      contradiction
  · intro x member
    exact obtained.reasoned x (Option.mem_toList.mp member)

theorem annotate_lacking {s : Session} {node : FunctionId}
    (lacking : Lacking c.resolver s.sink s.annotations node) (w : World σ) :
    ∃ updates first more, updates.isEmpty = false ∧
      (annotate c config s node w).1 =
        { s with annotations := s.annotations.merge node updates } ∧
      (annotate c config s node w).2.exchanges = w.exchanges ++ first :: more ∧
      OpensWith c.resolver s.graph s.sink node first ∧ ∀ x ∈ more, x.role = .extractThink := by
  obtain ⟨inner, bare, body, read⟩ := lacking
  obtain ⟨given, first, more, grown, opens, corrections⟩ :=
    analyze_opens c config s read (w.tell (c.resolver.notices node))
  refine ⟨_, first, more, given, ?_, ?_, opens, corrections⟩
  · simp [annotate, inner, bare, read]
  · simpa [annotate, inner, bare, read] using grown

theorem annotate_served {s : Session} {node : FunctionId}
    (served : ¬Lacking c.resolver s.sink s.annotations node) (w : World σ) :
    (annotate c config s node w).1 = s ∧
      (annotate c config s node w).2.exchanges = w.exchanges := by
  unfold annotate
  split
  next => exact ⟨rfl, rfl⟩
  next unserved =>
    dsimp only
    split
    next => exact ⟨rfl, rfl⟩
    next body read =>
      simp only [not_or, Bool.not_eq_true, decide_eq_true_eq, Bool.or_eq_true] at unserved
      exact absurd ⟨unserved.1, unserved.2, body, read⟩ served

private theorem step_annotating (s : Session) (n : Nat) (node : FunctionId)
    (nodes : List FunctionId) (w : World σ) :
    ∃ quiet next : World σ, quiet.exchanges = w.exchanges ∧ quiet.store = w.store ∧
      step c config ⟨s, n, .annotating (node :: nodes)⟩ w =
        (⟨(annotate c config s node quiet).1, n, .annotating nodes⟩, next) ∧
      next.exchanges = (annotate c config s node quiet).2.exchanges ∧ next.store = quiet.store := by
  have stored := store_annotate c config s node { w with notices := [] }
  refine ⟨{ w with notices := [] }, ?_⟩
  cases annotated : annotate c config s node { w with notices := [] } with
  | mk session after =>
    rw [annotated] at stored
    refine ⟨{ after with notices := w.notices ++ after.notices.map (·.under s.key) }, rfl, rfl, ?_,
      rfl, stored⟩
    simp only [step, World.under, advance, annotated]

theorem pass_stage {nodes : List FunctionId} (distinct : nodes.Nodup) (s : Session) (n : Nat)
    (w : World σ) :
    let stop := stage c config ⟨s, n, .annotating nodes⟩ w (nodes.length + 1)
    ∃ after made asked, stop.1 = ⟨{ s with annotations := after }, n, .drawing⟩ ∧
      stop.2.exchanges = w.exchanges ++ made ∧ stop.2.store = w.store ∧
      Pass c.resolver s.graph s.sink nodes s.annotations after made asked := by
  induction nodes generalizing s w with
  | nil => exact ⟨s.annotations, [], [], rfl, (List.append_nil _).symm, rfl, .nil ..⟩
  | cons node nodes ih =>
    obtain ⟨new, others⟩ := List.nodup_cons.mp distinct
    obtain ⟨quiet, next, still, kept, stepped, grown, stored⟩ :=
      step_annotating c config s n node nodes w
    rw [List.length_cons, ← stage_step, stepped]
    by_cases lacking : Lacking c.resolver s.sink s.annotations node
    · obtain ⟨updates, first, more, given, annotated, consulted, opens, corrections⟩ :=
        annotate_lacking c config lacking quiet
      rw [annotated]
      dsimp only
      obtain ⟨after, made, asked, session, exchanges, store, pass⟩ :=
        ih others { s with annotations := s.annotations.merge node updates } next
      refine ⟨after, first :: more ++ made, node :: asked, session, ?_,
        store.trans (stored.trans kept), pass.cons new lacking given rfl opens corrections⟩
      rw [exchanges, grown, consulted, still, List.append_assoc]
    · obtain ⟨same, silent⟩ := annotate_served c config lacking quiet
      rw [same]
      dsimp only
      obtain ⟨after, made, asked, session, exchanges, store, pass⟩ := ih others s next
      refine ⟨after, made, asked, session, ?_, store.trans (stored.trans kept), pass.skip lacking⟩
      rw [exchanges, grown, silent, still]

end Steps

/-- An audit that starts with annotations asks once for every node that lacks findings and can get
them, in the order in which the edges mention the nodes. All of these end up with findings; the
findings of other functions and the rest of the session are as they were. -/
theorem annotated_before_drawing (c : Collaborators σ) (config : AuditConfig)
    (wanted : config.annotateOnStart = true) (s : Session) (w : World σ) :
    let stop := stage c config (start config s) w (s.graph.nodes.length + 1)
    ∃ annotations made asked, stop.1 = ⟨{ s with annotations }, 0, .drawing⟩ ∧
      stop.2.exchanges = w.exchanges ++ made ∧ stop.2.store = w.store ∧
      Mentioned (s.graph.edges.flatMap fun e => [e.caller, e.callee]) s.graph.nodes ∧
      Pass c.resolver s.graph s.sink s.graph.nodes s.annotations annotations made asked ∧
      ∀ f, f ∈ asked ↔ s.annotations.hasAny f = false ∧ annotations.hasAny f = true := by
  have begun : start config s = ⟨s, 0, .annotating s.graph.nodes⟩ := by simp [start, wanted]
  obtain ⟨annotations, made, asked, session, exchanges, store, pass⟩ :=
    pass_stage c config s.graph.nodup_nodes s 0 w
  rw [begun]
  refine ⟨annotations, made, asked, session, exchanges, store, ?_, pass, fun f => ?_⟩
  · rw [CallGraph.nodes_eq_firstMentions]
    exact mentioned_firstMentions _
  · constructor
    · exact fun member => ⟨((pass.selected f).mp member).2.bare, pass.found f member⟩
    · rintro ⟨bare, found⟩
      by_contra absent
      rw [Annotations.hasAny, pass.spared f absent, ← Annotations.hasAny, bare] at found
      contradiction

private def readableEnds : CodeBase :=
  (CodeBase.addFunction {} "a" "b(x)").addFunction "c" "d(x)"

theorem annotated_before_drawing_threeCalls :
    ∃ annotations, (stage (asking readableEnds []) {} (start {} Service.threeCalls)
        { outside := () } 5).1 = ⟨{ Service.threeCalls with annotations }, 0, .drawing⟩ ∧
      annotations.hasAny "a" = true ∧ annotations.hasAny "c" = true ∧
      annotations.get? "b" = none ∧ annotations.get? "d" = none := by
  obtain ⟨annotations, made, asked, session, -, -, -, pass, -⟩ :=
    annotated_before_drawing (asking readableEnds []) {} rfl Service.threeCalls { outside := () }
  have first : "a" ∈ asked :=
    (pass.selected "a").mpr ⟨by decide, by decide, by decide, "b(x)", rfl⟩
  have third : "c" ∈ asked :=
    (pass.selected "c").mpr ⟨by decide, by decide, by decide, "d(x)", rfl⟩
  have second : "b" ∉ asked := by
    intro member
    obtain ⟨body, read⟩ := ((pass.selected "b").mp member).2.readable
    exact absurd read nofun
  have last : "d" ∉ asked := fun member => ((pass.selected "d").mp member).2.inner rfl
  exact ⟨annotations, session, pass.found "a" first, pass.found "c" third, pass.spared "b" second,
    pass.spared "d" last⟩

end Audit

end PathAudit
