import PathAudit.Audit.Service
import PathAudit.Proofs.Graph.StalePlans
import PathAudit.Proofs.Text.ByteOrder

/-! Which callee the end of a name finds. The names found depend on which callers are asked and not
on how they are listed; they come in byte order, and the first of them is the one that is attached.
A whole name finds nothing of its own: it is the end of longer names only. -/
namespace PathAudit
open Utf8 (Before)

theorem endsWith_iff (tail s : String) : endsWith tail s = true ↔ ∃ head, s = head ++ tail := by
  rw [endsWith, List.isPrefixOf_iff_prefix, List.reverse_prefix]
  constructor
  · rintro ⟨head, whole⟩
    exact ⟨.ofList head, String.toList_inj.mp (by simp [whole])⟩
  · rintro ⟨head, rfl⟩
    exact ⟨head.toList, by simp⟩

namespace FunctionId

theorem hasTail_iff (f : FunctionId) (tail : String) :
    f.hasTail tail = true ↔ tail ≠ "" ∧ ∃ head, f = head ++ "." ++ tail := by
  rw [hasTail, Bool.and_eq_true, endsWith_iff]
  simp [String.append_assoc]

theorem not_end_of_itself (f : FunctionId) : ¬∃ head, f = head ++ "." ++ f := by
  rintro ⟨head, same⟩
  have longer := congrArg String.length same
  simp at longer

end FunctionId

def CalledBy (r : Resolver) (callers : List FunctionId) (f : FunctionId) : Prop :=
  ∃ caller ∈ callers, ∃ names, r.callees caller = .ok names ∧ f ∈ names

private theorem head?_iff_least {names : List FunctionId} (sorted : names.Pairwise (· < ·))
    (f : FunctionId) : names.head? = some f ↔ f ∈ names ∧ ∀ other ∈ names, ¬other < f := by
  cases names with
  | nil => simp
  | cons first others =>
    have least : ∀ other ∈ others, first < other := (List.pairwise_cons.mp sorted).1
    rw [List.head?_cons, Option.some.injEq]
    constructor
    · rintro rfl
      refine ⟨List.mem_cons_self, fun other member below => ?_⟩
      rcases List.mem_cons.mp member with rfl | later
      · exact String.lt_irrefl _ below
      · exact String.lt_asymm below (least other later)
    · rintro ⟨member, lowest⟩
      rcases List.mem_cons.mp member with same | later
      · exact same.symm
      · exact absurd (least f later) (lowest first List.mem_cons_self)

section Matching
variable (r : Resolver) (suffix : String) (callers : List FunctionId)

theorem mem_matchingCallees (f : FunctionId) :
    f ∈ matchingCallees r suffix callers ↔ f.hasTail suffix = true ∧ CalledBy r callers f := by
  rw [matchingCallees, mem_keys_sortMembers, List.map_map]
  simp only [Function.comp_def, List.map_id', List.mem_flatMap, CalledBy]
  constructor
  · rintro ⟨caller, asked, found⟩
    split at found
    next names known =>
      obtain ⟨called, ends⟩ := List.mem_filter.mp found
      exact ⟨ends, caller, asked, names, known, called⟩
    next => contradiction
  · rintro ⟨ends, caller, asked, names, known, called⟩
    refine ⟨caller, asked, ?_⟩
    rw [known]
    exact List.mem_filter.mpr ⟨called, ends⟩

theorem pairwise_matchingCallees : (matchingCallees r suffix callers).Pairwise (· < ·) :=
  increasing_sortMembers _

theorem head?_matchingCallees (f : FunctionId) :
    (matchingCallees r suffix callers).head? = some f ↔
      (f.hasTail suffix = true ∧ CalledBy r callers f) ∧
        ∀ other, other.hasTail suffix = true ∧ CalledBy r callers other → ¬other < f := by
  rw [head?_iff_least (pairwise_matchingCallees r suffix callers)]
  simp only [mem_matchingCallees]

theorem matchingCallees_eq {r other : Resolver} {callers others : List FunctionId}
    (same : ∀ f, CalledBy r callers f ↔ CalledBy other others f) :
    matchingCallees r suffix callers = matchingCallees other suffix others := by
  have left := pairwise_matchingCallees r suffix callers
  have right := pairwise_matchingCallees other suffix others
  refine List.Perm.eq_of_pairwise ?_ left right ?_
  · intro a b _ _ less more
    exact absurd more (String.lt_asymm less)
  · refine (List.perm_ext_iff_of_nodup (left.imp ne_of_lt) (right.imp ne_of_lt)).mpr fun f => ?_
    simp only [mem_matchingCallees, same]

theorem matchingCallees_congr {callers others : List FunctionId}
    (same : ∀ f, f ∈ callers ↔ f ∈ others) :
    matchingCallees r suffix callers = matchingCallees r suffix others :=
  matchingCallees_eq suffix fun f => by simp only [CalledBy, same]

end Matching

namespace ExtendPlan

/-- Two preparations that come to the same: both are refused for the same reason, or both attach
the same callee with the same edges. -/
inductive Agree : Except MutationError ExtendPlan → Except MutationError ExtendPlan → Prop
  | refused (e other : MutationError) (code : e.code = other.code) :
      Agree (.error e) (.error other)
  | prepared (plan other : ExtendPlan) (resolved : plan.resolved = other.resolved)
      (candidates : plan.candidates = other.candidates) (body : plan.body = other.body)
      (edges : ∀ e, e ∈ plan.newEdges ↔ e ∈ other.newEdges) : Agree (.ok plan) (.ok other)

section Callers
variable {callers others : List FunctionId}

private theorem lacking_congr (g : CallGraph) (same : ∀ f, f ∈ callers ↔ f ∈ others) :
    (callers.isEmpty || !(callers.filter (!g.contains ·)).isEmpty) =
      (others.isEmpty || !(others.filter (!g.contains ·)).isEmpty) := by
  have empty : callers = [] ↔ others = [] := by simp only [List.eq_nil_iff_forall_not_mem, same]
  rw [Bool.eq_iff_iff, ← not_iff_not, Bool.not_eq_true, Bool.not_eq_true, lacking_eq_false_iff,
    lacking_eq_false_iff]
  simp only [ne_eq, empty, same]

theorem prepare_agree (g : CallGraph) (r : Resolver) (suffix : String)
    (same : ∀ f, f ∈ callers ↔ f ∈ others) :
    Agree (prepare g r suffix callers) (prepare g r suffix others) := by
  unfold prepare
  dsimp only
  rw [lacking_congr g same, matchingCallees_congr r suffix same]
  split
  · exact .refused _ _ rfl
  split
  · exact .refused _ _ rfl
  split
  · exact .refused _ _ rfl
  split
  · exact .refused _ _ rfl
  · refine .prepared _ _ rfl rfl rfl fun e => ?_
    simp only [List.mem_map, List.mem_filter, mem_firstMentions, same]

end Callers

theorem prepare_congr {r other : Resolver} (bodies : ∀ f, r.body f = other.body f)
    (callees : ∀ callers f, CalledBy r callers f ↔ CalledBy other callers f) (g : CallGraph)
    (suffix : String) (callers : List FunctionId) :
    prepare g r suffix callers = prepare g other suffix callers := by
  unfold prepare
  simp only [matchingCallees_eq suffix (callees callers), bodies]

theorem exists_prepared_iff (g : CallGraph) (r : Resolver) (suffix : String)
    (callers : List FunctionId) (f : FunctionId) :
    (∃ plan, prepare g r suffix callers = .ok plan ∧ plan.resolved = f) ↔
      (callers ≠ [] ∧ ∀ caller ∈ callers, g.contains caller = true) ∧
      (g.contains f = false ∧ ∃ body, r.body f = .ok body) ∧
      (f.hasTail suffix = true ∧ CalledBy r callers f) ∧
      ∀ other, other.hasTail suffix = true ∧ CalledBy r callers other → ¬other < f := by
  rw [← head?_matchingCallees]
  simp only [prepare_eq_ok_iff]
  constructor
  · rintro ⟨plan, ready, rfl⟩
    exact ⟨⟨ready.asked, ready.known⟩, ⟨ready.fresh, _, ready.body⟩,
      ready.candidates ▸ ready.first⟩
  · rintro ⟨⟨asked, known⟩, ⟨fresh, body, held⟩, first⟩
    let plan : ExtendPlan := ⟨f, matchingCallees r suffix callers, body,
      (firstMentions callers).map (CallEdge.calls · f)⟩
    exact ⟨plan, ⟨asked, known, rfl, first, fresh, held, rfl⟩, rfl⟩

theorem prepare_of_unmatched (g : CallGraph) (r : Resolver) (suffix : String)
    (callers : List FunctionId) (asked : callers ≠ [])
    (known : ∀ f ∈ callers, g.contains f = true) (none : matchingCallees r suffix callers = []) :
    prepare g r suffix callers = .error (.unresolvedFunction suffix callers) := by
  have complete := (lacking_eq_false_iff g callers).mpr ⟨asked, known⟩
  simp only [prepare, complete, none]
  rfl

/-- Callers listed in another order or more than once make no difference to what is attached. All
callees with the given end are candidates, whoever of the callers calls them; the one that comes
first in byte order is attached to each caller once, in the order in which the callers are first
mentioned. -/
theorem prepare_by_callers (g : CallGraph) (r : Resolver) (suffix : String)
    (callers others : List FunctionId) (same : ∀ f, f ∈ callers ↔ f ∈ others) :
    Agree (prepare g r suffix callers) (prepare g r suffix others) ∧
    ∀ plan, prepare g r suffix callers = .ok plan →
      plan.candidates.Pairwise Before ∧
      (∀ f, f ∈ plan.candidates ↔
        (suffix ≠ "" ∧ ∃ head, f = head ++ "." ++ suffix) ∧ CalledBy r callers f) ∧
      plan.candidates.head? = some plan.resolved ∧ g.contains plan.resolved = false ∧
      ∃ names, Mentioned callers names ∧
        plan.newEdges = names.map fun f => ⟨f, plan.resolved, "calls"⟩ := by
  refine ⟨prepare_agree g r suffix same, fun plan prepared => ?_⟩
  have ready := (prepare_eq_ok_iff ..).mp prepared
  refine ⟨?_, fun f => ?_, ready.first, ready.fresh, _, mentioned_firstMentions callers,
    ready.edges⟩
  · rw [ready.candidates]
    exact (pairwise_matchingCallees r suffix callers).imp (Utf8.before_iff _ _).mpr
  · rw [ready.candidates, mem_matchingCallees, FunctionId.hasTail_iff]

theorem prepare_by_callers_entered :
    let r := callOfHelper.resolver.failing [] ["b"] "out of reach"
    (∀ f, f ∈ ["d", "b", "a", "d"] ↔ f ∈ ["a", "b", "d"]) ∧
      Agree (prepare CompressPlan.entered r "helper" ["d", "b", "a", "d"])
        (prepare CompressPlan.entered r "helper" ["a", "b", "d"]) ∧
      ∃ plan, prepare CompressPlan.entered r "helper" ["d", "b", "a", "d"] = .ok plan ∧
        plan.candidates = ["m.helper"] ∧
        plan.newEdges = [.calls "d" "m.helper", .calls "b" "m.helper", .calls "a" "m.helper"] ∧
        plan.candidates.head? = some plan.resolved := by
  intro r
  have same : ∀ f, f ∈ ["d", "b", "a", "d"] ↔ f ∈ ["a", "b", "d"] := by
    intro f
    simp only [List.mem_cons, List.not_mem_nil, or_false]
    tauto
  have prepared : prepare CompressPlan.entered r "helper" ["d", "b", "a", "d"] =
      .ok ⟨"m.helper", ["m.helper"], "def helper(): pass",
        [.calls "d" "m.helper", .calls "b" "m.helper", .calls "a" "m.helper"]⟩ := by rfl
  obtain ⟨agree, attached⟩ := prepare_by_callers CompressPlan.entered r "helper"
    ["d", "b", "a", "d"] ["a", "b", "d"] same
  obtain ⟨-, -, first, -⟩ := attached _ prepared
  exact ⟨same, agree, _, prepared, rfl, rfl, first⟩

end ExtendPlan

namespace Service
variable {σ : Type}

/-- A callee that is listed and could be attached is never found by its own name, whoever else is
listed; what finds it are the ends of its name that begin after a dot, unless they are the ends of
a listed name that comes before it. -/
theorem listed_found_iff (c : Collaborators σ) (g : CallGraph) (caller f : FunctionId)
    (names : List FunctionId) (node : g.contains caller = true)
    (called : c.resolver.callees caller = .ok names) (listed : f ∈ names)
    (fresh : g.contains f = false) (retrievable : ∃ body, c.resolver.body f = .ok body) :
    listCallees c caller = ⟨joined "\n" names, false⟩ ∧
      (∀ plan, ExtendPlan.prepare g c.resolver f [caller] = .ok plan → plan.resolved ≠ f) ∧
      ((∀ other ∈ names, ¬∃ head, other = head ++ "." ++ f) →
        ExtendPlan.prepare g c.resolver f [caller] = .error (.unresolvedFunction f [caller])) ∧
      ∀ tail, (∃ plan, ExtendPlan.prepare g c.resolver tail [caller] = .ok plan ∧
          plan.resolved = f) ↔
        (tail ≠ "" ∧ ∃ head, f = head ++ "." ++ tail) ∧
          ∀ other ∈ names, (∃ head, other = head ++ "." ++ tail) → ¬Before other f := by
  have calls (other : FunctionId) : CalledBy c.resolver [caller] other ↔ other ∈ names := by
    simp [CalledBy, called]
  have found (tail : String) : (∃ plan, ExtendPlan.prepare g c.resolver tail [caller] = .ok plan ∧
      plan.resolved = f) ↔ f.hasTail tail = true ∧
        ∀ other ∈ names, other.hasTail tail = true → ¬other < f := by
    rw [ExtendPlan.exists_prepared_iff]
    simp only [calls, and_imp]
    constructor
    · rintro ⟨-, -, ⟨ends, -⟩, least⟩
      exact ⟨ends, fun other member matched => least other matched member⟩
    · rintro ⟨ends, least⟩
      refine ⟨⟨List.cons_ne_nil _ _, by simpa using node⟩, ⟨fresh, retrievable⟩, ⟨ends, listed⟩, ?_⟩
      exact fun other matched member => least other member matched
  refine ⟨?_, fun plan prepared same => ?_, fun unmatched => ?_, fun tail => ?_⟩
  · unfold listCallees
    rw [called]
    cases names with
    | nil => contradiction
    | cons first others => rfl
  · have ends := ((found f).mp ⟨plan, prepared, same⟩).1
    exact f.not_end_of_itself ((f.hasTail_iff f).mp ends).2
  · have none : matchingCallees c.resolver f [caller] = [] := by
      rw [List.eq_nil_iff_forall_not_mem]
      intro other member
      obtain ⟨ends, member⟩ := (mem_matchingCallees ..).mp member
      exact unmatched other ((calls other).mp member) ((other.hasTail_iff f).mp ends).2
    exact ExtendPlan.prepare_of_unmatched g c.resolver f [caller] (List.cons_ne_nil _ _)
      (by simpa using node) none
  · rw [found]
    simp only [FunctionId.hasTail_iff, Utf8.before_iff]
    refine and_congr_right fun ends => ?_
    simp only [ne_eq, ends.1, not_false_iff, true_and]

def unattended (code : CodeBase) : Collaborators Unit where
  resolver := code.resolver
  model _ := ""
  ask _ _ _ outside := (.ok [], outside)
  draw _ _ _ outside := (.error (.graphviz "no drawings"), outside)

theorem listed_found_helper :
    let c := unattended callOfHelper
    CompressPlan.entered.contains "a" = true ∧ c.resolver.callees "a" = .ok ["m.helper"] ∧
      CompressPlan.entered.contains "m.helper" = false ∧
      (∃ body, c.resolver.body "m.helper" = .ok body) ∧
      listCallees c "a" = ⟨"m.helper", false⟩ ∧
      ExtendPlan.prepare CompressPlan.entered c.resolver "m.helper" ["a"] =
        .error (.unresolvedFunction "m.helper" ["a"]) ∧
      ∃ plan, ExtendPlan.prepare CompressPlan.entered c.resolver "helper" ["a"] = .ok plan ∧
        plan.resolved = "m.helper" := by
  intro c
  have node : CompressPlan.entered.contains "a" = true := by decide
  have called : c.resolver.callees "a" = .ok ["m.helper"] := rfl
  have fresh : CompressPlan.entered.contains "m.helper" = false := by decide
  have retrievable : ∃ body, c.resolver.body "m.helper" = .ok body := ⟨"def helper(): pass", rfl⟩
  obtain ⟨printed, -, unfound, found⟩ := listed_found_iff c CompressPlan.entered "a" "m.helper"
    ["m.helper"] node called List.mem_cons_self fresh retrievable
  refine ⟨node, called, fresh, retrievable, printed, unfound ?_, (found "helper").mpr ⟨?_, ?_⟩⟩
  · intro other member
    rw [List.mem_singleton.mp member]
    exact FunctionId.not_end_of_itself "m.helper"
  · exact ⟨by decide, "m", rfl⟩
  · intro other member _
    rw [List.mem_singleton.mp member, Utf8.before_iff]
    exact String.lt_irrefl _

theorem listed_not_found :
    ¬∀ (c : Collaborators Unit) (g : CallGraph) (caller f : FunctionId) (names : List FunctionId),
      g.contains caller = true → c.resolver.callees caller = .ok names → f ∈ names →
      g.contains f = false → (∃ body, c.resolver.body f = .ok body) →
      ∃ plan, ExtendPlan.prepare g c.resolver f [caller] = .ok plan ∧ plan.resolved = f := by
  intro always
  obtain ⟨plan, prepared, -⟩ := always (unattended callOfHelper) CompressPlan.entered "a" "m.helper"
    ["m.helper"] (by decide) rfl List.mem_cons_self (by decide) ⟨"def helper(): pass", rfl⟩
  have refused : ExtendPlan.prepare CompressPlan.entered (unattended callOfHelper).resolver
      "m.helper" ["a"] = .error (.unresolvedFunction "m.helper" ["a"]) := by rfl
  rw [refused] at prepared
  contradiction

end Service

end PathAudit
