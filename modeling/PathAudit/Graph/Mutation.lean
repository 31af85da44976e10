import PathAudit.Graph.Annotations
import PathAudit.Graph.CallGraph
import PathAudit.Graph.MutationError
import PathAudit.Graph.Resolver
import PathAudit.Notice

/-! Changes of a path's graph and findings, in two halves. `prepare` checks everything against the
current graph and gives a plan; `apply` commits a plan to a graph, which may have changed since,
all of it or not at all. -/
namespace PathAudit

/-- Callees of all callers that end in the given tail, in increasing order, each once. -/
def matchingCallees (r : Resolver) (suffix : String) (callers : List FunctionId) :
    List FunctionId :=
  let found := callers.flatMap fun caller =>
    match r.callees caller with
    | .ok names => names.filter (·.hasTail suffix)
    | .error _ => []
  (sortMembers (found.map fun f => (f, ()))).map (·.1)

def firstMentions (names : List FunctionId) : List FunctionId :=
  names.foldl (fun seen f => if seen.contains f then seen else seen ++ [f]) []

/-- A callee found and ready to be attached to its callers. More than one candidate means that the
least name was picked. -/
structure ExtendPlan where
  resolved : FunctionId
  candidates : List FunctionId
  body : String
  newEdges : List CallEdge
  deriving DecidableEq, Repr, Inhabited

namespace ExtendPlan

def prepare (g : CallGraph) (r : Resolver) (suffix : String) (callers : List FunctionId) :
    Except MutationError ExtendPlan :=
  let missing := callers.filter (!g.contains ·)
  if callers.isEmpty || !missing.isEmpty then .error (.unknownCaller missing)
  else
    match matchingCallees r suffix callers with
    | [] => .error (.unresolvedFunction suffix callers)
    | resolved :: others =>
      if g.contains resolved then .error (.alreadyPresent resolved)
      else
        match r.body resolved with
        | .error _ => .error (.noSuchFunction resolved)
        | .ok body =>
          let news := (firstMentions callers).filter (!g.hasEdge · resolved)
          .ok ⟨resolved, resolved :: others, body, news.map (CallEdge.calls · resolved)⟩

/-- What `prepare` warns of: lookups that failed for a reason other than an unknown name. -/
def notices (g : CallGraph) (r : Resolver) (suffix : String) (callers : List FunctionId) :
    List Notice :=
  let target := "aegis_graph::mutation"
  if callers.isEmpty || callers.any (!g.contains ·) then []
  else
    let lookups := callers.filterMap fun caller =>
      match r.callees caller with
      | .ok _ => none
      | .error e =>
        some (.warn target "callee lookup failed"
          [Notice.shown "caller" caller, Notice.shown "error" e.message])
    let bodies :=
      match matchingCallees r suffix callers with
      | [] => []
      | resolved :: _ =>
        if g.contains resolved then []
        else
          match r.body resolved with
          | .error (.backend reason) =>
            r.notices resolved ++ [.warn target "body lookup failed"
              [Notice.shown "function" resolved,
                Notice.shown "error" (ResolveError.backend reason).message]]
          | _ => r.notices resolved
    lookups ++ bodies

def isAmbiguous (p : ExtendPlan) : Bool := 1 < p.candidates.length

/-- Appends the new edges, or fails when one of the pairs is connected by now. -/
def apply (p : ExtendPlan) (g : CallGraph) : Except MutationError CallGraph :=
  match p.newEdges.find? fun e => g.hasEdge e.caller e.callee with
  | some e => .error (.duplicateEdge e.caller e.callee)
  | none =>
    p.newEdges.foldlM
      (fun g e =>
        match g.addEdge? e with
        | some g => .ok g
        | none => .error (.duplicateEdge e.caller e.callee)) g

end ExtendPlan

structure CompressPlan where
  removed : List (FunctionId × FunctionId)
  replacement : CallEdge
  deriving DecidableEq, Repr, Inhabited

namespace CompressPlan

def steps : List FunctionId → List (FunctionId × FunctionId)
  | a :: b :: rest => (a, b) :: steps (b :: rest)
  | _ => []

/-- The first link of the chain `before :: functions` that is not the only connection of its
function; the last function is no link. -/
def findBranching (g : CallGraph) (before : FunctionId) : List FunctionId → Option FunctionId
  | f :: after :: rest =>
    if g.callers f = [before] ∧ g.callees f = [after] then findBranching g f (after :: rest)
    else some f
  | _ => none

def fillLabel (label : String) (start : FunctionId) (intermediates : List FunctionId)
    (finish : FunctionId) : String :=
  let label := substituted "\x7bintermediate_functions\x7d" (FunctionId.chained intermediates) label
  let label := substituted "\x7bstart_function\x7d" start label
  substituted "\x7bend_function\x7d" finish label

def prepare (g : CallGraph) (start : FunctionId) (intermediates : List FunctionId)
    (finish : FunctionId) (label : String) : Except MutationError CompressPlan :=
  let chain := start :: intermediates ++ [finish]
  let missing := firstMentions (chain.filter (!g.contains ·))
  if intermediates.isEmpty then .error .emptyIntermediates
  else if !missing.isEmpty then .error (.unknownFunction missing)
  else
    match (steps chain).find? fun (caller, callee) => !g.hasEdge caller callee with
    | some (caller, callee) => .error (.brokenChain caller callee)
    | none =>
      match findBranching g start (intermediates ++ [finish]) with
      | some f => .error (.notLinear f (g.callers f) (g.callees f))
      | none =>
        if g.hasEdge start finish then .error (.duplicateEdge start finish)
        else .ok ⟨steps chain, ⟨start, finish, fillLabel label start intermediates finish⟩⟩

/-- Removes the chain and appends the replacement, or fails when its pair is connected by now. -/
def apply (p : CompressPlan) (g : CallGraph) : Except MutationError CallGraph :=
  match (g.removeEdges p.removed).addEdge? p.replacement with
  | some next => .ok next
  | none => .error (.duplicateEdge p.replacement.caller p.replacement.callee)

end CompressPlan

structure AmendPlan where
  function : FunctionId
  updates : Findings

namespace AmendPlan

private def allowed : String := joined ", " (FindingKind.amendable.map (·.name))

private def amendable? (key : String) : Option FindingKind :=
  (FindingKind.ofName? key).filter (·.isAmendable)

def prepare (g : CallGraph) (f : FunctionId) (updates : Dict String) :
    Except MutationError AmendPlan :=
  let invalid := updates.keys.filter fun key => (amendable? key).isNone
  if !g.contains f then .error (.unknownFunction [f])
  else if updates.isEmpty then
    .error (.invalidUpdate ("updates must contain at least one of: " ++ allowed) [])
  else if !invalid.isEmpty then
    .error (.invalidUpdate
      ("unsupported keys [" ++ joined ", " invalid ++ "]; allowed: " ++ allowed) invalid)
  else
    let entries := updates.entries.filterMap fun (key, text) => (amendable? key).map (·, text)
    .ok ⟨f, .ofList entries⟩

theorem prepare_congr {g other : CallGraph} {f : FunctionId}
    (same : other.contains f = g.contains f) (updates : Dict String) :
    prepare other f updates = prepare g f updates := by
  simp only [prepare, same]

section Prepared
variable {g : CallGraph} {f : FunctionId} {updates : Dict String} {plan : AmendPlan}

theorem contains_of_prepared (prepared : prepare g f updates = .ok plan) : g.contains f = true := by
  cases node : g.contains f with
  | true => rfl
  | false => simp [prepare, node] at prepared

theorem updates_of_prepared (prepared : prepare g f updates = .ok plan) :
    ∃ entries, plan.updates = .ofList entries ∧ ∀ entry ∈ entries,
      entry.1.name ∈ updates.keys ∧ entry.1.isAmendable = true := by
  unfold prepare at prepared
  dsimp only at prepared
  split at prepared
  · contradiction
  split at prepared
  · contradiction
  split at prepared
  · contradiction
  cases Except.ok.inj prepared
  refine ⟨_, rfl, ?_⟩
  intro entry member
  obtain ⟨update, given, made⟩ := List.mem_filterMap.mp member
  obtain ⟨kind, known, rfl⟩ := Option.map_eq_some_iff.mp made
  obtain ⟨named, amendable⟩ := Option.filter_eq_some_iff.mp known
  rw [FindingKind.name_of_ofName? named]
  exact ⟨List.mem_map_of_mem given, amendable⟩

theorem admitted_of_prepared (prepared : prepare g f updates = .ok plan) :
    plan.updates.Admitted := by
  obtain ⟨entries, written, known⟩ := updates_of_prepared prepared
  rw [written]
  exact Findings.admitted_ofList fun entry member => (known entry member).2

theorem asked_of_prepared (prepared : prepare g f updates = .ok plan) {kind : FindingKind}
    {text : String} (written : plan.updates.get? kind = some text) : kind.name ∈ updates.keys := by
  obtain ⟨entries, same, known⟩ := updates_of_prepared prepared
  rw [same] at written
  exact (known _ (Findings.mem_of_get?_ofList written)).1

end Prepared

def apply (p : AmendPlan) (a : Annotations) : Annotations :=
  Annotations.merge a p.function p.updates

end AmendPlan

end PathAudit
