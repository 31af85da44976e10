import PathAudit.Proofs.Graph.Resolution
import PathAudit.Proofs.Store.Numbering
import PathAudit.Store.Sources

/-! The same code base held in memory and kept in the index. However definitions and calls follow
each other, both answer from the last definition of a function; the calls of a function stand in
memory as they were added and in the index once each. That makes no difference to which callee is
found and attached. -/
namespace PathAudit

inductive CodeEntry where
  | definition (f : FunctionId) (body : String)
  | call (caller callee : FunctionId)
  deriving DecidableEq, Repr, Inhabited

namespace CodeEntry

def inMemory (c : CodeBase) : CodeEntry → CodeBase
  | .definition f body => c.addFunction f body
  | .call caller callee => c.addCall caller callee

def inIndex (s : Store) : CodeEntry → Store
  | .definition f body => s.upsertFunction { name := f, body := some body }
  | .call caller callee => s.addCall caller callee

def body? (f : FunctionId) : CodeEntry → Option String
  | .definition g body => if g = f then some body else none
  | .call _ _ => none

def callee? (f : FunctionId) : CodeEntry → Option FunctionId
  | .definition _ _ => none
  | .call caller callee => if caller = f then some callee else none

end CodeEntry

section Loads
variable (entries : List CodeEntry)

def heldInMemory : CodeBase := entries.foldl CodeEntry.inMemory {}

def keptInIndex : Store := entries.foldl CodeEntry.inIndex {}

def lastBody? (f : FunctionId) : Option String := (entries.filterMap (·.body? f)).getLast?

def loadedBody (f : FunctionId) : Except ResolveError String :=
  match lastBody? entries f with
  | some body => .ok body
  | none => .error (.notFound f)

def addedCallees (f : FunctionId) : List FunctionId := entries.filterMap (·.callee? f)

variable (e : CodeEntry) (f : FunctionId)

theorem heldInMemory_append :
    heldInMemory (entries ++ [e]) = CodeEntry.inMemory (heldInMemory entries) e := by
  simp [heldInMemory]

theorem keptInIndex_append :
    keptInIndex (entries ++ [e]) = CodeEntry.inIndex (keptInIndex entries) e := by
  simp [keptInIndex]

theorem lastBody?_append :
    lastBody? (entries ++ [e]) f = (e.body? f).or (lastBody? entries f) := by
  cases given : e.body? f with
  | none => simp [lastBody?, given]
  | some body => simp [lastBody?, given]

theorem addedCallees_append :
    addedCallees (entries ++ [e]) f = addedCallees entries f ++ (e.callee? f).toList := by
  cases given : e.callee? f with
  | none => simp [addedCallees, given]
  | some callee => simp [addedCallees, given]

end Loads

section Memory
variable (entries : List CodeEntry) (f : FunctionId)

private theorem get?_heldInMemory :
    (heldInMemory entries).bodies.get? f = lastBody? entries f := by
  induction entries using List.reverseRecOn with
  | nil => rfl
  | append_singleton entries e ih =>
    rw [heldInMemory_append, lastBody?_append, ← ih]
    cases e with
    | definition g body =>
      by_cases same : g = f
      · simp [CodeEntry.inMemory, CodeBase.addFunction, CodeEntry.body?, same]
      · simp [CodeEntry.inMemory, CodeBase.addFunction, CodeEntry.body?, same, Ne.symm same]
    | call caller callee => simp [CodeEntry.inMemory, CodeBase.addCall, CodeEntry.body?]

theorem body_heldInMemory : (heldInMemory entries).resolver.body f = loadedBody entries f := by
  rw [loadedBody, ← get?_heldInMemory]
  rfl

theorem callees_heldInMemory :
    (heldInMemory entries).resolver.callees f = .ok (addedCallees entries f) := by
  simp only [CodeBase.resolver, Except.ok.injEq]
  induction entries using List.reverseRecOn with
  | nil => rfl
  | append_singleton entries e ih =>
    rw [heldInMemory_append, addedCallees_append, ← ih]
    cases e with
    | definition g body => simp [CodeEntry.inMemory, CodeBase.addFunction, CodeEntry.callee?]
    | call caller callee =>
      by_cases same : caller = f
      · simp [CodeEntry.inMemory, CodeBase.addCall, CodeEntry.callee?, same]
      · simp [CodeEntry.inMemory, CodeBase.addCall, CodeEntry.callee?, same]

end Memory

section Index
variable {entries : List CodeEntry} {f : FunctionId}

theorem Store.find?_upsert {ρ : Type} {key : ρ → Cell} {row : ρ} {name : String}
    (named : key row = .text name) (rows : List ρ) (f : String) :
    (upsert key row rows).find? (fun r => (key r).equals (.text f)) =
      if name = f then some row else rows.find? fun r => (key r).equals (.text f) := by
  have here : (key row).equals (.text f) = decide (name = f) := by rw [named, Cell.equals_text]
  induction rows with
  | nil => by_cases same : name = f <;> simp [upsert, here, same]
  | cons r rows ih =>
    rw [upsert, named]
    split
    next known =>
      rw [Cell.equals_text_iff] at known
      by_cases same : name = f <;> simp [here, known, same]
    next other =>
      rw [List.find?_cons, List.find?_cons, ih]
      cases found : (key r).equals (.text f) with
      | false => rfl
      | true =>
        rw [Cell.equals_text_iff] at found
        have apart : name ≠ f := by
          rintro rfl
          exact other (by rw [found, Cell.equals_text, decide_eq_true_iff])
        simp [apart]

/-- What the index holds of the pieces loaded. -/
structure Mirrors (entries : List CodeEntry) (s : Store) : Prop where
  bodies (f : FunctionId) : s.functions.find? (fun row => row.name.equals (.text f)) =
    (lastBody? entries f).map fun body => FunctionEntry.row { name := f, body := some body }
  calls (f : FunctionId) : (s.calls.filter fun row => row.caller.equals (.text f)) =
    (firstMentions (addedCallees entries f)).map fun callee => ⟨.text f, .text callee⟩

theorem Mirrors.hasCall {s : Store} (held : Mirrors entries s) (caller callee : FunctionId) :
    s.hasCall ⟨.text caller, .text callee⟩ =
      (firstMentions (addedCallees entries caller)).contains callee := by
  have calls := congrArg (List.any · fun row => row.callee.equals (.text callee))
    (held.calls caller)
  rw [List.any_filter, List.any_map] at calls
  simp only [Function.comp_def, Cell.equals_text] at calls
  rw [Store.hasCall, calls, Bool.eq_iff_iff, List.any_eq_true, List.contains_iff_mem]
  simp

theorem Mirrors.load {s : Store} (held : Mirrors entries s) (e : CodeEntry) :
    Mirrors (entries ++ [e]) (CodeEntry.inIndex s e) := by
  cases e with
  | definition g body =>
    have named : (FunctionEntry.row { name := g, body := some body }).name = .text g := rfl
    refine ⟨fun f => ?_, fun f => ?_⟩
    · rw [lastBody?_append, CodeEntry.inIndex, Store.upsertFunction,
        Store.find?_upsert named s.functions f, held.bodies f]
      by_cases same : g = f
      · subst same
        simp [CodeEntry.body?]
      · simp [CodeEntry.body?, same]
    · rw [addedCallees_append, CodeEntry.callee?, Option.toList_none, List.append_nil]
      exact held.calls f
  | call caller callee =>
    have bodies (f : FunctionId) :
        lastBody? (entries ++ [.call caller callee]) f = lastBody? entries f := by
      rw [lastBody?_append]
      rfl
    -- The index refuses a call exactly when memory's list has mentioned the callee before.
    rw [CodeEntry.inIndex, Store.addCall, held.hasCall]
    split
    next known =>
      refine ⟨fun f => by rw [bodies]; exact held.bodies f, fun f => ?_⟩
      rw [held.calls, addedCallees_append]
      by_cases same : caller = f
      · subst same
        simp only [CodeEntry.callee?, if_true, Option.toList_some, firstMentions_append,
          if_pos known]
      · simp [CodeEntry.callee?, same]
    next new =>
      refine ⟨fun f => by rw [bodies]; exact held.bodies f, fun f => ?_⟩
      rw [List.filter_append, held.calls, addedCallees_append]
      by_cases same : caller = f
      · subst same
        simp only [CodeEntry.callee?, if_true, Option.toList_some, firstMentions_append,
          if_neg new]
        simp
      · simp [CodeEntry.callee?, same]

theorem mirrors_keptInIndex (entries : List CodeEntry) : Mirrors entries (keptInIndex entries) := by
  induction entries using List.reverseRecOn with
  | nil => exact ⟨fun _ => rfl, fun _ => rfl⟩
  | append_singleton entries e ih =>
    rw [keptInIndex_append]
    exact ih.load e

theorem function?_keptInIndex (entries : List CodeEntry) (f : FunctionId) :
    (keptInIndex entries).function? f =
      .ok ((lastBody? entries f).map fun body => { name := f, body := some body }) := by
  rw [Store.function?, (mirrors_keptInIndex entries).bodies]
  cases lastBody? entries f <;> rfl

private theorem mem_of_lastBody? {body : String} (last : lastBody? entries f = some body) :
    .definition f body ∈ entries := by
  obtain ⟨e, member, given⟩ := List.mem_filterMap.mp (List.mem_of_getLast? last)
  cases e with
  | definition g other =>
    obtain ⟨rfl, same⟩ := Option.ite_none_right_eq_some.mp given
    cases Option.some.inj same
    exact member
  | call caller callee => contradiction

theorem body_keptInIndex (plain : ∀ body, .definition f body ∈ entries → f.isModuleLevel = false)
    (files : Files) : ((keptInIndex entries).resolver files).body f = loadedBody entries f := by
  have written : (keptInIndex entries).written files f = loadedBody entries f := by
    rw [Store.written, function?_keptInIndex, loadedBody]
    cases lastBody? entries f <;> rfl
  unfold Store.resolver
  dsimp only
  rw [written, loadedBody]
  cases last : lastBody? entries f with
  | none => rfl
  | some body => simp [bind, Except.bind, plain body (mem_of_lastBody? last)]

theorem callees_keptInIndex (entries : List CodeEntry) (f : FunctionId) (files : Files) :
    ((keptInIndex entries).resolver files).callees f =
      .ok (firstMentions (addedCallees entries f)) := by
  have read (names : List FunctionId) :
      (names.map fun callee => CallRow.mk (.text f) (.text callee)).mapM
        (fun row => (row.callee.readText 0 "callee").mapError (StoreError.corrupt "calls")) =
        .ok names := by
    induction names with
    | nil => rfl
    | cons callee names ih =>
      rw [List.map_cons, List.mapM_cons, ih]
      rfl
  unfold Store.resolver
  dsimp only
  rw [Store.calleesOf, (mirrors_keptInIndex entries).calls, read]
  rfl

end Index

/-- Whatever is loaded, in whatever order, the code base in memory and the one in the index have the
same bodies; the index lists each callee once, where memory mentions it first; and every
preparation comes to the same with either. -/
theorem loaded_alike (entries : List CodeEntry) (files : Files)
    (plain : ∀ f body, .definition f body ∈ entries → f.isModuleLevel = false) :
    let memory := (heldInMemory entries).resolver
    let index := (keptInIndex entries).resolver files
    (∀ f, memory.body f = loadedBody entries f ∧ index.body f = loadedBody entries f) ∧
      (∀ f, ∃ once, memory.callees f = .ok (addedCallees entries f) ∧ index.callees f = .ok once ∧
        Mentioned (addedCallees entries f) once) ∧
      ∀ g suffix callers,
        ExtendPlan.prepare g memory suffix callers = ExtendPlan.prepare g index suffix callers := by
  have held (f : FunctionId) := body_heldInMemory entries f
  have kept (f : FunctionId) := body_keptInIndex (plain f) files
  have called := callees_heldInMemory entries
  have listed (f : FunctionId) := callees_keptInIndex entries f files
  refine ⟨fun f => ⟨held f, kept f⟩, fun f => ?_, ?_⟩
  · exact ⟨_, called f, listed f, mentioned_firstMentions _⟩
  · refine ExtendPlan.prepare_congr (fun f => (held f).trans (kept f).symm) fun callers f => ?_
    simp only [CalledBy, called, listed, Except.ok.injEq, exists_eq_left', mem_firstMentions]

private def redefined : List CodeEntry :=
  [.definition "m.helper" "old", .call "main" "m.helper", .call "main" "n.other",
    .definition "m.helper" "new", .call "main" "m.helper"]

theorem loaded_alike_redefined :
    let index := (keptInIndex redefined).resolver {}
    index.body "m.helper" = .ok "new" ∧
      (∃ once, index.callees "main" = .ok once ∧
        Mentioned ["m.helper", "n.other", "m.helper"] once) ∧
      ExtendPlan.prepare ⟨[.calls "main" "eval"]⟩ index "helper" ["main"] =
        .ok ⟨"m.helper", ["m.helper"], "new", [.calls "main" "m.helper"]⟩ := by
  have plain : ∀ f body, .definition f body ∈ redefined → f.isModuleLevel = false := by
    intro f body member
    have named : f = "m.helper" := by
      simp only [redefined, List.mem_cons, CodeEntry.definition.injEq, reduceCtorEq, false_or,
        List.not_mem_nil, or_false] at member
      rcases member with ⟨named, -⟩ | ⟨named, -⟩ <;> exact named
    rw [named]
    decide
  obtain ⟨bodies, callees, plans⟩ := loaded_alike redefined {} plain
  obtain ⟨once, -, listed, mentioned⟩ := callees "main"
  exact ⟨(bodies "m.helper").2.trans rfl, ⟨once, listed, mentioned⟩, (plans ..).symm.trans rfl⟩

end PathAudit
