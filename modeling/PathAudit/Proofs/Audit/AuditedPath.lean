import PathAudit.Proofs.Audit.Dispatch

/-! The path from the entry to the sink, as the actions leave it. Adding a function only adds edges
and a description leaves the graph alone, but nothing keeps a chain that is folded from running
through the entry or the sink. Such a folding, and no other action, takes the path away. -/
namespace PathAudit.Service
open CallGraph

def Connected (s : Session) : Prop := s.graph.Joins s.entry s.sink

/-- Whether folding a chain leaves its session connected: the entry and the sink lie outside the
chain's inside, or are the ends of the chain, or are one function at an end of the chain. -/
def KeepsEnds (s : Session) (start : FunctionId) (intermediates : List FunctionId)
    (stop : FunctionId) : Prop :=
  (s.entry ∉ intermediates ∧ s.sink ∉ intermediates) ∨ (s.entry = start ∧ s.sink = stop) ∨
    (s.entry = s.sink ∧ (s.entry = start ∨ s.entry = stop))

instance (s : Session) (start : FunctionId) (intermediates : List FunctionId) (stop : FunctionId) :
    Decidable (KeepsEnds s start intermediates stop) :=
  inferInstanceAs (Decidable (_ ∨ _))

/-- An action that is carried out and folds the entry or the sink away. -/
def Severs (s : Session) : Action → Prop
  | .compress start intermediates stop label =>
    (∃ plan, CompressPlan.prepare s.graph start intermediates stop label = .ok plan) ∧
      ¬KeepsEnds s start intermediates stop
  | _ => False

theorem not_severs_of_barred {r : Resolver} {s : Session} {action : Action}
    (barred : ∀ graph annotations, ¬Change r s action graph annotations) : ¬Severs s action := by
  intro severs
  cases action with
  | compress start intermediates stop label =>
    obtain ⟨⟨plan, prepared⟩, -⟩ := severs
    exact barred _ _ (.compress start intermediates stop label plan prepared)
  | _ => exact severs

theorem not_severs_of_looks {s : Session} {action : Action} (looks : action.isMutation = false) :
    ¬Severs s action := by
  intro severs
  cases action with
  | compress => contradiction
  | _ => exact severs

theorem Change.joins_iff {r : Resolver} {s : Session} {action : Action} {graph : CallGraph}
    {annotations : Annotations} (change : Change r s action graph annotations)
    (connected : Connected s) : graph.Joins s.entry s.sink ↔ ¬Severs s action := by
  cases change with
  | extend suffix callers plan findings prepared =>
    have grows (p : FunctionId × FunctionId) (member : p ∈ s.graph.pairs) :
        p ∈ (CallGraph.mk (s.graph.edges ++ plan.newEdges)).pairs := by
      rw [pairs, List.map_append]
      exact List.mem_append_left _ member
    exact ⟨fun _ severs => severs, fun _ => connected.mono grows⟩
  | compress start intermediates stop label plan prepared =>
    obtain ⟨chain, -⟩ := (CompressPlan.prepare_eq_ok_iff _ _ _ _ _ _).mp prepared
    rw [chain.joins_iff connected]
    constructor
    · intro keeps severs
      exact severs.2 keeps
    · intro spared
      by_contra loses
      exact spared ⟨⟨plan, prepared⟩, loses⟩
  | amend function updates plan prepared => exact ⟨fun _ severs => severs, fun _ => connected⟩

theorem dispatch_connected_iff {σ : Type} (c : Collaborators σ) (config : Config) (s : Session)
    (action : Action) (w : World σ) (connected : Connected s) :
    Connected (dispatch c config s action w).2.1 ↔ ¬Severs s action := by
  have ending := dispatch_ending c config s action w
  generalize (dispatch c config s action w).1 = outcome at ending
  generalize (dispatch c config s action w).2.1 = after at ending ⊢
  cases ending with
  | refused text barred => exact iff_of_true connected (not_severs_of_barred barred)
  | answered text looks => exact iff_of_true connected (not_severs_of_looks looks)
  | changed text graph annotations artifact change => exact change.joins_iff connected

section Orders
variable {σ : Type}

structure Order (σ : Type) where
  collaborators : Collaborators σ
  config : Config
  action : Action

def carryOut (orders : List (Order σ)) (s : Session) (w : World σ) : Session × World σ :=
  orders.foldl (fun (s, w) order =>
    (dispatch order.collaborators order.config s order.action w).2) (s, w)

theorem carryOut_take_succ (orders : List (Order σ)) (s : Session) (w : World σ) (n : Nat)
    (order : Order σ) (found : orders[n]? = some order) :
    carryOut (orders.take (n + 1)) s w =
      (dispatch order.collaborators order.config (carryOut (orders.take n) s w).1 order.action
        (carryOut (orders.take n) s w).2).2 := by
  simp [carryOut, List.take_add_one, found]

/-- The audited path is there after each of a sequence of actions exactly when none of them severs
it: whatever else the actions, the code base, the reasoners and the drawings do, it stays. -/
theorem connected_throughout_iff (r : PathRecord) (outputDir : String)
    (connected : r.graph.Joins r.entry r.sink) (orders : List (Order σ)) (w : World σ) :
    (∀ n, Connected (carryOut (orders.take n) (.ofRecord r outputDir) w).1) ↔
      ∀ n order, orders[n]? = some order →
        ¬Severs (carryOut (orders.take n) (.ofRecord r outputDir) w).1 order.action := by
  constructor
  · intro throughout n order found
    have after := throughout (n + 1)
    rw [carryOut_take_succ orders _ w n order found] at after
    exact (dispatch_connected_iff _ _ _ _ _ (throughout n)).mp after
  · intro spared n
    induction n with
    | zero => exact connected
    | succ n ih =>
      cases found : orders[n]? with
      | none =>
        -- Past the end of the sequence nothing more is carried out.
        have same : orders.take (n + 1) = orders.take n := by simp [List.take_add_one, found]
        rwa [same]
      | some order =>
        rw [carryOut_take_succ orders _ w n order found]
        exact (dispatch_connected_iff _ _ _ _ _ ih).mpr (spared n order found)

end Orders

def called : PathRecord where
  entry := "e"
  sink := "s"
  callGraph := [.calls "x" "e", .calls "e" "m", .calls "m" "s"]

private theorem called_joins : called.graph.Joins called.entry called.sink :=
  Or.inl (.tail (.single (b := "m") (by decide)) (by decide))

theorem connected_throughout_folded :
    called.graph.Joins called.entry called.sink ∧
      ∀ n, Connected (carryOut
        (([⟨forlorn, {}, .compress "e" ["m"] "s" "via m"⟩] : List (Order Unit)).take n)
        (.ofRecord called "out") { outside := () }).1 := by
  refine ⟨called_joins, (connected_throughout_iff called "out" called_joins _ _).mpr ?_⟩
  intro n order found severs
  cases n with
  | zero =>
    cases Option.some.inj found
    exact severs.2 (by decide)
  | succ n => simp at found

/-- Folded between its caller and its callee, the entry is gone and with it the path. -/
theorem path_lost_with_entry :
    called.graph.Joins called.entry called.sink ∧
      ¬Connected (carryOut
        ([⟨forlorn, {}, .compress "x" ["e"] "m" "via e"⟩] : List (Order Unit))
        (.ofRecord called "out") { outside := () }).1 := by
  refine ⟨called_joins, ?_⟩
  have prepared : CompressPlan.prepare called.graph "x" ["e"] "m" "via e" =
      .ok ⟨[("x", "e"), ("e", "m")], ⟨"x", "m", "via e"⟩⟩ := by cbv
  have loses : ¬KeepsEnds (.ofRecord called "out") "x" ["e"] "m" := by decide
  have before : Connected (.ofRecord called "out") := called_joins
  intro connected
  exact (dispatch_connected_iff _ _ _ _ _ before).mp connected ⟨⟨_, prepared⟩, loses⟩

end PathAudit.Service
