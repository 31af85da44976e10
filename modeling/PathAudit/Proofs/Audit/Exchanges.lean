import PathAudit.Audit.Service
import PathAudit.Proofs.Graph.Extension

/-! Who is asked while an audit works on its session. Requests are only ever added, and between two
steps of the conversation nobody is asked but the extraction. -/
namespace PathAudit

namespace World
variable {σ : Type}

@[simp] theorem exchanges_tell (w : World σ) (notices : List Notice) :
    (w.tell notices).exchanges = w.exchanges := rfl

@[simp] theorem exchanges_record (w : World σ) (key : String) (kind : EventKind) (payload : Json) :
    (w.record key kind payload).exchanges = w.exchanges := by
  unfold record
  split <;> rfl

@[simp] theorem exchanges_draw (w : World σ) (c : Collaborators σ) (path : String) (view : PathView)
    (remark : Option String) : (w.draw c path view remark).2.exchanges = w.exchanges := rfl

theorem exchanges_ask (w : World σ) (c : Collaborators σ) (role : Role) (context : ChatContext)
    (options : ChatOptions) :
    (w.ask c role context options).2.exchanges =
      w.exchanges ++ [⟨role, context, (w.ask c role context options).1⟩] := rfl

theorem exchange_of_ask {before after : World σ} {c : Collaborators σ} {role : Role}
    {context : ChatContext} {options : ChatOptions}
    {reply : Except GatewayError AssistantMessage}
    (asked : before.ask c role context options = (reply, after)) :
    ∃ x : Exchange, after.exchanges = before.exchanges ++ [x] ∧ x.role = role ∧
      x.reply = reply := by
  have grown := exchanges_ask before c role context options
  rw [asked] at grown
  exact ⟨_, grown, rfl, rfl⟩

def ForFindings (x : Exchange) : Prop := x.role = .extract ∨ x.role = .extractThink

def Consulted (before after : World σ) : Prop :=
  ∃ made, after.exchanges = before.exchanges ++ made ∧ ∀ x ∈ made, ForFindings x

theorem Consulted.of_eq {before after : World σ} (same : after.exchanges = before.exchanges) :
    Consulted before after :=
  ⟨[], by rw [same, List.append_nil], by simp⟩

theorem Consulted.trans {before middle after : World σ} (first : Consulted before middle)
    (second : Consulted middle after) : Consulted before after := by
  obtain ⟨made, grown, findings⟩ := first
  obtain ⟨more, grownOn, findingsOn⟩ := second
  refine ⟨made ++ more, by rw [grownOn, grown, List.append_assoc], ?_⟩
  intro x member
  rcases List.mem_append.mp member with early | late
  · exact findings x early
  · exact findingsOn x late

theorem consulted_ask {before after : World σ} {c : Collaborators σ} {role : Role}
    {context : ChatContext} {options : ChatOptions}
    {reply : Except GatewayError AssistantMessage}
    (extraction : role = .extract ∨ role = .extractThink)
    (asked : before.ask c role context options = (reply, after)) : Consulted before after := by
  obtain ⟨x, grown, played, -⟩ := exchange_of_ask asked
  refine ⟨[x], grown, ?_⟩
  intro y member
  rw [List.mem_singleton.mp member, ForFindings, played]
  exact extraction

end World

open World
variable {σ : Type}

theorem Extraction.correct_consulted (c : Collaborators σ) (config : Config)
    (context : ChatContext) (first : AssistantMessage) (fix : String) (old : Option Members)
    (w : World σ) : Consulted w (correct c config context first fix old w).2 := by
  unfold correct
  dsimp only
  split
  next asked =>
    have consulted := consulted_ask (Or.inr rfl) asked
    exact consulted
  next asked =>
    have consulted := consulted_ask (Or.inr rfl) asked
    split
    · exact consulted
    · exact consulted

theorem Extraction.analyze_consulted (c : Collaborators σ) (config : Config)
    (function : FunctionId) (body : String) (callees : List FunctionId) (sink : FunctionId)
    (attachment : Option Attachment) (w : World σ) :
    Consulted w (analyze c config function body callees sink attachment w).2 := by
  unfold analyze
  dsimp only
  split
  next asked =>
    have consulted := consulted_ask (Or.inl rfl) asked
    exact consulted
  next first after asked =>
    have consulted := consulted_ask (Or.inl rfl) asked
    cases fix? config.maxKeyCodeLines (Reply.members first.text) with
    | none =>
      dsimp only
      split
      · exact consulted
      · exact consulted
    | some fix =>
      have onward := correct_consulted c config
        (.single none (question function body callees sink attachment)) first fix
        (Reply.members first.text).toOption after
      dsimp only
      split
      · exact consulted.trans onward
      · exact consulted.trans onward

namespace Service

theorem exchanges_rerender (c : Collaborators σ) (s : Session) (remark : Option String)
    (w : World σ) : (rerender c s remark w).2.2.exchanges = w.exchanges := by
  have kept := exchanges_draw w c s.outputPath s.view remark
  unfold rerender
  split
  next drawn => rwa [drawn] at kept
  next drawn => rwa [drawn] at kept

theorem exchanges_committed (c : Collaborators σ) (s : Session) (text : String) (w : World σ) :
    (committed c s text w).2.2.exchanges = w.exchanges := by
  have kept := exchanges_rerender c s none w
  unfold committed
  split
  next drawn => rwa [drawn] at kept
  next drawn => rwa [drawn] at kept

theorem extend_consulted (c : Collaborators σ) (config : Config) (s : Session) (suffix : String)
    (callers : List FunctionId) (w : World σ) :
    Consulted w (extend c config s suffix callers w).2.2 := by
  unfold extend
  dsimp only
  split
  next => exact .of_eq rfl
  next plan prepared =>
    have consulted := Extraction.analyze_consulted c config.extraction plan.resolved plan.body []
      s.sink s.lastArtifact (w.tell (ExtendPlan.notices s.graph c.resolver suffix callers))
    rw [ExtendPlan.apply_prepared prepared]
    refine Consulted.trans consulted (.of_eq ?_)
    rw [exchanges_committed]
    split <;> rfl

theorem exchanges_compress (c : Collaborators σ) (s : Session) (start : FunctionId)
    (intermediates : List FunctionId) (stop : FunctionId) (label : String) (w : World σ) :
    (compress c s start intermediates stop label w).2.2.exchanges = w.exchanges := by
  unfold compress
  split
  next => rfl
  next =>
    split
    next => rfl
    next => exact exchanges_committed c _ _ w

theorem exchanges_amend (c : Collaborators σ) (s : Session) (function : FunctionId)
    (updates : Dict String) (w : World σ) :
    (amend c s function updates w).2.2.exchanges = w.exchanges := by
  unfold amend
  split
  next => rfl
  next => exact exchanges_committed c _ _ w

theorem dispatch_consulted (c : Collaborators σ) (config : Config) (s : Session) (action : Action)
    (w : World σ) : Consulted w (dispatch c config s action w).2.2 := by
  change Consulted w (perform c config s action { w with notices := [] }).2.2
  cases action with
  | addFunction suffix callers => exact extend_consulted c config s suffix callers _
  | compress start intermediates stop label =>
    exact .of_eq (exchanges_compress c s start intermediates stop label _)
  | update function updates => exact .of_eq (exchanges_amend c s function updates _)
  | inspect function => exact .of_eq rfl
  | listCallees function => exact .of_eq rfl

end Service

end PathAudit
