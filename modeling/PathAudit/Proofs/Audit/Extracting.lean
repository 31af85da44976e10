import PathAudit.Proofs.Audit.Exchanges
import PathAudit.Proofs.Reply.Passages

/-! What is found out about a function. Whatever the two reasoners reply, and whether they reply at
all, the findings are of use: there are some, each of a kind that an audit may write. -/
namespace PathAudit

namespace Reply

theorem increasing_members {text : String} {members : List (String × Json)}
    (known : Reply.members text = .ok members) : Increasing members := by
  have read {s : String} (parsed : Json.parse s = .ok (.object members)) : Increasing members := by
    obtain ⟨lead, inner, trail, trees, -, -, -, -, known⟩ := Raw.object_of_parse parsed
    obtain ⟨held, -, -, same⟩ := Raw.read_object known
    rw [Json.object.inj same]
    exact increasing_sortMembers held
  have value := members_eq_ok_iff.mp known
  obtain ⟨candidate, found⟩ := exists_candidate value
  rcases value_cases found value with parsed | mended
  · exact read parsed
  · exact read mended

end Reply

namespace Findings

structure Usable (f : Findings) : Prop where
  found : f.isEmpty = false
  amendable : ∀ kind ∈ f.kinds, kind.isAmendable = true
  summarised : f.contains .summary = true ↔
    f.contains .taintPropagation = false ∧ f.contains .securitySanitizer = false
  quoted : ∀ text, f.get? .keyCodes = some text → isBlankText text = false

theorem isEmpty_eq_false {f : Findings} (kind : FindingKind) (found : f.contains kind = true) :
    f.isEmpty = false := by
  cases empty : f.isEmpty with
  | false => rfl
  | true =>
    rw [contains, isEmpty_iff.mp empty] at found
    contradiction

theorem found_of_summarised {f : Findings} (summarised : f.contains .summary = true ↔
    f.contains .taintPropagation = false ∧ f.contains .securitySanitizer = false) :
    f.isEmpty = false := by
  cases taint : f.contains .taintPropagation with
  | true => exact isEmpty_eq_false _ taint
  | false =>
    cases sanitizer : f.contains .securitySanitizer with
    | true => exact isEmpty_eq_false _ sanitizer
    | false => exact isEmpty_eq_false _ (summarised.mpr ⟨taint, sanitizer⟩)

theorem Admitted.amendable {f : Findings} (admitted : f.Admitted) :
    ∀ kind ∈ f.kinds, kind.isAmendable = true := by
  intro kind member
  have held : f.contains kind = true := (List.mem_filter.mp member).2
  by_contra seeded
  rw [contains, admitted kind (by simpa using seeded)] at held
  contradiction

end Findings

namespace Extraction
variable {σ : Type}

def settled (reply : AssistantMessage) : Option Members → Findings
  | some m => findings m
  | none => summaryOnly (trimmed reply.text)

theorem get?_summaryOnly (text : String) (kind : FindingKind) :
    (summaryOnly text).get? kind = if kind = .summary then some text else none := rfl

theorem get?_findings (m : Members) (kind : FindingKind) :
    (findings m).get? kind =
      match kind with
      | .vulnerableSink | .attackSource => none
      | .taintPropagation =>
        if flag m "is_taint_propagation" then some (text m "taint_propagation_analysis") else none
      | .securitySanitizer =>
        if flag m "is_security_sanitizer" then some (text m "security_sanitizer_analysis") else none
      | .summary =>
        if flag m "is_security_sanitizer" || flag m "is_taint_propagation" then none
        else some (summary m)
      | .keyCodes =>
        if isBlankText (text m "key_codes_in_function") then none
        else some (text m "key_codes_in_function") := by
  simp only [findings]
  cases flag m "is_security_sanitizer" <;> cases flag m "is_taint_propagation" <;>
    cases isBlankText (text m "key_codes_in_function") <;> cases kind <;> rfl

theorem admitted_summaryOnly (text : String) : (summaryOnly text).Admitted := by
  intro kind seeded
  rw [get?_summaryOnly, if_neg]
  rintro rfl
  contradiction

theorem admitted_findings (m : Members) : (findings m).Admitted := by
  intro kind seeded
  rw [get?_findings]
  cases kind <;> first | rfl | contradiction

theorem analyze_admitted (c : Collaborators σ) (config : Config) (function : FunctionId)
    (body : String) (callees : List FunctionId) (sink : FunctionId)
    (attachment : Option Attachment) (w : World σ) :
    (analyze c config function body callees sink attachment w).1.Admitted := by
  unfold analyze
  dsimp only
  split
  · exact admitted_summaryOnly _
  · split
    · exact admitted_findings _
    · exact admitted_summaryOnly _

theorem usable_summaryOnly (text : String) : (summaryOnly text).Usable where
  found := Findings.isEmpty_eq_false .summary rfl
  amendable := (admitted_summaryOnly text).amendable
  summarised := ⟨fun _ => ⟨rfl, rfl⟩, fun _ => rfl⟩
  quoted := nofun

theorem usable_findings (m : Members) : (findings m).Usable := by
  have summarised : (findings m).contains .summary = true ↔
      (findings m).contains .taintPropagation = false ∧
        (findings m).contains .securitySanitizer = false := by
    simp only [Findings.contains, get?_findings]
    cases flag m "is_security_sanitizer" <;> cases flag m "is_taint_propagation" <;> simp
  refine ⟨Findings.found_of_summarised summarised, (admitted_findings m).amendable, summarised, ?_⟩
  intro text held
  rw [get?_findings] at held
  dsimp only at held
  split at held
  · contradiction
  next shown => rw [← Option.some.inj held, Bool.eq_false_iff.mpr shown]

theorem usable_settled (reply : AssistantMessage) (analysis : Option Members) :
    (settled reply analysis).Usable := by
  cases analysis with
  | none => exact usable_summaryOnly _
  | some m => exact usable_findings m

/-- The first reply cannot be read, or quotes too much code. -/
def Unfit (limit : Nat) (text : String) : Prop :=
  ∀ m, Reply.members text = .ok m → limit < keyCodeLines m

theorem isSome_fix?_iff (limit : Nat) (text : String) :
    (fix? limit (Reply.members text)).isSome = true ↔ Unfit limit text := by
  unfold Unfit fix?
  cases Reply.members text with
  | error e => simp
  | ok m =>
    by_cases long : keyCodeLines m > limit
    · simp [long]
    · simp [long]

/-- A correction over what the first reply gave, if one arrived that can be read. -/
def revised (old : Option Members) (correction : Exchange) : Option Members :=
  match correction.reply with
  | .error _ => old
  | .ok reply =>
    match Reply.members reply.text with
    | .ok new => some (corrected old new)
    | .error _ => old

theorem correct_spec (c : Collaborators σ) (config : Config) (context : ChatContext)
    (first : AssistantMessage) (fix : String) (old : Option Members) (w : World σ) :
    ∃ x : Exchange, (correct c config context first fix old w).2.exchanges = w.exchanges ++ [x] ∧
      x.role = .extractThink ∧ (correct c config context first fix old w).1 = revised old x := by
  unfold correct
  dsimp only
  split
  next e after asked =>
    obtain ⟨x, grown, role, answered⟩ := World.exchange_of_ask asked
    exact ⟨x, grown, role, by simp [revised, answered]⟩
  next reply after asked =>
    obtain ⟨x, grown, role, answered⟩ := World.exchange_of_ask asked
    cases read : Reply.members reply.text with
    | error e => exact ⟨x, grown, role, by simp [revised, answered, read]⟩
    | ok new => exact ⟨x, grown, role, by simp [revised, answered, read]⟩

/-- What the replies come to, the second of them only asked for if the first wants correction. -/
def outcome (first : AssistantMessage) (second : Option Exchange) : Findings :=
  let parsed := (Reply.members first.text).toOption
  settled first (second.elim parsed (revised parsed))

theorem analyze_spec (c : Collaborators σ) (config : Config) (function : FunctionId)
    (body : String) (callees : List FunctionId) (sink : FunctionId)
    (attachment : Option Attachment) (w : World σ) :
    ∃ (first : Exchange) (second : Option Exchange),
      (analyze c config function body callees sink attachment w).2.exchanges =
        w.exchanges ++ first :: second.toList ∧
      first.role = .extract ∧ (∀ x ∈ second, x.role = .extractThink) ∧
      (∀ e, first.reply = .error e → second = none ∧
        (analyze c config function body callees sink attachment w).1 =
          summaryOnly ("analysis unavailable: " ++ e.message)) ∧
      ∀ reply, first.reply = .ok reply →
        (second.isSome = true ↔ Unfit config.maxKeyCodeLines reply.text) ∧
        (analyze c config function body callees sink attachment w).1 = outcome reply second := by
  unfold analyze
  dsimp only
  split
  next e after asked =>
    obtain ⟨first, grown, role, replied⟩ := World.exchange_of_ask asked
    refine ⟨first, none, grown, role, nofun, ?_, ?_⟩
    · rintro e' failed
      obtain rfl := Except.error.inj (replied.symm.trans failed)
      exact ⟨rfl, rfl⟩
    · rintro reply arrived
      rw [replied] at arrived
      contradiction
  next reply after asked =>
    obtain ⟨first, grown, role, replied⟩ := World.exchange_of_ask asked
    have arrived (e : GatewayError) : first.reply ≠ .error e := by
      rw [replied]
      exact nofun
    -- Whatever was made of the reply, what is warned of at the end is no request.
    have ends (analysis : Option Members) (v : World σ) :
        let kept := [Notice.warn target "keeping raw extraction text as summary" []]
        let settling := match analysis with
          | some m => (findings m, v)
          | none => (summaryOnly (trimmed reply.text), v.tell kept)
        settling.1 = settled reply analysis ∧ settling.2.exchanges = v.exchanges := by
      cases analysis <;> exact ⟨rfl, rfl⟩
    have wanted := isSome_fix?_iff config.maxKeyCodeLines reply.text
    cases fix : fix? config.maxKeyCodeLines (Reply.members reply.text) with
    | none =>
      rw [fix] at wanted
      refine ⟨first, none, ?_, role, nofun, fun e failed => absurd failed (arrived e), ?_⟩
      · exact (ends _ _).2.trans grown
      · intro reply' same
        obtain rfl := Except.ok.inj (replied.symm.trans same)
        exact ⟨wanted, (ends _ _).1⟩
    | some text =>
      rw [fix] at wanted
      obtain ⟨second, onward, corrects, analysis⟩ := correct_spec c config
        (.single none (question function body callees sink attachment)) reply text
        (Reply.members reply.text).toOption after
      refine ⟨first, some second, ?_, role, ?_, fun e failed => absurd failed (arrived e), ?_⟩
      · rw [grown, List.append_assoc] at onward
        exact (ends _ _).2.trans onward
      · intro x same
        exact Option.some.inj same ▸ corrects
      · intro reply' same
        obtain rfl := Except.ok.inj (replied.symm.trans same)
        exact ⟨wanted, (ends _ _).1.trans (congrArg (settled reply) analysis)⟩

theorem increasing_corrected {old new : Members} (increasing : Increasing old) :
    Increasing (corrected (some old) new) := increasing_foldl_putMember new increasing

theorem lookup_corrected {old new : Members} (increasing : Increasing new) (key : String) :
    (corrected (some old) new).lookup key = (new.lookup key <|> old.lookup key) := by
  have last : new.reverse.lookup key = new.lookup key := by
    rw [← lookup_sortMembers, sortMembers_of_increasing increasing]
  have put : (corrected (some old) new).lookup key = (new.reverse ++ old).lookup key :=
    lookup_foldl_putMember key new old
  rw [put, List.lookup_append, last, Option.orElse_eq_orElse, Option.orElse_eq_or]

theorem outcome_of_unread {reply : AssistantMessage} {second : Option Exchange}
    (unread : ∀ m, Reply.members reply.text ≠ .ok m)
    (uncorrected : ∀ x ∈ second, ∀ correction, x.reply = .ok correction →
      ∀ m, Reply.members correction.text ≠ .ok m) :
    outcome reply second = summaryOnly (trimmed reply.text) := by
  have nothing {text : String} (unread : ∀ m, Reply.members text ≠ .ok m) :
      (Reply.members text).toOption = none := by
    cases read : Reply.members text with
    | error e => rfl
    | ok m => exact absurd read (unread m)
  unfold outcome
  rw [nothing unread]
  cases second with
  | none => rfl
  | some x =>
    have unchanged : revised none x = none := by
      unfold revised
      split
      · rfl
      next correction answered =>
        split
        next m read => exact absurd read (uncorrected x rfl correction answered m)
        · rfl
    exact congrArg (settled reply) unchanged

/-- How findings were come by: what was asked for, and what the replies gave. -/
structure Obtained (limit : Nat) (before after : List Exchange) (f : Findings) (first : Exchange)
    (second : Option Exchange) : Prop where
  asked : after = before ++ first :: second.toList
  instructed : first.role = .extract
  reasoned : ∀ x ∈ second, x.role = .extractThink
  wanted : second.isSome = true ↔ ∃ reply, first.reply = .ok reply ∧ Unfit limit reply.text
  overridden : ∀ reply x correction old new, first.reply = .ok reply → second = some x →
    x.reply = .ok correction → Reply.members reply.text = .ok old →
    Reply.members correction.text = .ok new →
    ∃ merged, f = findings merged ∧ Increasing merged ∧
      ∀ key, merged.lookup key = (new.lookup key <|> old.lookup key)
  raw : ∀ reply, first.reply = .ok reply → (∀ m, Reply.members reply.text ≠ .ok m) →
    (∀ x ∈ second, ∀ correction, x.reply = .ok correction →
      ∀ m, Reply.members correction.text ≠ .ok m) →
    ∀ kind, f.get? kind = if kind = .summary then some (trimmed reply.text) else none

/-- Every function gets findings that an audit can go on with, for one request and at most one
more. -/
theorem analyze_usable (c : Collaborators σ) (config : Config) (function : FunctionId)
    (body : String) (callees : List FunctionId) (sink : FunctionId)
    (attachment : Option Attachment) (w : World σ) :
    (analyze c config function body callees sink attachment w).1.Usable ∧
      ∃ first second, Obtained config.maxKeyCodeLines w.exchanges
        (analyze c config function body callees sink attachment w).2.exchanges
        (analyze c config function body callees sink attachment w).1 first second := by
  obtain ⟨first, second, grown, role, corrects, failed, arrived⟩ :=
    analyze_spec c config function body callees sink attachment w
  refine ⟨?_, first, second, grown, role, corrects, ?_, ?_, ?_⟩
  · cases replied : first.reply with
    | error e =>
      rw [(failed e replied).2]
      exact usable_summaryOnly _
    | ok reply =>
      rw [(arrived reply replied).2]
      exact usable_settled _ _
  · constructor
    · intro some
      cases replied : first.reply with
      | error e =>
        rw [(failed e replied).1] at some
        contradiction
      | ok reply => exact ⟨reply, rfl, (arrived reply replied).1.mp some⟩
    · rintro ⟨reply, replied, unfit⟩
      exact (arrived reply replied).1.mpr unfit
  -- The correction is put in member by member, so that its members come before those at hand.
  · rintro reply x correction old new replied rfl answered read reread
    refine ⟨corrected (some old) new, ?_, increasing_corrected (Reply.increasing_members read),
      lookup_corrected (Reply.increasing_members reread)⟩
    rw [(arrived reply replied).2]
    simp only [outcome, Option.elim, revised, answered, reread, read, Except.toOption, settled]
  · intro reply replied unread uncorrected kind
    rw [(arrived reply replied).2, outcome_of_unread unread uncorrected, get?_summaryOnly]

end Extraction

end PathAudit
