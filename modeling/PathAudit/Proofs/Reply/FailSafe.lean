import PathAudit.Proofs.Reply.Passages
import PathAudit.Reply.Decision

/-! The gate and replies that are objects already. Such a reply is cut all the same, behind a line
of thought, at a fence and at the braces, and each cut may fall into one of its strings. What is
left then is not accepted, for from inside a string the text reads as if its quoted and unquoted
parts had changed places. The exception is a text behind a line of thought whose quotes are
repaired: there a brace that closes an object can become part of a string. -/
namespace PathAudit.Reply
open Raw

/-- The reply holds the end of a line of thought and no fence after it, and what it has in braces
there cannot be read before its quotes are repaired. -/
def NeedsRepair (text : String) : Prop :=
  Text.contains "</think>".toList text.toList = true ∧
    fenced? (afterThought text.toList) = none ∧
    ∀ candidate, outerObject? (afterThought text.toList) = some candidate →
      ∀ v, Json.parse (String.ofList candidate) ≠ .ok v

section FailSafe
variable {text : String} {members : List (String × Json)}

theorem members_of_plain (parsed : Json.parse text = .ok (.object members))
    (absent : Text.contains "</think>".toList text.toList = false)
    (bare : fenced? text.toList = none) : Reply.members text = .ok members := by
  obtain ⟨lead, inner, trail, trees, cut, before, written, after, known⟩ := object_of_parse parsed
  have alone : Json.parse (String.ofList ('\x7b' :: inner)) = .ok (.object members) :=
    (parse_eq_ok_iff _ _).mpr ⟨[], _, [], .object trees, by simp, by simp [Spaces],
      .object written, by simp [Spaces], known⟩
  have candidate : candidate? text.toList = some ('\x7b' :: inner) := by
    rw [candidate?, afterThought_of_absent absent, bare, cut,
      outerObject?_of_object before written after]
    rfl
  simp only [Reply.members, Reply.value, candidate, alone, bind, Except.bind]

/-- A reply that is an object and is cut all the same is not accepted for what is left of it. -/
theorem lookup_of_cut (parsed : Json.parse text = .ok (.object members))
    (legible : ¬NeedsRepair text)
    (cut : Text.contains "</think>".toList text.toList = true ∨ fenced? text.toList ≠ none)
    {read : List (String × Json)} (known : Reply.value text = .ok (.object read)) :
    read.lookup "is_accurate_and_complete" = none := by
  obtain ⟨passed, split⟩ : ∃ passed, text.toList = passed ++ afterThought text.toList := by
    cases thought : Text.contains "</think>".toList text.toList with
    | false => exact ⟨[], by rw [afterThought_of_absent thought]; rfl⟩
    | true =>
      obtain ⟨passed, split, -⟩ := afterThought_cut thought
      exact ⟨passed, split⟩
  obtain ⟨t, inside, passage⟩ : ∃ t, InString t ∧
      Json.parse (String.ofList t) = .ok (.object read) := by
    cases fence : fenced? (afterThought text.toList) with
    | some candidate =>
      have followed := follow_of_parse parsed 0
      rw [split] at followed
      obtain ⟨_, -, onward⟩ := follow_append_eq_some.mp followed
      obtain ⟨_, _, _, _, -, -, solid⟩ := fenced?_cut fence
      have inside : InString candidate :=
        InString.of_fenced onward (Nat.zero_le _) (by rwa [List.append_nil])
      refine inside.of_value ?_ solid known
      rw [candidate?, fence]
      rfl
    | none =>
      cases thought : Text.contains "</think>".toList text.toList with
      | false =>
        rw [afterThought_of_absent thought] at fence
        exact absurd fence (cut.resolve_left (by rw [thought]; decide))
      | true =>
        obtain ⟨candidate, v, found, read⟩ : ∃ candidate v,
            outerObject? (afterThought text.toList) = some candidate ∧
              Json.parse (String.ofList candidate) = .ok v := by
          by_contra unread
          refine legible ⟨thought, fence, fun candidate found v read => ?_⟩
          exact unread ⟨candidate, v, found, read⟩
        obtain ⟨inside, solid⟩ := inString_of_thought parsed thought found read
        refine inside.of_value ?_ solid known
        rw [candidate?, fence, found]
        rfl
  exact inside.lookup_of_parse passage

end FailSafe
end PathAudit.Reply

namespace PathAudit.Decision
open Reply

theorem ofReply_of_value {text : String} {held : List (String × Json)}
    (known : Reply.value text = .ok (.object held)) : ofReply text = ofMembers held := by
  rw [ofReply, members_eq_ok_iff.mpr known]

theorem exists_of_accepted {text : String} {isVulnerable : Bool} {feedback : String}
    (accepted : ofReply text = .accepted isVulnerable feedback) :
    ∃ held, Reply.value text = .ok (.object held) ∧
      ofMembers held = .accepted isVulnerable feedback := by
  unfold ofReply at accepted
  split at accepted
  next held known => exact ⟨held, members_eq_ok_iff.mp known, accepted⟩
  · contradiction

theorem flags_of_accepted {members : List (String × Json)} {isVulnerable : Bool} {feedback : String}
    (accepted : ofMembers members = .accepted isVulnerable feedback) :
    (members.lookup "is_accurate_and_complete").bind Json.flag? = some true ∧
      (members.lookup "is_vulnerable").bind Json.flag? = some isVulnerable := by
  unfold ofMembers at accepted
  dsimp only at accepted
  split at accepted
  · contradiction
  · split at accepted <;> contradiction
  next complete =>
    split at accepted
    next vulnerable =>
      obtain ⟨rfl, -⟩ := Decision.accepted.inj accepted
      exact ⟨complete, vulnerable⟩
    · contradiction

theorem ofReply_fails_safe {text : String} {members : List (String × Json)}
    (parsed : Json.parse text = .ok (.object members)) :
    (Text.contains "</think>".toList text.toList = false → fenced? text.toList = none →
        ofReply text = ofMembers members) ∧
      (¬NeedsRepair text → ∀ isVulnerable feedback,
        ofReply text = .accepted isVulnerable feedback →
          (members.lookup "is_accurate_and_complete").bind Json.flag? = some true ∧
            (members.lookup "is_vulnerable").bind Json.flag? = some isVulnerable) := by
  have plain (absent : Text.contains "</think>".toList text.toList = false)
      (bare : fenced? text.toList = none) : ofReply text = ofMembers members := by
    rw [ofReply, members_of_plain parsed absent bare]
  refine ⟨plain, fun legible isVulnerable feedback accepted => ?_⟩
  by_cases cut : Text.contains "</think>".toList text.toList = true ∨ fenced? text.toList ≠ none
  · obtain ⟨held, known, decided⟩ := exists_of_accepted accepted
    have complete := (flags_of_accepted decided).1
    rw [lookup_of_cut parsed legible cut known] at complete
    contradiction
  · rw [not_or, Bool.not_eq_true, not_not] at cut
    rw [plain cut.1 cut.2] at accepted
    exact flags_of_accepted accepted

private theorem exists_object {α : Type} (text : String) (answer : List (String × Json) → Option α)
    (a : α) (known : ((Json.parse text).toOption.bind Json.asObject?).bind answer = some a) :
    ∃ members, Json.parse text = .ok (.object members) ∧ answer members = some a := by
  obtain ⟨members, object, answered⟩ := Option.bind_eq_some_iff.mp known
  obtain ⟨v, parsed, object⟩ := Option.bind_eq_some_iff.mp object
  refine ⟨members, ?_, answered⟩
  cases read : Json.parse text with
  | error fault =>
    rw [read] at parsed
    contradiction
  | ok w =>
    rw [read] at parsed
    obtain rfl := Option.some.inj parsed
    cases w with
    | object held => rw [Option.some.inj object]
    | _ => contradiction

private theorem value_of_repaired {text candidate repaired : String} {v : Json}
    (found : candidate? text.toList = some candidate.toList)
    (broken : (Json.parse candidate).toOption.isSome = false)
    (same : repairQuotes candidate.toList = repaired.toList)
    (mended : Json.parse repaired = .ok v) : Reply.value text = .ok v := by
  simp only [Reply.value, found, String.ofList_toList, same, mended]
  cases read : Json.parse candidate with
  | error fault => rfl
  | ok w =>
    rw [read] at broken
    contradiction

def unclosedFence : String :=
  "\x7b\"is_accurate_and_complete\":\"Yes\",\"is_vulnerable\":true,\"feedback\":\"```\"\x7d"

theorem ofReply_fails_safe_unclosedFence :
    ∃ members, Json.parse unclosedFence = .ok (.object members) ∧ ¬NeedsRepair unclosedFence ∧
      ofReply unclosedFence = .accepted true "```" ∧
      (members.lookup "is_accurate_and_complete").bind Json.flag? = some true ∧
      (members.lookup "is_vulnerable").bind Json.flag? = some true := by
  obtain ⟨members, parsed, decided⟩ :=
    exists_object unclosedFence (fun members => some (ofMembers members)) (.accepted true "```")
      (by decide +kernel)
  have absent : Text.contains "</think>".toList unclosedFence.toList = false := by decide +kernel
  have bare : fenced? unclosedFence.toList = none := by decide +kernel
  have legible : ¬NeedsRepair unclosedFence := by
    rintro ⟨thought, -⟩
    exact Bool.false_ne_true (absent.symm.trans thought)
  obtain ⟨whole, safe⟩ := ofReply_fails_safe parsed
  have accepted := (whole absent bare).trans (Option.some.inj decided)
  exact ⟨members, parsed, legible, accepted, safe legible true "```" accepted⟩

def toldReply : String :=
  "\x7b\"is_accurate_and_complete\":true,\"is_vulnerable\":false,\n" ++
    "\"feedback\":\"ok\"\x7d,\"next\":\"f\"\n\x7d"

def tellingRejection : String :=
  "\x7b\"is_accurate_and_complete\":false,\"feedback\":\"</think>\",\"seen\":" ++ toldReply

/-- The second line of `toldReply` is taken for a key and its text, and the brace with it. -/
def repairedReply : String :=
  "\x7b\"is_accurate_and_complete\":true,\"is_vulnerable\":false,\n" ++
    "\"feedback\":\"ok\\\"\x7d,\\\"next\\\":\\\"f\"\n\x7d"

theorem ofReply_fails_open :
    ∃ members, Json.parse tellingRejection = .ok (.object members) ∧
      (members.lookup "is_accurate_and_complete").bind Json.flag? = some false ∧
      ofReply tellingRejection = .accepted false "ok\"\x7d,\"next\":\"f" := by
  obtain ⟨members, parsed, rejected⟩ :=
    exists_object tellingRejection
      (fun members => (members.lookup "is_accurate_and_complete").bind Json.flag?) false
      (by decide +kernel)
  obtain ⟨held, mended, decided⟩ :=
    exists_object repairedReply (fun members => some (ofMembers members))
      (.accepted false "ok\"\x7d,\"next\":\"f") (by decide +kernel)
  have found : candidate? tellingRejection.toList = some toldReply.toList := by decide +kernel
  have repaired : repairQuotes toldReply.toList = repairedReply.toList := by decide +kernel
  have broken : (Json.parse toldReply).toOption.isSome = false := by decide +kernel
  have known := value_of_repaired found broken repaired mended
  exact ⟨members, parsed, rejected, (ofReply_of_value known).trans (Option.some.inj decided)⟩

end PathAudit.Decision
