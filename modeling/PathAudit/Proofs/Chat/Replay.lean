import PathAudit.Chat.Wire
import PathAudit.Proofs.Json.Rereading

/-! A conversation that goes out in the chat-completions format. Its messages follow the system
prompt, one element for each, and an assistant's element that comes back in a reply is read as the
text and the calls it was made of. A call's arguments are text inside a text then, so it is their
printed form that has to be read again, also where they are themselves a text. -/
namespace PathAudit

namespace Wire

theorem request_messages (c : ChatContext) (options : ChatOptions) (model : String) :
    (request c options model).get? "messages" = some (.array (messages c)) := by
  obtain ⟨maxTokens, temperature⟩ := options
  rw [request, Json.ofMembers, Json.get?, lookup_sortMembers]
  cases maxTokens <;> cases temperature <;> split <;> rfl

section Assistant
variable {m : AssistantMessage}

theorem readCall_call {c : ToolCall} (integral : c.arguments.Integral) (fresh : String) :
    readCall fresh (call c) = .ok c := by
  have told : arguments (some (.string c.arguments.compact)) = c.arguments := by
    rw [arguments, integral.parse]
  exact congrArg (fun v => Except.ok (ToolCall.mk c.id c.name v)) told

theorem readCalls_map {calls : List ToolCall} (integral : ∀ c ∈ calls, c.arguments.Integral)
    (fresh : Nat → String) (n : Nat) : readCalls fresh n (calls.map call) = .ok calls := by
  induction calls generalizing n with
  | nil => rfl
  | cons c calls ih =>
    obtain ⟨first, others⟩ := List.forall_mem_cons.mp integral
    rw [List.map_cons, readCalls, readCall_call first, ih others]
    rfl

theorem strAt_message (m : AssistantMessage) :
    (message (.assistant m)).strAt "content" = m.text := by
  have held : (message (.assistant m)).get? "content" =
      some (if m.text.isEmpty then .null else .string m.text) := rfl
  rw [Json.strAt, Json.str?At, held]
  cases empty : m.text.isEmpty with
  | true => exact (String.isEmpty_iff.mp empty).symm
  | false => rfl

theorem listAt_message (m : AssistantMessage) :
    (message (.assistant m)).listAt "tool_calls" = m.calls.map call := by
  have held : (message (.assistant m)).get? "tool_calls" =
      (if m.calls.isEmpty then [] else [("tool_calls", Json.array (m.calls.map call))]).lookup
        "tool_calls" := rfl
  rw [Json.listAt, held]
  cases m.calls with
  | nil => rfl
  | cons first others => rfl

theorem response_message {body choice : Json} {others : List Json}
    (chosen : body.get? "choices" = some (.array (choice :: others)))
    (told : choice.get? "message" = some (message (.assistant m)))
    (unfinished : choice.get? "finish_reason" = none)
    (integral : ∀ c ∈ m.calls, c.arguments.Integral) (fresh : Nat → String) :
    let reason := if m.calls.isEmpty then .endTurn else .toolUse
    response fresh body = .ok ({ AssistantMessage.ofCalls m.text m.calls with
      usage := readUsage body, stopReason := some reason }, reason) := by
  have choices : body.listAt "choices" = choice :: others := by rw [Json.listAt, chosen]; rfl
  have finish : choice.str?At "finish_reason" = none := by rw [Json.str?At, unfinished]; rfl
  have calls := readCalls_map integral fresh 0
  have reason : stopReason none m.calls = if m.calls.isEmpty then .endTurn else .toolUse := rfl
  unfold response
  rw [choices]
  simp only [told, strAt_message, listAt_message, calls, finish, bind, Except.bind, reason]
  rfl

end Assistant

/-- A conversation is sent with nothing lost: the body's messages are the system prompt, if there is
one, and then an element for each message in its place. Whatever reply an assistant's element comes
back in, unless that says how it finished, it is read as a message with the same text and the same
calls, which asks for actions exactly if there are calls. A result's element has the result's id
and text. -/
theorem messages_replayed (c : ChatContext) (options : ChatOptions) (model : String) :
    ∃ sent, (request c options model).get? "messages" =
        some (.array ((c.system.map systemMessage).toList ++ sent)) ∧
      sent.length = c.messages.length ∧
      (∀ (i : Nat) m, c.messages[i]? = some (.assistant m) →
        (∀ call ∈ m.calls, call.arguments.Integral) →
        ∃ element, sent[i]? = some element ∧ ∀ fresh body choice others,
          body.get? "choices" = some (.array (choice :: others)) →
          choice.get? "message" = some element → choice.get? "finish_reason" = none →
          ∃ reply reason, response fresh body = .ok (reply, reason) ∧ reply.text = m.text ∧
            reply.calls = m.calls ∧ reply.stopReason = some reason ∧
            (reason = .toolUse ↔ m.calls ≠ [])) ∧
      ∀ (i : Nat) r, c.messages[i]? = some (.toolResult r) → ∃ element, sent[i]? = some element ∧
        element.str?At "tool_call_id" = some r.callId ∧ element.str?At "content" = some r.text := by
  refine ⟨c.messages.map message, request_messages c options model, List.length_map _, ?_, ?_⟩
  · intro i m found integral
    refine ⟨message (.assistant m), by rw [List.getElem?_map, found]; rfl, ?_⟩
    intro fresh body choice others chosen told unfinished
    refine ⟨_, _, response_message chosen told unfinished integral fresh,
      AssistantMessage.text_ofCalls m.text m.calls, AssistantMessage.calls_ofCalls m.text m.calls,
      rfl, ?_⟩
    cases calls : m.calls with
    | nil => simp
    | cons first others => simp
  · intro i r found
    exact ⟨message (.toolResult r), by rw [List.getElem?_map, found]; rfl, rfl, rfl⟩

def mixed : AssistantMessage where
  content := [.text "a", .toolCall ⟨"1", "f", .string "\x7b"⟩, .text "b",
    .toolCall ⟨"", "g", .object [("k", .array [.int (-1)])]⟩]

theorem messages_replayed_mixed :
    (∀ call ∈ mixed.calls, call.arguments.Integral) ∧
    ∃ sent element reply,
      (request ⟨some "s", [.userText "q", .assistant mixed], []⟩ {} "m").get? "messages" =
        some (.array (systemMessage "s" :: sent)) ∧ sent[1]? = some element ∧
      response (fun _ => "fresh")
        (.object [("choices", .array [.object [("message", element)]])]) = .ok (reply, .toolUse) ∧
      reply.text = "ab" ∧ reply.calls = mixed.calls := by
  have first : (Json.string "\x7b").Integral := ⟨trivial, trivial, Nat.zero_le _⟩
  have second : (Json.object [("k", .array [.int (-1)])]).Integral := by
    refine ⟨⟨⟨?_, trivial⟩, trivial⟩, ⟨List.pairwise_singleton _ _, ?_, trivial⟩, ?_⟩
    · exact ⟨by decide, by decide⟩
    · exact ⟨trivial, trivial⟩
    · decide
  have integral : ∀ call ∈ mixed.calls, call.arguments.Integral :=
    List.forall_mem_cons.mpr ⟨first, List.forall_mem_singleton.mpr second⟩
  obtain ⟨sent, body, -, replayed, -⟩ :=
    messages_replayed ⟨some "s", [.userText "q", .assistant mixed], []⟩ {} "m"
  obtain ⟨element, found, read⟩ := replayed 1 mixed rfl integral
  obtain ⟨reply, reason, told, text, calls, -, wants⟩ := read (fun _ => "fresh")
    (.object [("choices", .array [.object [("message", element)]])]) _ [] rfl rfl rfl
  have asks : reason = .toolUse := wants.mpr nofun
  exact ⟨integral, sent, element, reply, body, found, asks ▸ told, text.trans (by decide), calls⟩

end Wire

end PathAudit
