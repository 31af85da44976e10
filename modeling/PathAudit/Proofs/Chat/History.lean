import PathAudit.Chat.Message
import PathAudit.Proofs.Json.Rereading

/-! A history in its JSON form. A message is an object of its own fields with its role put among
them, a piece of content one of its own with its type; no field is called like the tag beside it,
so both can be taken out again and the fields are read as they were written. -/
namespace PathAudit

def Json.without (key : String) : Json → Json
  | .object members => .object (members.filter (·.1 != key))
  | v => v

section Content

theorem UserContent.ordered_toJson (c : UserContent) : c.toJson.Ordered := by
  have text : ["text", "type"].Pairwise (· < ·) := by decide
  have image : ["data", "mime_type", "type"].Pairwise (· < ·) := by decide
  cases c with
  | text shown => exact ⟨text, trivial, trivial, trivial⟩
  | image mimeType data => exact ⟨image, trivial, trivial, trivial, trivial⟩

theorem AssistantContent.ordered_toJson {c : AssistantContent}
    (proper : ∀ call ∈ c.call?, call.arguments.Ordered) : c.toJson.Ordered := by
  have text : ["text", "type"].Pairwise (· < ·) := by decide
  have call : ["arguments", "id", "name", "type"].Pairwise (· < ·) := by decide
  cases c with
  | text shown => exact ⟨text, trivial, trivial, trivial⟩
  | toolCall asked => exact ⟨call, proper asked rfl, trivial, trivial, trivial, trivial⟩

end Content

namespace Message

def role : Message → String
  | .user _ => "user"
  | .assistant _ => "assistant"
  | .toolResult _ => "tool_result"

def members : Message → List (String × Json)
  | .user m => m.members
  | .assistant m => m.members
  | .toolResult m => m.members

def calls : Message → List ToolCall
  | .assistant m => m.calls
  | .user _ | .toolResult _ => []

theorem increasing_members (m : Message) : Increasing m.members := by
  have result : ["is_error", "text", "tool_call_id"].Pairwise (· < ·) := by decide
  have stopped : ["content", "stop_reason"].Pairwise (· < ·) := by decide
  have spent : ["content", "usage"].Pairwise (· < ·) := by decide
  have both : ["content", "stop_reason", "usage"].Pairwise (· < ·) := by decide
  cases m with
  | user m => exact List.pairwise_singleton _ _
  | toolResult m => exact result
  | assistant m =>
    obtain ⟨content, usage, stopReason⟩ := m
    cases usage <;> cases stopReason
    exacts [List.pairwise_singleton _ _, stopped, spent, both]

theorem role_not_mem_members (m : Message) : "role" ∉ m.members.map (·.1) := by
  have result : "role" ∉ ["is_error", "text", "tool_call_id"] := by decide
  have contents : "role" ∉ ["content"] := by decide
  have stopped : "role" ∉ ["content", "stop_reason"] := by decide
  have spent : "role" ∉ ["content", "usage"] := by decide
  have both : "role" ∉ ["content", "stop_reason", "usage"] := by decide
  cases m with
  | user m => exact contents
  | toolResult m => exact result
  | assistant m =>
    obtain ⟨content, usage, stopReason⟩ := m
    cases usage <;> cases stopReason
    exacts [contents, stopped, spent, both]

theorem toJson_eq (m : Message) :
    m.toJson = .object (putMember "role" (.string m.role) m.members) := by
  have placed (name : String) {members : List (String × Json)} (increasing : Increasing members) :
      Json.ofMembers (members ++ [("role", .string name)]) =
        .object (putMember "role" (.string name) members) := by
    rw [Json.ofMembers, sortMembers, List.foldl_append, ← sortMembers,
      sortMembers_of_increasing increasing]
    rfl
  cases m with
  | user m => rfl
  | assistant m => exact placed "assistant" (increasing_members (.assistant m))
  | toolResult m => exact placed "tool_result" (increasing_members (.toolResult m))

theorem get?_toJson (m : Message) (key : String) :
    m.toJson.get? key = if key = "role" then some (.string m.role) else m.members.lookup key := by
  rw [toJson_eq]
  exact lookup_putMember "role" key _ m.members

theorem ordered_toJson {m : Message} (proper : ∀ call ∈ m.calls, call.arguments.Ordered) :
    m.toJson.Ordered := by
  have inside : Json.OrderedMembers m.members := by
    cases m with
    | user m =>
      refine ⟨(Json.orderedItems_iff _).mpr (List.forall_mem_map.mpr fun c _ => ?_), trivial⟩
      exact c.ordered_toJson
    | toolResult m => exact ⟨trivial, trivial, trivial, trivial⟩
    | assistant m =>
      obtain ⟨content, usage, stopReason⟩ := m
      have contents : Json.OrderedItems (content.map AssistantContent.toJson) := by
        refine (Json.orderedItems_iff _).mpr (List.forall_mem_map.mpr fun c held => ?_)
        exact c.ordered_toJson fun call asked =>
          proper call (List.mem_filterMap.mpr ⟨c, held, asked⟩)
      have counts (u : TokenUsage) : u.toJson.Ordered := by
        have names : ["input_tokens", "output_tokens"].Pairwise (· < ·) := by decide
        exact ⟨names, trivial, trivial, trivial⟩
      cases usage <;> cases stopReason
      exacts [⟨contents, trivial⟩, ⟨contents, trivial, trivial⟩, ⟨contents, counts _, trivial⟩,
        ⟨contents, trivial, counts _, trivial⟩]
  rw [toJson_eq]
  refine ⟨increasing_putMember _ _ m.increasing_members, (Json.orderedMembers_iff _).mpr ?_⟩
  intro member placed
  rcases mem_of_mem_putMember placed with rfl | own
  · trivial
  · exact (Json.orderedMembers_iff _).mp inside member own

theorem decoder_toJson {m : Message} (proper : ∀ call ∈ m.calls, call.arguments.Ordered)
    (origin : Origin) : decoder origin (.ofJson m.toJson) = .ok m := by
  have found := lookup_putMember "role" "role" (Json.string m.role) m.members
  have others := filter_putMember (Json.string m.role) m.role_not_mem_members
  rw [if_pos rfl] at found
  have read : ∀ call ∈ m.calls,
      Decoder.free .buffer (.ofJson call.arguments) = .ok call.arguments := fun call asked =>
    congrArg (Except.mapError DecodeError.fault) (read_ofJson (proper call asked))
  rw [toJson_eq]
  cases m with
  | user m =>
    rw [decoder, Decoder.tagged_ofJson found rfl, others]
    exact congrArg (Except.map Message.user) (m.decoder_members .buffer)
  | assistant m =>
    rw [decoder, Decoder.tagged_ofJson found rfl, others]
    exact congrArg (Except.map Message.assistant) (AssistantMessage.decoder_members read)
  | toolResult m =>
    rw [decoder, Decoder.tagged_ofJson found rfl, others]
    exact congrArg (Except.map Message.toolResult) (m.decoder_members .buffer)

theorem decoder_unmarked (r : ToolResult) (origin : Origin) :
    decoder origin (.ofJson ((toJson (.toolResult r)).without "is_error")) =
      .ok (.toolResult { r with isError := false }) := by
  rfl

theorem lookup_usage (m : AssistantMessage) :
    m.members.lookup "usage" = m.usage.map (·.toJson) := by
  obtain ⟨content, usage, stopReason⟩ := m
  cases usage <;> cases stopReason <;> rfl

theorem lookup_stopReason (m : AssistantMessage) :
    m.members.lookup "stop_reason" = m.stopReason.map (.string ·.name) := by
  obtain ⟨content, usage, stopReason⟩ := m
  cases usage <;> cases stopReason <;> rfl

/-- A history that is written as JSON is read back as it was. Only the arguments of calls are
assumed to be values whose objects hold each key once. Then so are all messages: each has its role
and its own fields side by side, and an assistant's usage and reason to stop are there exactly if
they are given. A result that is not marked is read as no error. -/
theorem history_reread {messages : List Message}
    (proper : ∀ m ∈ messages, ∀ call ∈ m.calls, call.arguments.Ordered) :
    Decoder.ofJson (Decoder.list decoder) (.array (messages.map toJson)) = .ok messages ∧
    (∀ m ∈ messages, m.toJson.Ordered ∧ m.toJson.get? "role" = some (.string m.role)) ∧
    (∀ m, .assistant m ∈ messages →
      (toJson (.assistant m)).get? "usage" = m.usage.map (·.toJson) ∧
      (toJson (.assistant m)).get? "stop_reason" = m.stopReason.map (.string ·.name)) ∧
    ∀ r, .toolResult r ∈ messages →
      Decoder.ofJson decoder ((toJson (.toolResult r)).without "is_error") =
        .ok (.toolResult { r with isError := false }) := by
  refine ⟨?_, fun m sent => ⟨ordered_toJson (proper m sent), ?_⟩, fun m _ => ⟨?_, ?_⟩, ?_⟩
  · exact Decoder.list_ofJson fun m sent => decoder_toJson (proper m sent) .value
  · exact m.get?_toJson "role"
  · exact (get?_toJson (.assistant m) "usage").trans (lookup_usage m)
  · exact (get?_toJson (.assistant m) "stop_reason").trans (lookup_stopReason m)
  · exact fun r _ => decoder_unmarked r .value

def namesakes : List Message :=
  [.user ⟨[.text "role", .image "image/png" "AAAA"]⟩,
    .assistant ⟨[.text "", .toolCall ⟨"1", "type", .object [("role", .null), ("type", .null)]⟩],
      some ⟨7, 4294967295⟩, none⟩,
    .toolResult ⟨"1", "user", true⟩]

theorem history_reread_namesakes :
    (∀ m ∈ namesakes, ∀ call ∈ m.calls, call.arguments.Ordered) ∧
    Decoder.ofJson (Decoder.list decoder) (.array (namesakes.map toJson)) = .ok namesakes ∧
    Decoder.ofJson decoder ((toJson (.toolResult ⟨"1", "user", true⟩)).without "is_error") =
      .ok (.toolResult ⟨"1", "user", false⟩) := by
  have proper : ∀ m ∈ namesakes, ∀ call ∈ m.calls, call.arguments.Ordered := by
    have names : ["role", "type"].Pairwise (· < ·) := by decide
    refine List.forall_mem_cons.mpr ⟨nofun, List.forall_mem_cons.mpr ⟨?_, ?_⟩⟩
    · exact List.forall_mem_singleton.mpr ⟨names, trivial, trivial, trivial⟩
    · exact List.forall_mem_singleton.mpr nofun
  obtain ⟨read, -, -, unmarked⟩ := history_reread proper
  exact ⟨proper, read, unmarked _ (by simp [namesakes])⟩

end Message

end PathAudit
