import PathAudit.Audit.Action
import PathAudit.Proofs.Json.Compact

/-! What the description of a call tells. A name without blanks and the compact text of the
arguments can be read off it, whatever follows; and calls that agree in the two ask for the same
action, because no action has a number among its arguments. -/
namespace PathAudit

/-- The same action is asked for with arguments that are written the same. -/
def ToolCall.Repeats (call first : ToolCall) : Prop :=
  call.name = first.name ∧ call.arguments.compact = first.arguments.compact

def ToolCall.NamedPlainly (call : ToolCall) : Prop := ' ' ∉ call.name.toList

instance (call : ToolCall) : Decidable call.NamedPlainly :=
  inferInstanceAs (Decidable (' ' ∉ call.name.toList))

namespace Action

theorem describe_eq_of_repeats {call first : ToolCall} (repeats : call.Repeats first) :
    describe call = describe first := by
  rw [describe, describe, repeats.1, repeats.2]

private theorem toList_describe (call : ToolCall) :
    (describe call).toList = "Invoked ".toList ++
      (call.name.toList ++ ' ' :: ("with arguments ".toList ++ call.arguments.print)) := by
  have blank : " with arguments ".toList = ' ' :: "with arguments ".toList := by decide
  simp only [describe, String.toList_append, Json.compact, String.toList_ofList, blank,
    List.append_assoc, List.cons_append]

theorem repeats_of_describe_append {call first : ToolCall} {x y : List Char}
    (plain : call.NamedPlainly) (firstPlain : first.NamedPlainly)
    (ends : Json.Ended x) (firstEnds : Json.Ended y)
    (same : (describe call).toList ++ x = (describe first).toList ++ y) :
    call.Repeats first := by
  simp only [toList_describe, List.append_assoc, List.cons_append] at same
  have named := List.append_cancel_left same
  -- The name ends at its first blank, the arguments where their text says.
  have word {name : List Char} (free : ' ' ∉ name) : ∀ c ∈ name, (c == ' ') = false := by
    intro c member
    exact beq_false_of_ne fun blank => free (blank ▸ member)
  obtain ⟨names, arguments⟩ := Json.word_append_inj (· == ' ') (word plain) (word firstPlain)
    (by simp) (by simp) named
  have texts := List.append_cancel_left (List.cons.inj arguments).2
  obtain ⟨-, rests⟩ := Json.print_append_inj _ _ ends firstEnds texts
  rw [rests] at texts
  refine ⟨String.toList_injective names, ?_⟩
  rw [Json.compact, Json.compact, List.append_cancel_right texts]

end Action

section Blind

private theorem toOption_bind {ε α β : Type} (x : Except ε α) (f : α → Except ε β) :
    (x >>= f).toOption = x.toOption.bind fun a => (f a).toOption := by
  cases x <;> rfl

private theorem toOption_map {ε α β : Type} (f : α → β) (x : Except ε α) :
    (x.map f).toOption = x.toOption.map f := by
  cases x <;> rfl

private theorem toOption_mapError {ε δ α : Type} (f : ε → δ) (x : Except ε α) :
    (x.mapError f).toOption = x.toOption := by
  cases x <;> rfl

namespace Raw

mutual

theorem skip_ofJson (v : Json) : skip (ofJson v) = .ok () := by
  cases v with
  | array items => simp only [ofJson, skip, skipItems_ofItems items, bind, Except.bind]
  | object members => simp only [ofJson, skip, skipMembers_ofMembers members, bind, Except.bind]
  | _ => simp only [ofJson, skip]

theorem skipItems_ofItems (items : List Json) : skipItems (ofItems items) = .ok () := by
  cases items with
  | nil => rfl
  | cons item items =>
    simp only [ofItems, skipItems, skip_ofJson item, skipItems_ofItems items, bind, Except.bind]

theorem skipMembers_ofMembers (members : List (String × Json)) :
    skipMembers (ofMembers members) = .ok () := by
  cases members with
  | nil => rfl
  | cons member members =>
    simp only [ofMembers, skipMembers, skip_ofJson member.2, skipMembers_ofMembers members, bind,
      Except.bind]

end

end Raw

namespace Decoder

/-- The decoder takes the same from a value whatever its numbers are. -/
def Blind {α : Type} (decoder : Decoder α) : Prop :=
  ∀ v, (decoder .value (Raw.ofJson v)).toOption = (decoder .value (Raw.ofJson v.blurred)).toOption

def BlindFill {α : Type} (fill : Fill α) : Prop :=
  ∀ name v draft, (fill .value name (Raw.ofJson v) draft).toOption =
    (fill .value name (Raw.ofJson v.blurred) draft).toOption

theorem blind_text : Blind text := by
  intro v
  cases v <;> simp only [Json.blurred, Raw.ofJson, text, mismatch, Except.toOption]

private theorem each_blurred {α : Type} {decoder : Decoder α} (blind : Blind decoder)
    (items : List Json) :
    (each decoder .value (Raw.ofItems items)).toOption =
      (each decoder .value (Raw.ofItems (Json.blurredItems items))).toOption := by
  induction items with
  | nil => rfl
  | cons item items ih =>
    simp only [Json.blurredItems, Raw.ofItems, each, toOption_bind, blind item, ih]

theorem Blind.list {α : Type} {decoder : Decoder α} (blind : Blind decoder) :
    Blind (Decoder.list decoder) := by
  intro v
  cases v with
  | array items =>
    simp only [Json.blurred, Raw.ofJson, Decoder.list, toOption_bind, each_blurred blind items]
  | _ => simp only [Json.blurred, Raw.ofJson, Decoder.list, mismatch, Except.toOption]

private theorem entries_blurred {κ α : Type} (key : String → Except DecodeError κ)
    {decoder : Decoder α} (blind : Blind decoder) (members : List (String × Json)) :
    (entries key decoder .value (Raw.ofMembers members)).toOption =
      (entries key decoder .value (Raw.ofMembers (Json.blurredMembers members))).toOption := by
  induction members with
  | nil => rfl
  | cons member members ih =>
    simp only [Json.blurredMembers, Raw.ofMembers, entries, toOption_bind, blind member.2, ih]

theorem Blind.dict {α : Type} {decoder : Decoder α} (blind : Blind decoder) :
    Blind (Dict.decoder decoder) := by
  intro v
  cases v with
  | object members =>
    simp only [Json.blurred, Raw.ofJson, Dict.decoder, Decoder.map, toOption_map, toOption_bind,
      entries_blurred _ blind members]
  | _ => simp only [Json.blurred, Raw.ofJson, Dict.decoder, Decoder.map, mismatch, Except.map,
      Except.toOption]

private theorem fillMembers_blurred {α : Type} (fields : List Field) {fill : Fill α}
    (blind : BlindFill fill) (members : List (String × Json)) (seen : List String) (draft : α) :
    (fillMembers fields fill .value seen (Raw.ofMembers members) draft).toOption =
      (fillMembers fields fill .value seen (Raw.ofMembers (Json.blurredMembers members))
        draft).toOption := by
  induction members generalizing seen draft with
  | nil => rfl
  | cons member members ih =>
    simp only [Json.blurredMembers, Raw.ofMembers, fillMembers, Except.mapError, toOption_bind]
    congr 1
    funext name
    cases fields.find? (·.named name) with
    | none => simp only [Raw.skip_ofJson, toOption_bind, ih]
    | some field =>
      dsimp only
      split
      · rfl
      · simp only [toOption_bind, blind field.name member.2, ih]

theorem BlindFill.fields {α β : Type} {fill : Fill α} (blind : BlindFill fill) (wanted : String)
    (fields : List Field) (empty : α) (finish : α → Except DecodeError β) :
    Blind (objectOnly wanted (Decoder.fields wanted fields empty fill finish)) := by
  intro v
  cases v with
  | object members =>
    simp only [Json.blurred, Raw.ofJson, objectOnly, Decoder.fields, toOption_bind,
      fillMembers_blurred fields blind members]
  | _ => simp only [Json.blurred, Raw.ofJson, objectOnly, Decoder.fields, mismatch,
      Except.toOption]

end Decoder

namespace Action
open Decoder

private theorem blindFill_fill : BlindFill fill := by
  intro name v draft
  unfold fill
  split <;> simp only [toOption_bind, blind_text v, blind_text.list v, blind_text.dict v]

private theorem blind_argumentsDecoder {name : String} {decoder : Decoder Action}
    (known : argumentsDecoder name = some decoder) : Blind decoder := by
  unfold argumentsDecoder at known
  split at known <;>
    first
    | contradiction
    | (cases known; exact blindFill_fill.fields _ _ _ _)

private theorem toOption_ofCall_blurred (id other name : String) (arguments : Json) :
    (ofCall ⟨id, name, arguments⟩).toOption =
      (ofCall ⟨other, name, arguments.blurred⟩).toOption := by
  cases arguments with
  | null => rfl
  | bool b => rfl
  | string s => rfl
  | _ =>
    simp only [ofCall, Json.blurred]
    split
    · rfl
    next decoder known =>
      simp only [toOption_mapError]
      exact blind_argumentsDecoder known _

theorem toOption_ofCall_of_repeats {call first : ToolCall} (repeats : call.Repeats first) :
    (ofCall call).toOption = (ofCall first).toOption := by
  obtain ⟨id, name, arguments⟩ := call
  obtain ⟨other, firstName, firstArguments⟩ := first
  obtain ⟨names, texts⟩ := repeats
  dsimp only at names texts
  subst names
  have printed : arguments.print ++ [] = firstArguments.print ++ [] := by
    rw [List.append_nil, List.append_nil]
    exact String.ofList_injective texts
  have nothing : Json.Ended [] := fun c first => nomatch first
  obtain ⟨alike, -⟩ := Json.print_append_inj _ _ nothing nothing printed
  rw [toOption_ofCall_blurred id id name arguments, alike, ← toOption_ofCall_blurred]

end Action

end Blind

end PathAudit
