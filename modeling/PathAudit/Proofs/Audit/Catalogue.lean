import PathAudit.Proofs.Audit.CallText
import PathAudit.Proofs.Json.Rereading

/-! The catalogue of actions against their decoder. A schema says which members an object has to
have and of which form each one is that it names; members that it does not name are free. Whatever
object is of the form that the catalogue advertises under a name is decoded to an action of that
name, made of just the members named, and the arguments of every action are of that form. -/
namespace PathAudit

namespace Json

def typeName : Json → String
  | .null => "null"
  | .bool _ => "boolean"
  | .number _ => "number"
  | .string _ => "string"
  | .array _ => "array"
  | .object _ => "object"

def declares (schema : Json) (name : String) : Bool :=
  ((schema.get? "properties").bind (·.get? name)).isSome

/-- The value is of the form that the schema describes: of its type, with the members it requires,
and with every member it names and every element of the form given for these. Members it does not
name are free, unless it gives a form for them too. -/
inductive Fits : Json → Json → Prop
  | intro {schema v : Json}
    (type : ∀ name, schema.get? "type" = some (.string name) → v.typeName = name)
    (required : ∀ names members, schema.get? "required" = some (.strings names) →
      v = .object members → ∀ name ∈ names, ∃ value, members.lookup name = some value)
    (properties : ∀ declared name form value, schema.get? "properties" = some (.object declared) →
      declared.lookup name = some form → v.get? name = some value → Fits form value)
    (items : ∀ form items, schema.get? "items" = some form → v = .array items →
      ∀ item ∈ items, Fits form item)
    (additional : ∀ form members, schema.get? "additionalProperties" = some form →
      v = .object members → ∀ member ∈ members, schema.declares member.1 = false →
      Fits form member.2) : Fits schema v

section Forms
variable {schema v : Json}

theorem Fits.string (fits : Fits schema v)
    (typed : schema.get? "type" = some (.string "string")) : ∃ s, v = .string s := by
  obtain ⟨type, -⟩ := fits
  have named := type "string" typed
  cases v with
  | string s => exact ⟨s, rfl⟩
  | _ => simp [typeName] at named

theorem Fits.strings (fits : Fits schema v) (typed : schema.get? "type" = some (.string "array"))
    {form : Json} (elements : schema.get? "items" = some form)
    (texts : form.get? "type" = some (.string "string")) : ∃ ss, v = .strings ss := by
  obtain ⟨type, -, -, each, -⟩ := fits
  have named := type "array" typed
  cases v with
  | array items =>
    have all : ∀ item ∈ items, ∃ s, item = .string s := fun item held =>
      (each form items elements rfl item held).string texts
    choose! s same using all
    refine ⟨items.map s, congrArg Json.array ?_⟩
    rw [List.map_map]
    exact (List.map_id items).symm.trans (List.map_congr_left same)
  | _ => simp [typeName] at named

theorem Fits.table (fits : Fits schema v) (typed : schema.get? "type" = some (.string "object"))
    (unnamed : schema.get? "properties" = none) {form : Json}
    (values : schema.get? "additionalProperties" = some form)
    (texts : form.get? "type" = some (.string "string")) :
    ∃ entries : List (String × String),
      v = .object (entries.map fun (key, s) => (key, .string s)) := by
  obtain ⟨type, -, -, -, additional⟩ := fits
  have named := type "object" typed
  cases v with
  | object members =>
    have all : ∀ member ∈ members, ∃ s, member.2 = .string s := fun member held =>
      (additional form members values rfl member held (by rw [declares, unnamed]; rfl)).string texts
    choose! s same using all
    refine ⟨members.map fun member => (member.1, s member), congrArg Json.object ?_⟩
    rw [List.map_map]
    refine (List.map_id members).symm.trans (List.map_congr_left fun member held => ?_)
    exact Prod.ext rfl (same member held)
  | _ => simp [typeName] at named

theorem fits_string (typed : schema.get? "type" = some (.string "string")) (s : String) :
    Fits schema (.string s) := by
  refine ⟨fun name named => ?_, nofun, nofun, nofun, nofun⟩
  rw [typed] at named
  exact Json.string.inj (Option.some.inj named)

theorem fits_strings (typed : schema.get? "type" = some (.string "array")) {form : Json}
    (elements : schema.get? "items" = some form)
    (texts : form.get? "type" = some (.string "string")) (ss : List String) :
    Fits schema (.strings ss) := by
  refine ⟨fun name named => ?_, nofun, nofun, fun each items found same item held => ?_, nofun⟩
  · rw [typed] at named
    exact Json.string.inj (Option.some.inj named)
  · rw [elements] at found
    cases found
    cases same
    obtain ⟨s, -, rfl⟩ := List.mem_map.mp held
    exact fits_string texts s

theorem fits_table (typed : schema.get? "type" = some (.string "object"))
    (free : schema.get? "required" = none) (unnamed : schema.get? "properties" = none) {form : Json}
    (values : schema.get? "additionalProperties" = some form)
    (texts : form.get? "type" = some (.string "string")) (entries : List (String × String)) :
    Fits schema (.object (entries.map fun (key, s) => (key, .string s))) := by
  refine ⟨fun name named => ?_, fun names own listed _ => ?_, fun declared _ _ _ found _ _ => ?_,
    nofun, fun each own found same member held _ => ?_⟩
  · rw [typed] at named
    exact Json.string.inj (Option.some.inj named)
  · rw [free] at listed
    contradiction
  · rw [unnamed] at found
    contradiction
  · rw [values] at found
    cases found
    cases same
    obtain ⟨entry, -, rfl⟩ := List.mem_map.mp held
    exact fits_string texts entry.2

theorem fits_object {members declared : List (String × Json)} {names : List String}
    (typed : schema.get? "type" = some (.string "object"))
    (required : schema.get? "required" = some (.strings names))
    (found : schema.get? "properties" = some (.object declared))
    (free : schema.get? "additionalProperties" = none)
    (present : ∀ name ∈ names, name ∈ members.map (·.1))
    (formed : ∀ property ∈ declared, ∀ value, members.lookup property.1 = some value →
      Fits property.2 value) : Fits schema (.object members) := by
  refine ⟨fun name named => ?_, fun wanted own listed same name inside => ?_,
    fun known name form value listed formedAs held => ?_, nofun, fun form own listed _ => ?_⟩
  · rw [typed] at named
    exact Json.string.inj (Option.some.inj named)
  · rw [required] at listed
    cases same
    have alike := Json.array.inj (Option.some.inj listed)
    have names : names = wanted := List.map_injective_iff.mpr (fun _ _ => Json.string.inj) alike
    obtain ⟨member, held, rfl⟩ := List.mem_map.mp (present name (names ▸ inside))
    exact Option.isSome_iff_exists.mp
      (List.lookup_isSome_iff.mpr ⟨member, held, beq_self_eq_true _⟩)
  · rw [found] at listed
    cases listed
    obtain ⟨before, after, rfl, -⟩ := List.lookup_eq_some_iff.mp formedAs
    exact formed (name, form) (List.mem_append_right _ List.mem_cons_self) value held
  · rw [free] at listed
    contradiction

end Forms

theorem Fits.member {schema form : Json} {members declared : List (String × Json)}
    (fits : Fits schema (.object members)) (name : String) {names : List String}
    (wanted : schema.get? "required" = some (.strings names)) (listed : name ∈ names)
    (found : schema.get? "properties" = some (.object declared))
    (formed : declared.lookup name = some form) :
    ∃ value, members.lookup name = some value ∧ Fits form value := by
  obtain ⟨-, required, properties, -, -⟩ := fits
  obtain ⟨value, held⟩ := required names members wanted rfl name listed
  exact ⟨value, held, properties declared name form value found formed held⟩

theorem Fits.text {schema form : Json} {members declared : List (String × Json)}
    (fits : Fits schema (.object members)) (name : String) {names : List String}
    (wanted : schema.get? "required" = some (.strings names)) (listed : name ∈ names)
    (found : schema.get? "properties" = some (.object declared))
    (formed : declared.lookup name = some form)
    (typed : form.get? "type" = some (.string "string")) :
    ∃ s, members.lookup name = some (.string s) := by
  obtain ⟨value, held, inner⟩ := fits.member name wanted listed found formed
  obtain ⟨s, rfl⟩ := inner.string typed
  exact ⟨s, held⟩

theorem declares_iff {schema : Json} {declared : List (String × Json)}
    (found : schema.get? "properties" = some (.object declared)) (name : String) :
    schema.declares name = true ↔ name ∈ declared.map (·.1) := by
  have same : schema.declares name = (declared.lookup name).isSome := by
    rw [declares, found]
    rfl
  rw [same, List.lookup_isSome_iff, List.mem_map]
  simp only [beq_iff_eq, @eq_comm _ name]

end Json

section Members
variable {p : String → Bool} {members : List (String × Json)}

theorem lookup_filter (key : String) :
    (members.filter (p ·.1)).lookup key = if p key then members.lookup key else none := by
  induction members with
  | nil => simp
  | cons member members ih =>
    obtain ⟨k, value⟩ := member
    by_cases same : key = k
    · subst same
      by_cases kept : p key <;> simp [kept, ih]
    · by_cases kept : p k <;> simp [List.lookup_cons, beq_false_of_ne same, kept, ih]

theorem filter_eq_of_lookup {known : List (String × Json)} (increasing : Increasing members)
    (sorted : Increasing known) (held : ∀ member ∈ known, members.lookup member.1 = some member.2)
    (picked : ∀ name, p name = true ↔ name ∈ known.map (·.1)) : members.filter (p ·.1) = known := by
  have filtered : Increasing (members.filter (p ·.1)) :=
    List.Pairwise.sublist (List.Sublist.map _ List.filter_sublist) increasing
  refine filtered.ext sorted fun key => ?_
  rw [lookup_filter]
  split
  next inside =>
    obtain ⟨member, listed, rfl⟩ := List.mem_map.mp ((picked key).mp inside)
    have distinct : (known.map (·.1)).Nodup := sorted.imp fun below => String.ne_of_lt below
    rw [held member listed, lookup_of_mem distinct listed]
  next outside =>
    refine (List.lookup_eq_none_iff.mpr fun member listed => bne_iff_ne.mpr fun same => ?_).symm
    exact outside ((picked key).mpr (same ▸ List.mem_map_of_mem listed))

end Members

namespace Decoder

private theorem find?_plain (names : List String) (name : String) :
    (names.map (Field.mk · [] false)).find? (·.named name) =
      if names.contains name then some ⟨name, [], false⟩ else none := by
  induction names with
  | nil => rfl
  | cons first names ih =>
    rw [List.map_cons, List.find?_cons, ih, List.contains_cons]
    by_cases same : first = name
    · simp [Field.named, same]
    · simp [Field.named, beq_false_of_ne same, Ne.symm same]

theorem fields_surplus {σ α : Type} (wanted : String) (names : List String) (empty : σ)
    (fill : Fill σ) (finish : σ → Except DecodeError α) (origin : Origin)
    (members : List (String × Json)) :
    let decoder := fields wanted (names.map (Field.mk · [] false)) empty fill finish
    decoder origin (.ofJson (.object members)) =
      decoder origin (.ofJson (.object (members.filter (names.contains ·.1)))) := by
  have onward (seen : List String) (state : σ) :
      fillMembers (names.map (Field.mk · [] false)) fill origin seen (Raw.ofMembers members) state =
        fillMembers (names.map (Field.mk · [] false)) fill origin seen
          (Raw.ofMembers (members.filter (names.contains ·.1))) state := by
    induction members generalizing seen state with
    | nil => rfl
    | cons member members ih =>
      obtain ⟨name, value⟩ := member
      cases wanted : names.contains name with
      | true =>
        simp only [List.filter_cons, wanted, if_true, Raw.ofMembers, fillMembers, mapError_ok,
          find?_plain, bind, Except.bind, ih]
      | false =>
        simp only [List.filter_cons, wanted, Bool.false_eq_true, if_false, Raw.ofMembers,
          fillMembers, mapError_ok, find?_plain, Raw.skip_ofJson, bind, Except.bind, ih]
  simp only [fields, Raw.ofJson, onward]

end Decoder

namespace Action

section Decoding

private theorem finished {action : String} {fields : List String}
    {finish : Draft → Except DecodeError Action} {origin : Origin} {raw : Raw} {a : Action}
    (decoded : variant action fields finish origin raw = .ok a) : ∃ d, finish d = .ok a := by
  unfold variant Decoder.objectOnly at decoded
  split at decoded
  next => contradiction
  next =>
    obtain ⟨d, -, done⟩ := Decoder.exists_of_fields (p := fun _ => True)
      (fun _ _ _ _ _ _ => trivial) trivial decoded
    exact ⟨d, done⟩

theorem name_of_decoded {name : String} {decoder : Decoder Action} {origin : Origin} {raw : Raw}
    {a : Action} (known : argumentsDecoder name = some decoder)
    (decoded : decoder origin raw = .ok a) : a.name = name := by
  unfold argumentsDecoder at known
  split at known
  next =>
    cases known
    obtain ⟨d, done⟩ := finished decoded
    obtain ⟨function, -, done⟩ := bind_eq_ok done
    obtain ⟨callers, -, ⟨⟩⟩ := bind_eq_ok done
    rfl
  next =>
    cases known
    obtain ⟨d, done⟩ := finished decoded
    obtain ⟨start, -, done⟩ := bind_eq_ok done
    obtain ⟨intermediates, -, done⟩ := bind_eq_ok done
    obtain ⟨stop, -, done⟩ := bind_eq_ok done
    obtain ⟨label, -, ⟨⟩⟩ := bind_eq_ok done
    rfl
  next =>
    cases known
    obtain ⟨d, done⟩ := finished decoded
    obtain ⟨function, -, done⟩ := bind_eq_ok done
    obtain ⟨updates, -, ⟨⟩⟩ := bind_eq_ok done
    rfl
  next =>
    cases known
    obtain ⟨d, done⟩ := finished decoded
    obtain ⟨function, -, ⟨⟩⟩ := bind_eq_ok done
    rfl
  next =>
    cases known
    obtain ⟨d, done⟩ := finished decoded
    obtain ⟨function, -, ⟨⟩⟩ := bind_eq_ok done
    rfl
  next => contradiction

theorem name_of_ofCall {call : ToolCall} {a : Action} (accepted : ofCall call = .ok a) :
    a.name = call.name := by
  unfold ofCall at accepted
  split at accepted
  next => contradiction
  next =>
    split at accepted
    next => contradiction
    next decoder known => exact name_of_decoded known (mapError_eq_ok accepted)

theorem ofCall_arguments {a : Action} (proper : a.arguments.Ordered) (id : String) :
    ofCall ⟨id, a.name, a.arguments⟩ = .ok a := by
  have object (members : List (String × Json)) :
      Raw.ofJson (.object members) = .object (Raw.ofMembers members) .closed := rfl
  have text (s : String) : Decoder.text .value (.ofJson (.string s)) = .ok s := rfl
  have texts (ss : List String) :
      Decoder.list Decoder.text .value (.ofJson (.strings ss)) = .ok ss :=
    Decoder.list_ofJson fun s _ => text s
  cases a with
  | addFunction function callers =>
    simp [ofCall, arguments, name, argumentsDecoder, variant, Decoder.ofJson, Decoder.objectOnly,
      Decoder.fields, object, Raw.ofMembers, Decoder.fillMembers, Decoder.Field.named, mapError_ok,
      fill, text, texts, addFunctionOf, Decoder.require, bind, Except.bind]
  | compress start intermediates stop label =>
    simp [ofCall, arguments, name, argumentsDecoder, variant, Decoder.ofJson, Decoder.objectOnly,
      Decoder.fields, object, Raw.ofMembers, Decoder.fillMembers, Decoder.Field.named, mapError_ok,
      fill, text, texts, compressOf, Decoder.require, bind, Except.bind]
  | update function updates =>
    have sorted : Increasing updates.entries := by
      have increasing := proper.2.2.1.1
      rwa [Increasing, List.map_map] at increasing
    have table :
        Dict.decoder Decoder.text .value (.ofJson (updates.toJson .string)) = .ok updates :=
      Dict.decoder_toJson sorted fun entry _ => text entry.2
    simp [ofCall, arguments, name, argumentsDecoder, variant, Decoder.ofJson, Decoder.objectOnly,
      Decoder.fields, object, Raw.ofMembers, Decoder.fillMembers, Decoder.Field.named, mapError_ok,
      fill, text, table, updateOf, Decoder.require, bind, Except.bind]
  | inspect function => rfl
  | listCallees function => rfl

end Decoding

theorem fits_arguments (a : Action) :
    ∃ t ∈ catalogue, t.name = a.name ∧ Json.Fits t.parameters a.arguments := by
  have text (s : String) {form : Json} (typed : form.get? "type" = some (.string "string")) :
      ∀ value, some (Json.string s) = some value → Json.Fits form value :=
    fun value held => Option.some.inj held ▸ Json.fits_string typed s
  have texts (ss : List String) {form element : Json}
      (typed : form.get? "type" = some (.string "array")) (each : form.get? "items" = some element)
      (texts : element.get? "type" = some (.string "string")) :
      ∀ value, some (Json.strings ss) = some value → Json.Fits form value :=
    fun value held => Option.some.inj held ▸ Json.fits_strings typed each texts ss
  cases a with
  | addFunction function callers =>
    have present : ∀ name ∈ ["function", "callers"], name ∈ ["callers", "function"] := by decide
    refine ⟨_, .head _, rfl, Json.fits_object rfl rfl rfl rfl present ?_⟩
    exact List.forall_mem_cons.mpr ⟨texts callers rfl rfl rfl,
      List.forall_mem_singleton.mpr (text function rfl)⟩
  | compress start intermediates stop label =>
    have present : ∀ name ∈ ["start_function", "intermediate_functions", "end_function",
        "new_edge_label"], name ∈ ["end_function", "intermediate_functions", "new_edge_label",
        "start_function"] := by decide
    refine ⟨_, .tail _ (.head _), rfl, Json.fits_object rfl rfl rfl rfl present ?_⟩
    exact List.forall_mem_cons.mpr ⟨text stop rfl, List.forall_mem_cons.mpr
      ⟨texts intermediates rfl rfl rfl, List.forall_mem_cons.mpr ⟨text label rfl,
        List.forall_mem_singleton.mpr (text start rfl)⟩⟩⟩
  | update function updates =>
    have present : ∀ name ∈ ["function", "updates"], name ∈ ["function", "updates"] := by decide
    refine ⟨_, .tail _ (.tail _ (.head _)), rfl, Json.fits_object rfl rfl rfl rfl present ?_⟩
    refine List.forall_mem_cons.mpr ⟨text function rfl, List.forall_mem_singleton.mpr ?_⟩
    intro value held
    exact Option.some.inj held ▸ Json.fits_table rfl rfl rfl rfl rfl updates.entries
  | inspect function =>
    have present : ∀ name ∈ ["function"], name ∈ ["function"] := by decide
    refine ⟨_, .tail _ (.tail _ (.tail _ (.head _))), rfl,
      Json.fits_object rfl rfl rfl rfl present ?_⟩
    exact List.forall_mem_singleton.mpr (text function rfl)
  | listCallees function =>
    have present : ∀ name ∈ ["function"], name ∈ ["function"] := by decide
    refine ⟨_, .tail _ (.tail _ (.tail _ (.tail _ (.head _)))), rfl,
      Json.fits_object rfl rfl rfl rfl present ?_⟩
    exact List.forall_mem_singleton.mpr (text function rfl)

section Offers
variable {t : ToolDefinition} (offered : t ∈ catalogue) {members : List (String × Json)}
include offered

theorem ofCall_declared (id : String) (members : List (String × Json)) :
    ofCall ⟨id, t.name, .object members⟩ =
      ofCall ⟨id, t.name, .object (members.filter (t.parameters.declares ·.1))⟩ := by
  have surplus (action : String) (fields : List String) (finish : Draft → Except DecodeError Action)
      {properties : List (String × Json)}
      (found : t.parameters.get? "properties" = some (.object properties))
      (same : (properties.map (·.1)).Perm fields) :
      (variant action fields finish).ofJson (.object members) =
        (variant action fields finish).ofJson
          (.object (members.filter (t.parameters.declares ·.1))) := by
    have declared : t.parameters.declares = fields.contains := by
      funext name
      rw [Bool.eq_iff_iff, Json.declares_iff found, List.contains_iff_mem, same.mem_iff]
    rw [declared]
    exact Decoder.fields_surplus ("struct variant AuditAction::" ++ action) fields {} fill finish
      .value members
  simp only [catalogue, List.mem_cons, List.not_mem_nil, or_false] at offered
  rcases offered with rfl | rfl | rfl | rfl | rfl
  · exact congrArg (Except.mapError _) (surplus _ _ _ rfl (by decide))
  · exact congrArg (Except.mapError _) (surplus _ _ _ rfl (by decide))
  · exact congrArg (Except.mapError _) (surplus _ _ _ rfl (by decide))
  · exact congrArg (Except.mapError _) (surplus _ _ _ rfl (by decide))
  · exact congrArg (Except.mapError _) (surplus _ _ _ rfl (by decide))

theorem exists_of_fits (increasing : Increasing members)
    (fits : Json.Fits t.parameters (.object members)) :
    ∃ a : Action, a.name = t.name ∧
      a.arguments = .object (members.filter (t.parameters.declares ·.1)) := by
  -- An action whose arguments are just the members that the schema names.
  have filled (a : Action) (named : a.name = t.name) {known properties : List (String × Json)}
      (made : a.arguments = .object known)
      (found : t.parameters.get? "properties" = some (.object properties))
      (same : properties.map (·.1) = known.map (·.1)) (sorted : Increasing known)
      (held : ∀ member ∈ known, members.lookup member.1 = some member.2) :
      ∃ a : Action, a.name = t.name ∧
        a.arguments = .object (members.filter (t.parameters.declares ·.1)) := by
    refine ⟨a, named, ?_⟩
    rw [made, filter_eq_of_lookup increasing sorted held fun name => ?_]
    rw [Json.declares_iff found, same]
  have one : ["function"].Pairwise (· < ·) := List.pairwise_singleton _ _
  simp only [catalogue, List.mem_cons, List.not_mem_nil, or_false] at offered
  rcases offered with rfl | rfl | rfl | rfl | rfl
  · obtain ⟨given, heldCallers, formed⟩ := fits.member "callers" rfl (by decide) rfl rfl
    obtain ⟨callers, rfl⟩ := formed.strings rfl rfl rfl
    obtain ⟨function, held⟩ := fits.text "function" rfl (by decide) rfl rfl rfl
    have names : ["callers", "function"].Pairwise (· < ·) := by decide
    refine filled (.addFunction function callers) rfl rfl rfl rfl names ?_
    simp only [List.forall_mem_cons]
    exact ⟨heldCallers, held, nofun⟩
  · obtain ⟨stop, heldStop⟩ := fits.text "end_function" rfl (by decide) rfl rfl rfl
    obtain ⟨between, heldIntermediates, formed⟩ :=
      fits.member "intermediate_functions" rfl (by decide) rfl rfl
    obtain ⟨intermediates, rfl⟩ := formed.strings rfl rfl rfl
    obtain ⟨label, heldLabel⟩ := fits.text "new_edge_label" rfl (by decide) rfl rfl rfl
    obtain ⟨start, heldStart⟩ := fits.text "start_function" rfl (by decide) rfl rfl rfl
    have names : ["end_function", "intermediate_functions", "new_edge_label",
        "start_function"].Pairwise (· < ·) := by decide
    refine filled (.compress start intermediates stop label) rfl rfl rfl rfl names ?_
    simp only [List.forall_mem_cons]
    exact ⟨heldStop, heldIntermediates, heldLabel, heldStart, nofun⟩
  · obtain ⟨function, held⟩ := fits.text "function" rfl (by decide) rfl rfl rfl
    obtain ⟨updates, heldUpdates, formed⟩ := fits.member "updates" rfl (by decide) rfl rfl
    obtain ⟨entries, rfl⟩ := formed.table rfl rfl rfl rfl
    have names : ["function", "updates"].Pairwise (· < ·) := by decide
    refine filled (.update function ⟨entries⟩) rfl rfl rfl rfl names ?_
    simp only [List.forall_mem_cons]
    exact ⟨held, heldUpdates, nofun⟩
  · obtain ⟨function, held⟩ := fits.text "function" rfl (by decide) rfl rfl rfl
    refine filled (.inspect function) rfl rfl rfl rfl one ?_
    exact List.forall_mem_singleton.mpr held
  · obtain ⟨function, held⟩ := fits.text "function" rfl (by decide) rfl rfl rfl
    refine filled (.listCallees function) rfl rfl rfl rfl one ?_
    exact List.forall_mem_singleton.mpr held

end Offers

/-- What is advertised is what is decoded. An object of the form that the catalogue gives for a name
is decoded to an action of that name, made of the members that the form names. The arguments of an
action are of the form given for its name, and are decoded to the action. Whatever is decoded has a
name of the catalogue, which is the action's. -/
theorem catalogue_decodes :
    (∀ t ∈ catalogue, ∀ id members, Json.Ordered (.object members) →
      Json.Fits t.parameters (.object members) →
      ∃ a, ofCall ⟨id, t.name, .object members⟩ = .ok a ∧ a.name = t.name ∧
        a.arguments = .object (members.filter (t.parameters.declares ·.1))) ∧
    (∀ a id, a.arguments.Ordered → ofCall ⟨id, a.name, a.arguments⟩ = .ok a ∧
      ∃ t ∈ catalogue, t.name = a.name ∧ Json.Fits t.parameters a.arguments) ∧
    ∀ call a, ofCall call = .ok a → a.name = call.name ∧ ∃ t ∈ catalogue, t.name = call.name := by
  refine ⟨?_, fun a id proper => ⟨ofCall_arguments proper id, fits_arguments a⟩, ?_⟩
  · intro t offered id members ordered fits
    obtain ⟨a, named, made⟩ := exists_of_fits offered ordered.1 fits
    have proper : a.arguments.Ordered := by
      rw [made]
      refine ⟨List.Pairwise.sublist (List.Sublist.map _ List.filter_sublist) ordered.1, ?_⟩
      refine (Json.orderedMembers_iff _).mpr fun member kept => ?_
      exact (Json.orderedMembers_iff _).mp ordered.2 member (List.mem_of_mem_filter kept)
    refine ⟨a, ?_, named, made⟩
    rw [ofCall_declared offered, ← named, ← made]
    exact ofCall_arguments proper id
  · intro call a accepted
    have named := name_of_ofCall accepted
    obtain ⟨t, offered, same, -⟩ := fits_arguments a
    exact ⟨named, t, offered, same.trans named⟩

private def remarked : List (String × Json) :=
  [("callers", .strings ["a.f", "a.g"]), ("function", .string "load"), ("why", .object [])]

private def noting : Action := .update "a.f" ⟨[("note", "x"), ("summary", "")]⟩

theorem catalogue_decodes_remarked :
    (∃ t ∈ catalogue, Json.Ordered (.object remarked) ∧ Json.Fits t.parameters (.object remarked) ∧
      ∃ a, ofCall ⟨"1", "add_new_function", .object remarked⟩ = .ok a ∧
        a.arguments = .object (remarked.take 2)) ∧
    (noting.arguments.Ordered ∧
      ofCall ⟨"2", "update_function_node", noting.arguments⟩ = .ok noting) ∧
    ∃ t ∈ catalogue, t.name = "update_function_node" := by
  obtain ⟨decodes, rereads, accepts⟩ := catalogue_decodes
  have noted : noting.arguments.Ordered := by
    have inner : ["note", "summary"].Pairwise (· < ·) := by decide
    have outer : ["function", "updates"].Pairwise (· < ·) := by decide
    exact ⟨outer, trivial, ⟨inner, trivial, trivial, trivial⟩, trivial⟩
  have ordered : Json.Ordered (.object remarked) := by
    have names : ["callers", "function", "why"].Pairwise (· < ·) := by decide
    exact ⟨names, ⟨trivial, trivial, trivial⟩, trivial, ⟨.nil, trivial⟩, trivial⟩
  obtain ⟨t, offered, named, fits, shown⟩ : ∃ t ∈ catalogue, t.name = "add_new_function" ∧
      Json.Fits t.parameters (.object remarked) ∧
      remarked.filter (t.parameters.declares ·.1) = remarked.take 2 := by
    have present : ∀ name ∈ ["function", "callers"], name ∈ ["callers", "function", "why"] := by
      decide
    refine ⟨_, .head _, rfl, Json.fits_object rfl rfl rfl rfl present ?_, rfl⟩
    refine List.forall_mem_cons.mpr ⟨fun value held => ?_,
      List.forall_mem_singleton.mpr fun value held => ?_⟩
    · exact Option.some.inj held ▸ Json.fits_strings rfl rfl rfl ["a.f", "a.g"]
    · exact Option.some.inj held ▸ Json.fits_string rfl "load"
  obtain ⟨a, accepted, -, made⟩ := decodes t offered "1" remarked ordered fits
  rw [named] at accepted
  rw [shown] at made
  have reread := (rereads noting "2" noted).1
  exact ⟨⟨t, offered, ordered, fits, a, accepted, made⟩, ⟨noted, reread⟩, (accepts _ _ reread).2⟩

end Action

end PathAudit
