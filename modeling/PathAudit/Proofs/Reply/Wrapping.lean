import PathAudit.Proofs.Json.Letters
import PathAudit.Proofs.Json.Rereading
import PathAudit.Proofs.Reply.Passages

/-! Objects wrapped in a reply. One that stands amid prose, behind a line of thought or not, is
found by its braces. One in a fence is read back exactly when its text has neither the mark of a
fence nor the end of a line of thought: with either of them in a string, the reply is cut inside the
object, and what is left is not the object. -/
namespace PathAudit.Reply
open Raw

private theorem thought_eq : "</think>".toList = '<' :: "/think>".toList := rfl

private theorem fenceMark_eq : fenceMark = '\x60' :: ['\x60', '\x60'] := rfl

theorem print_object (members : List (String × Json)) :
    ∃ inner, (Json.object members).print = '\x7b' :: (inner ++ ['\x7d']) := by
  cases members with
  | nil => exact ⟨[], rfl⟩
  | cons member members => exact ⟨_, rfl⟩

section Found
variable {members : List (String × Json)}

theorem members_of_candidate (integral : (Json.object members).Integral) {text : String}
    (found : candidate? text.toList = some (Json.object members).print) :
    Reply.members text = .ok members := by
  have parsed : Json.parse (String.ofList (Json.object members).print) = .ok (.object members) :=
    integral.parse
  simp only [Reply.members, Reply.value, found, parsed, bind, Except.bind]

/-- The end of a line of thought does not overlap itself, so the last one is where it is written. -/
theorem candidate?_behind (before : List Char) {after : List Char}
    (absent : Text.contains "</think>".toList after = false) :
    candidate? (before ++ ("</think>".toList ++ after)) = candidate? after := by
  have behind : afterThought (before ++ ("</think>".toList ++ after)) = after := by
    rw [afterThought]
    exact congrArg (Option.getD · _) (Text.afterLast_append (by decide) before absent)
  rw [candidate?, candidate?, behind, afterThought_of_absent absent]

end Found

/-- An object amid prose is found, whatever line of thought goes before. -/
theorem object_amid_prose {members : List (String × Json)}
    (integral : (Json.object members).Integral) (thought : Option String) {before after : String}
    (unopened : '\x7b' ∉ before.toList) (unclosed : '\x7d' ∉ after.toList)
    (unmarked : Unmarked (before ++ (Json.object members).compact ++ after)) :
    Reply.members ((thought.map (· ++ "</think>")).getD "" ++
      (before ++ (Json.object members).compact ++ after)) = .ok members := by
  refine members_of_candidate integral ?_
  have found : candidate? (before ++ (Json.object members).compact ++ after).toList =
      some (Json.object members).print := by
    obtain ⟨inner, braces⟩ := print_object members
    have whole : (before ++ (Json.object members).compact ++ after).toList =
        before.toList ++ '\x7b' :: (inner ++ '\x7d' :: after.toList) := by
      simp [Json.compact, braces]
    rw [unmarked.candidate, whole, outerObject?_between unopened unclosed, braces]
  cases thought with
  | none => rwa [Option.map_none, Option.getD_none, String.empty_append]
  | some told =>
    rw [Option.map_some, Option.getD_some, String.toList_append, String.toList_append,
      List.append_assoc, candidate?_behind told.toList unmarked.thought]
    exact found

def busyFeedback : List (String × Json) :=
  [("feedback", .string "<think> \"\x7b\\x\x7d\",\nthen `` or </thought>"),
    ("seen", .object [("is_vulnerable", .bool true)])]

theorem busyFeedback_integral : (Json.object busyFeedback).Integral := by
  have increasing : Increasing busyFeedback := by
    unfold Increasing
    decide
  exact ⟨⟨trivial, ⟨trivial, trivial⟩, trivial⟩,
    ⟨increasing, trivial, ⟨List.pairwise_singleton _ _, trivial, trivial⟩, trivial⟩, by decide⟩

theorem object_amid_prose_busyFeedback :
    Reply.members ("a \x7bguess\x7d</think>```json\n\x7b\x7d\n```" ++ "</think>" ++
      ("\nVerdict\x7d: " ++ (Json.object busyFeedback).compact ++ " (as asked \x7b)")) =
        .ok busyFeedback :=
  object_amid_prose busyFeedback_integral (some "a \x7bguess\x7d</think>```json\n\x7b\x7d\n```")
    (by decide) (by decide) ⟨by decide +kernel, by decide +kernel⟩

/-- A reply with an object in a fence, as reasoners are asked for it. -/
def fencedReply (members : List (String × Json)) : String :=
  "```json\n" ++ (Json.object members).compact ++ "\n```"

section Fenced
variable {members : List (String × Json)}

theorem toList_fencedReply (members : List (String × Json)) :
    (fencedReply members).toList =
      "```json".toList ++ '\n' :: ((Json.object members).print ++ '\n' :: fenceMark) := by
  simp [fencedReply, Json.compact, fenceMark]

theorem fenced?_fencedReply (members : List (String × Json)) :
    fenced? (fencedReply members).toList =
      (Text.splitFirst fenceMark ((Json.object members).print ++ '\n' :: fenceMark)).map
        (Text.trimEnd ·.1) := by
  obtain ⟨inner, braces⟩ := print_object members
  have opened : (fencedReply members).toList =
      fenceMark ++
        ("json".toList ++ '\n' :: ((Json.object members).print ++ '\n' :: fenceMark)) := by
    rw [toList_fencedReply]
    rfl
  have started (rest : List Char) :
      Text.trimStart (withoutLanguage ("json".toList ++ '\n' :: '\x7b' :: rest)) =
        '\x7b' :: rest := rfl
  rw [fenced?, opened, Text.splitFirst_self, braces]
  dsimp only [bind, Option.bind]
  rw [List.cons_append, started]
  cases Text.splitFirst fenceMark ('\x7b' :: (inner ++ ['\x7d'] ++ '\n' :: fenceMark)) <;> rfl

theorem contains_thought_fencedReply (members : List (String × Json)) :
    Text.contains "</think>".toList (fencedReply members).toList =
      Text.contains "</think>".toList (Json.object members).print := by
  have barrier : '\n' ∉ '<' :: "/think>".toList := by decide
  rw [toList_fencedReply, thought_eq, Text.contains_barrier barrier, Text.contains_barrier barrier]
  change (false || (_ || false)) = _
  rw [Bool.false_or, Bool.or_false]

theorem candidate?_fencedReply
    (thought : Text.contains "</think>".toList (Json.object members).print = false) :
    candidate? (fencedReply members).toList =
      some (Text.trimEnd (((Text.splitFirst fenceMark (Json.object members).print).map (·.1)).getD
        ((Json.object members).print ++ ['\n']))) := by
  have barrier : '\n' ∉ '\x60' :: ['\x60', '\x60'] := by decide
  rw [candidate?, afterThought_of_absent ((contains_thought_fencedReply members).trans thought),
    fenced?_fencedReply, fenceMark_eq, Text.splitFirst_barrier barrier]
  cases Text.splitFirst ('\x60' :: ['\x60', '\x60']) (Json.object members).print <;> rfl

theorem trimEnd_print (members : List (String × Json)) :
    Text.trimEnd ((Json.object members).print ++ ['\n']) = (Json.object members).print := by
  obtain ⟨inner, braces⟩ := print_object members
  refine Text.trimEnd_append (List.forall_mem_singleton.mpr (by decide)) ?_
  rw [braces, ← List.cons_append, List.getLast?_concat]
  rintro c ⟨⟩
  decide

theorem afterThought_fencedReply {told : List Char}
    (last : Text.afterLast "</think>".toList (Json.object members).print = some told) :
    afterThought (fencedReply members).toList = told ++ '\n' :: fenceMark := by
  have barrier : '\n' ∉ '<' :: "/think>".toList := by decide
  rw [thought_eq] at last
  rw [afterThought, toList_fencedReply, thought_eq, Text.afterLast_barrier barrier,
    Text.afterLast_barrier barrier, last]
  rfl

theorem parse_of_within {more : List Char}
    (within : '\x7b' :: more <:+: (Json.object members).print)
    (found : candidate? (fencedReply members).toList = some ('\x7b' :: more)) {v : Json}
    (known : Reply.value (fencedReply members) = .ok v) :
    Json.parse (String.ofList ('\x7b' :: more)) = .ok v := by
  have single : '\n' ∉ '\x7b' :: more := fun member =>
    Json.break_not_mem_print (.object members) (within.subset member)
  have read := value_cases found known
  rwa [repairQuotes_single (by decide) (by decide) single, or_self] at read

theorem InString.of_told {told candidate : List Char}
    (parsed : Json.parse (Json.object members).compact = .ok (.object members))
    (last : Text.afterLast "</think>".toList (Json.object members).print = some told)
    (fenced : fenced? (told ++ '\n' :: fenceMark) = some candidate) : InString candidate := by
  obtain ⟨passed, whole⟩ := Text.afterLast_cut last
  have followed := follow_of_parse parsed 0
  rw [Json.toList_compact, whole, ← List.append_assoc] at followed
  obtain ⟨p, -, followed⟩ := follow_append_eq_some.mp followed
  have ended : p.follow (told ++ ['\n']) = some ⟨.outside, 1⟩ :=
    follow_append_eq_some.mpr ⟨_, followed, rfl⟩
  refine InString.of_fenced ended (Nat.le_refl _) ?_
  rwa [List.append_assoc]

theorem inString_of_told {told : List Char}
    (parsed : Json.parse (Json.object members).compact = .ok (.object members))
    (last : Text.afterLast "</think>".toList (Json.object members).print = some told)
    (known : Reply.value (fencedReply members) = .ok (.object members)) :
    ∃ s, InString s ∧ Json.parse (String.ofList s) = .ok (.object members) := by
  have behind := afterThought_fencedReply last
  obtain ⟨candidate, found⟩ := exists_candidate known
  -- A string may hold a fence too, closed at the latest by the mark below the object; otherwise
  -- the object is sought by its braces, and there are none below it.
  cases fenced : fenced? (told ++ '\n' :: fenceMark) with
  | some fencedText =>
    obtain ⟨_, _, _, _, -, -, solid⟩ := fenced?_cut fenced
    refine (InString.of_told parsed last fenced).of_value ?_ solid known
    rw [candidate?, behind, fenced]
    rfl
  | none =>
    have cut : outerObject? (told ++ '\n' :: fenceMark) = some candidate := by
      rwa [candidate?, behind, fenced] at found
    have outer : outerObject? told = some candidate :=
      (outerObject?_append told (by decide) (by decide)).symm.trans cut
    obtain ⟨prose, more, after, split, rfl⟩ := outerObject?_within outer
    obtain ⟨passed, whole⟩ := Text.afterLast_cut last
    have within : '\x7b' :: more <:+: (Json.object members).print :=
      ⟨passed ++ ("</think>".toList ++ prose), after, by
        simp only [whole, split, List.append_assoc]⟩
    have read := parse_of_within within found known
    have told_eq : afterThought (Json.object members).compact.toList = told := by
      rw [Json.toList_compact, afterThought, last, Option.getD_some]
    have thought : Text.contains "</think>".toList (Json.object members).compact.toList = true := by
      by_contra absent
      rw [Bool.not_eq_true, Json.toList_compact, ← Text.afterLast_eq_none_iff, last] at absent
      contradiction
    obtain ⟨inside, -⟩ := inString_of_thought parsed thought (told_eq.symm ▸ outer) read
    exact ⟨_, inside, read⟩

/-- A cut behind a line of thought that a string tells of leaves nothing the object could be read
from: what is left begins in that string. -/
theorem thought_of_members (integral : (Json.object members).Integral)
    (known : Reply.members (fencedReply members) = .ok members) :
    occursIn "</think>" (Json.object members).compact = false := by
  rw [occursIn, Json.toList_compact]
  by_contra present
  rw [Bool.not_eq_false] at present
  obtain ⟨told, last⟩ : ∃ told,
      Text.afterLast "</think>".toList (Json.object members).print = some told := by
    refine Option.ne_none_iff_exists'.mp fun none => ?_
    rw [Text.afterLast_eq_none_iff.mp none] at present
    contradiction
  obtain ⟨s, inside, parsed⟩ := inString_of_told integral.parse last (members_eq_ok_iff.mp known)
  have unescaped := inside.not_mem_of_parse parsed (c := '\\') (by decide) (by decide)
  have untagged := inside.not_mem_of_parse parsed (c := '<') (by decide) (by decide)
  have absent := not_mem_print_of_parse Json.borrowed_less parsed unescaped untagged
  rw [thought_eq] at present
  exact absent (Text.mem_of_contains present)

/-- A fence in a string closes the one around the object, and what stands before it lacks the
object's end. -/
theorem fence_of_members (integral : (Json.object members).Integral)
    (known : Reply.members (fencedReply members) = .ok members)
    (thought : occursIn "</think>" (Json.object members).compact = false) :
    occursIn "```" (Json.object members).compact = false := by
  rw [occursIn, Json.toList_compact] at thought ⊢
  have candidate := candidate?_fencedReply thought
  refine Text.splitFirst_eq_none_iff.mp ?_
  by_contra present
  obtain ⟨⟨body, rest⟩, first⟩ := Option.ne_none_iff_exists'.mp present
  have whole : (Json.object members).print = body ++ (fenceMark ++ rest) :=
    Text.splitFirst_cut first
  obtain ⟨most, rfl⟩ : ∃ most, body = '\x7b' :: most := by
    obtain ⟨inner, braces⟩ := print_object members
    rw [braces] at whole
    cases body with
    | nil => exact absurd (List.cons.inj whole).1 (by decide)
    | cons c most => exact ⟨most, by rw [(List.cons.inj whole).1]⟩
  -- Up to the mark the object's text is no object's: one ends where it closes its first brace.
  obtain ⟨kept, trimmed⟩ := Text.trimEnd_cons (c := '\x7b') (by decide) most
  obtain ⟨blank, same⟩ := Text.trimEnd_cut ('\x7b' :: most)
  rw [trimmed, List.cons_append, List.cons.injEq, eq_self, true_and] at same
  have found : candidate? (fencedReply members).toList = some ('\x7b' :: kept) := by
    rw [fenceMark, first] at candidate
    exact candidate.trans (congrArg some trimmed)
  have within : '\x7b' :: kept <:+: (Json.object members).print :=
    ⟨[], blank ++ (fenceMark ++ rest), by rw [whole, same]; simp⟩
  have read := parse_of_within within found (members_eq_ok_iff.mp known)
  have parsed := integral.parse
  rw [Json.compact, whole, same, List.cons_append, List.append_assoc] at parsed
  have spaces := spaces_of_parse_append read parsed
  exact absurd (spaces '\x60' (by simp [fenceMark])) (by decide)

end Fenced

/-- What an object in a fence needs to be read back. -/
theorem fenced_read_back_iff {members : List (String × Json)}
    (integral : (Json.object members).Integral) :
    Reply.members (fencedReply members) = .ok members ↔
      Unmarked (Json.object members).compact := by
  constructor
  · intro known
    have thought := thought_of_members integral known
    exact ⟨fence_of_members integral known thought, thought⟩
  · rintro ⟨fence, thought⟩
    rw [occursIn, Json.toList_compact] at fence thought
    have unclosed := Text.splitFirst_eq_none_iff.mpr fence
    refine members_of_candidate integral ((candidate?_fencedReply thought).trans ?_)
    rw [fenceMark, unclosed, Option.map_none, Option.getD_none, trimEnd_print]

theorem fenced_read_back_busyFeedback :
    (Json.object busyFeedback).Integral ∧ Unmarked (Json.object busyFeedback).compact ∧
      Reply.members (fencedReply busyFeedback) = .ok busyFeedback := by
  have unmarked : Unmarked (Json.object busyFeedback).compact :=
    ⟨by decide +kernel, by decide +kernel⟩
  exact ⟨busyFeedback_integral, unmarked, (fenced_read_back_iff busyFeedback_integral).mpr unmarked⟩

private theorem eq_error {ε α : Type} {result : Except ε α} {fault : ε}
    (known : (match result with
      | .error fault => some fault
      | .ok _ => none) = some fault) : result = .error fault := by
  cases result with
  | error e => rw [Option.some.inj known]
  | ok a => contradiction

/-- A string with the mark of a fence, which ends the fence around the object. -/
def fencingAdvice : List (String × Json) := [("feedback", .string "put it in a ``` block")]

theorem fenced_not_read_back :
    (Json.object fencingAdvice).Integral ∧
      Reply.members (fencedReply fencingAdvice) =
        .error (.invalid "EOF while parsing a string") := by
  have integral : (Json.object fencingAdvice).Integral :=
    ⟨⟨trivial, trivial⟩, ⟨List.pairwise_singleton _ _, trivial, trivial⟩, by decide⟩
  exact ⟨integral, eq_error (by decide +kernel)⟩

end PathAudit.Reply
