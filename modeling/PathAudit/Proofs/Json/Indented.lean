import PathAudit.Proofs.Json.Rereading

/-! The indented text of a value is read as its compact text is: between the same tokens stand
blanks, which the grammar allows everywhere. -/
namespace PathAudit

open Raw

namespace Raw

theorem spaces_newline (level : Nat) : Spaces (Json.newline level) := by
  intro c member
  rcases List.mem_cons.mp member with rfl | later
  · rfl
  · rw [List.eq_of_mem_replicate later]
    rfl

private theorem lead_newline (level : Nat) : Lead true (Json.newline level) :=
  .first (spaces_newline level)

private theorem lead_comma_newline (level : Nat) : Lead false (',' :: Json.newline level) :=
  .next spaces_nil (spaces_newline level)

end Raw

section Writing

mutual

theorem written_printIndented {v : Json} (readable : v.AllNumbers JsonNumber.Readable)
    (level : Nat) : Written (.value v.reread) (v.printIndented level) := by
  cases v with
  | null | bool | number | string =>
    rw [Json.printIndented]
    exact written_print readable
  | array items =>
    cases items with
    | nil => exact written_print readable
    | cons item items =>
      have rest := written_printIndentedItems readable.2 (level + 1) level
      have all := Written.item (lead_newline (level + 1))
        (written_printIndented readable.1 (level + 1)) rest
      have text : (Json.array (item :: items)).printIndented level = '[' ::
          (Json.newline (level + 1) ++ (item.printIndented (level + 1) ++
            (Json.printIndentedItems (level + 1) items ++ (Json.newline level ++ [']'])))) := by
        simp [Json.printIndented]
      rw [text]
      exact .array all
  | object members =>
    cases members with
    | nil => exact written_print readable
    | cons member members =>
      obtain ⟨key, value⟩ := member
      have rest := written_printIndentedMembers readable.2 (level + 1) level
      have all := Written.member (lead_newline (level + 1)) (body_escaped key.toList)
        spaces_nil (spaces_singleton ' ' rfl) (written_printIndented readable.1 (level + 1)) rest
      rw [String.ofList_toList] at all
      have text : (Json.object ((key, value) :: members)).printIndented level = '\x7b' ::
          (Json.newline (level + 1) ++ '"' :: (key.toList.flatMap Json.escapeChar ++ ['"'] ++
            ([] ++ ':' :: ([' '] ++ (value.printIndented (level + 1) ++
              (Json.printIndentedMembers (level + 1) members ++
                (Json.newline level ++ ['\x7d']))))))) := by
        simp [Json.printIndented, Json.quoteText]
      rw [text]
      exact .object all

theorem written_printIndentedItems {items : List Json}
    (readable : Json.AllItems JsonNumber.Readable items) (level outer : Nat) :
    Written (.items false (Json.mapItems JsonNumber.reread items))
      (Json.printIndentedItems level items ++ (Json.newline outer ++ [']'])) := by
  cases items with
  | nil => exact .noItem false (spaces_newline outer)
  | cons item items =>
    have all := Written.item (lead_comma_newline level) (written_printIndented readable.1 level)
      (written_printIndentedItems readable.2 level outer)
    have text : Json.printIndentedItems level (item :: items) ++ (Json.newline outer ++ [']']) =
        (',' :: Json.newline level) ++ (item.printIndented level ++
          (Json.printIndentedItems level items ++ (Json.newline outer ++ [']']))) := by
      simp [Json.printIndentedItems]
    rw [text]
    exact all

theorem written_printIndentedMembers {members : List (String × Json)}
    (readable : Json.AllMembers JsonNumber.Readable members) (level outer : Nat) :
    Written (.members false (Json.mapMembers JsonNumber.reread members))
      (Json.printIndentedMembers level members ++ (Json.newline outer ++ ['\x7d'])) := by
  cases members with
  | nil => exact .noMember false (spaces_newline outer)
  | cons member members =>
    obtain ⟨key, value⟩ := member
    have all := Written.member (lead_comma_newline level) (body_escaped key.toList)
      spaces_nil (spaces_singleton ' ' rfl) (written_printIndented readable.1 level)
      (written_printIndentedMembers readable.2 level outer)
    rw [String.ofList_toList] at all
    have text : Json.printIndentedMembers level ((key, value) :: members) ++
          (Json.newline outer ++ ['\x7d']) =
        (',' :: Json.newline level) ++ '"' :: (key.toList.flatMap Json.escapeChar ++ ['"'] ++
          ([] ++ ':' :: ([' '] ++ (value.printIndented level ++
            (Json.printIndentedMembers level members ++ (Json.newline outer ++ ['\x7d'])))))) := by
      simp [Json.printIndentedMembers, Json.quoteText]
    rw [text]
    exact all

end

end Writing

theorem ofText_pretty {v : Json} (readable : v.AllNumbers JsonNumber.Readable) :
    ofText v.pretty = ⟨ofJson v.reread, false⟩ := by
  have scanned : scan (3 * (v.printIndented 0).length + 3) (v.printIndented 0) =
      (ofJson v.reread, some []) := by
    have found := (written_printIndented readable 0).scans (3 * (v.printIndented 0).length + 3)
      [] [] (by omega) nofun nofun
    rwa [List.nil_append, List.append_nil] at found
  rw [ofText, Json.pretty, String.toList_ofList, scanned]
  rfl

end PathAudit
