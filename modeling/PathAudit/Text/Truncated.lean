import PathAudit.Number.Decimal
import PathAudit.Text.Utf8

/-! Long texts cut to a number of bytes, never inside a character. -/
namespace PathAudit

/-- The text, or its longest head of at most `limit` bytes followed by a note on both sizes. -/
def truncated (limit : Nat) (s : String) : String :=
  if byteSize s ≤ limit then s
  else
    let kept := Utf8.takeBytes limit s.toList
    String.ofList kept ++ "\n\n[truncated: " ++ decimal (byteSize s) ++ " bytes -> " ++
      decimal (Utf8.size kept) ++ " bytes]"

end PathAudit
