import PathAudit.Text.Utf8
import Mathlib.Data.String.Basic

/-! The order of texts is the order of their bytes: a character with a greater code is written with
bytes that are greater where they first differ, whatever follows. -/
namespace PathAudit.Utf8

private theorem toUInt8_lt_iff {m n : Nat} (left : m < 256) (right : n < 256) :
    m.toUInt8 < n.toUInt8 ↔ m < n := by
  rw [UInt8.lt_iff_toNat_lt, UInt8.toNat_ofNat', UInt8.toNat_ofNat']
  omega

private theorem toUInt8_inj {m n : Nat} (left : m < 256) (right : n < 256) :
    m.toUInt8 = n.toUInt8 ↔ m = n := by
  rw [← UInt8.toNat_inj, UInt8.toNat_ofNat', UInt8.toNat_ofNat']
  omega

theorem encodeChar_lt {c d : Char} (less : c < d) (more others : List UInt8) :
    encodeChar c ++ more < encodeChar d ++ others := by
  have codes : c.toNat < d.toNat := less
  have top : d.toNat < 0x110000 := by
    have valid : d.toNat.isValidChar := d.valid
    unfold Nat.isValidChar at valid
    omega
  unfold encodeChar
  generalize c.toNat = m at codes ⊢
  generalize d.toNat = n at codes top ⊢
  dsimp only
  split_ifs <;> simp only [List.cons_append, List.nil_append, List.cons_lt_cons_iff] <;>
    simp (disch := omega) only [toUInt8_lt_iff, toUInt8_inj]
  all_goals omega

theorem encode_lt {s t : List Char} (less : s < t) : encode s < encode t := by
  induction less with
  | @nil c rest =>
    change [] < encodeChar c ++ encode rest
    unfold encodeChar
    dsimp only
    split_ifs <;> exact .nil
  | rel first => exact encodeChar_lt first _ _
  | cons _ ih => exact List.append_left_lt ih

def Before (a b : String) : Prop := encode a.toList < encode b.toList

instance (a b : String) : Decidable (Before a b) := inferInstanceAs (Decidable (_ < _))

theorem before_iff (a b : String) : Before a b ↔ a < b := by
  constructor
  · intro before
    rcases lt_trichotomy a b with less | rfl | more
    · exact less
    · exact absurd before (List.lt_irrefl _)
    · exact absurd before (List.lt_asymm (encode_lt more))
  · exact encode_lt

end PathAudit.Utf8
