import PathAudit.Text.Truncated
import Mathlib.Data.List.Infix
import Mathlib.Tactic.SplitIfs

/-! Where a long text is cut. Kept is the longest head of whole characters within the limit. Among
the bytes of the text it ends at the first place between two characters that a search from the limit
back to the start comes to. The start is such a place, so the search never leaves the text; and a
character has at most four bytes, so it goes back over three at most. -/
namespace PathAudit

namespace Utf8

def isContinuation (b : UInt8) : Bool := 0x80 ≤ b.toNat && b.toNat < 0xC0

/-- Whether a place among the bytes of a text is its start, its end or the start of a character. -/
def isBoundary (bytes : List UInt8) (place : Nat) : Bool :=
  place == 0 ||
    match bytes[place]? with
    | some b => !isContinuation b
    | none => place == bytes.length

/-- Goes back byte by byte to the first boundary. A step back from the start gives `none`. -/
def searchBack (bytes : List UInt8) : Nat → Option Nat
  | 0 => if isBoundary bytes 0 then some 0 else none
  | place + 1 => if isBoundary bytes (place + 1) then some (place + 1) else searchBack bytes place

theorem searchBack_of_greatest {bytes : List UInt8} {place found : Nat}
    (boundary : isBoundary bytes found = true) (within : found ≤ place)
    (greatest : ∀ other ≤ place, isBoundary bytes other = true → other ≤ found) :
    searchBack bytes place = some found := by
  induction place with
  | zero =>
    obtain rfl : found = 0 := Nat.le_zero.mp within
    rw [searchBack, if_pos boundary]
  | succ place ih =>
    rw [searchBack]
    split
    next here =>
      have least : place + 1 ≤ found := greatest (place + 1) le_rfl here
      rw [Nat.le_antisymm within least]
    next elsewhere =>
      have apart : found ≠ place + 1 := by
        rintro rfl
        exact elsewhere boundary
      apply ih
      · omega
      · intro other below
        exact greatest other (by omega)

section Bytes

theorem isContinuation_toUInt8 {n : Nat} (byte : n < 256) :
    isContinuation n.toUInt8 = decide (0x80 ≤ n ∧ n < 0xC0) := by
  have same : n.toUInt8.toNat = n := Nat.mod_eq_of_lt byte
  rw [isContinuation, same, Bool.decide_and]

theorem length_encodeChar (c : Char) : (encodeChar c).length = c.utf8Size := by
  unfold encodeChar Char.utf8Size
  simp only [UInt32.le_iff_toNat_le, Char.toNat]
  split_ifs <;> simp_all <;> omega

theorem encodeChar_eq_cons (c : Char) : ∃ first others, encodeChar c = first :: others ∧
    isContinuation first = false ∧ ∀ b ∈ others, isContinuation b = true := by
  have valid : c.toNat < 0x110000 := by
    have valid : c.toNat < 0xD800 ∨ 0xDFFF < c.toNat ∧ c.toNat < 0x110000 := c.valid
    omega
  have tail (n : Nat) : isContinuation (0x80 + n % 0x40).toUInt8 = true := by
    rw [isContinuation_toUInt8 (by omega), decide_eq_true_iff]
    omega
  have lead {n : Nat} (byte : n < 256) (apart : n < 0x80 ∨ 0xC0 ≤ n) :
      isContinuation n.toUInt8 = false := by
    rw [isContinuation_toUInt8 byte, decide_eq_false_iff_not]
    omega
  unfold encodeChar
  dsimp only
  split_ifs with one two three
  all_goals
    refine ⟨_, _, rfl, lead (by omega) (by omega), ?_⟩
    simp only [List.forall_mem_cons, List.not_mem_nil, false_imp_iff, implies_true, tail, and_self]

@[simp] theorem size_nil : size [] = 0 := rfl

@[simp] theorem size_cons (c : Char) (s : List Char) : size (c :: s) = c.utf8Size + size s := rfl

@[simp] theorem size_append (s t : List Char) : size (s ++ t) = size s + size t := by
  simp [size]

theorem encode_cons (c : Char) (s : List Char) : encode (c :: s) = encodeChar c ++ encode s := rfl

theorem encode_append (s t : List Char) : encode (s ++ t) = encode s ++ encode t := by
  simp [encode]

theorem length_encode (s : List Char) : (encode s).length = size s := by
  induction s with
  | nil => rfl
  | cons c s ih => rw [encode_cons, List.length_append, length_encodeChar, ih, size_cons]

theorem starts_encode (s : List Char) : ∀ b ∈ (encode s).head?, isContinuation b = false := by
  intro b member
  cases s with
  | nil => contradiction
  | cons c s =>
    obtain ⟨first, others, bytes, lead, -⟩ := encodeChar_eq_cons c
    rw [encode_cons, bytes] at member
    obtain rfl := Option.some.inj member
    exact lead

end Bytes

section Boundaries

theorem isBoundary_append {bytes rest : List UInt8} (some : bytes ≠ [])
    (starts : ∀ b ∈ rest.head?, isContinuation b = false) (place : Nat) :
    isBoundary (bytes ++ rest) (bytes.length + place) = isBoundary rest place := by
  have later : bytes.length + place ≠ 0 := by
    have := List.length_pos_of_ne_nil some
    omega
  have here : (bytes ++ rest)[bytes.length + place]? = rest[place]? := by
    rw [List.getElem?_append_right (Nat.le_add_right _ _), Nat.add_sub_cancel_left]
  rw [isBoundary, here, isBoundary, beq_eq_false_iff_ne.mpr later, Bool.false_or]
  cases place with
  | zero =>
    -- The start of the rest counts as a boundary by itself; here it does by its first byte.
    cases rest with
    | nil => simp
    | cons b rest => simp [starts b rfl]
  | succ place =>
    cases rest[place + 1]? with
    | none => simp
    | some b => simp

theorem isBoundary_encode_cons (c : Char) (s : List Char) (place : Nat) :
    isBoundary (encode (c :: s)) place = true ↔
      place = 0 ∨ c.utf8Size ≤ place ∧ isBoundary (encode s) (place - c.utf8Size) = true := by
  obtain ⟨first, others, bytes, -, tail⟩ := encodeChar_eq_cons c
  have some : encodeChar c ≠ [] := by simp [bytes]
  rw [encode_cons, ← length_encodeChar]
  rcases Nat.eq_zero_or_pos place with rfl | inside
  · simp [isBoundary]
  rcases Nat.lt_or_ge place (encodeChar c).length with within | beyond
  · -- Inside the character there are only bytes with which none begins.
    have byte : (encodeChar c)[place] ∈ others := by
      simp only [bytes]
      rw [List.getElem_cons, dif_neg (by omega)]
      exact List.getElem_mem _
    rw [isBoundary, List.getElem?_append_left within, List.getElem?_eq_getElem within]
    simp [tail _ byte, inside.ne', Nat.not_le.mpr within]
  · obtain ⟨past, rfl⟩ := Nat.exists_eq_add_of_le beyond
    rw [isBoundary_append some (starts_encode s), Nat.add_sub_cancel_left]
    simp [some]

theorem isBoundary_encode_iff (s : List Char) (place : Nat) :
    isBoundary (encode s) place = true ↔ ∃ head, head <+: s ∧ size head = place := by
  induction s generalizing place with
  | nil => simp [isBoundary, encode, eq_comm (a := 0)]
  | cons c s ih =>
    rw [isBoundary_encode_cons, ih]
    constructor
    · rintro (rfl | ⟨beyond, head, isHead, size⟩)
      · exact ⟨[], List.nil_prefix, rfl⟩
      · refine ⟨c :: head, List.cons_prefix_cons.mpr ⟨rfl, isHead⟩, ?_⟩
        rw [size_cons]
        omega
    · rintro ⟨head, isHead, rfl⟩
      cases head with
      | nil => exact .inl rfl
      | cons d head =>
        obtain ⟨rfl, onward⟩ := List.cons_prefix_cons.mp isHead
        rw [size_cons]
        exact .inr ⟨Nat.le_add_right _ _, head, onward, (Nat.add_sub_cancel_left _ _).symm⟩

end Boundaries

structure LongestHead (limit : Nat) (s kept : List Char) : Prop where
  isHead : kept <+: s
  fits : size kept ≤ limit
  longest : ∀ other, other <+: s → size other ≤ limit → other <+: kept

theorem longestHead_takeBytes (limit : Nat) (s : List Char) :
    LongestHead limit s (takeBytes limit s) := by
  refine ⟨?_, size_takeBytes_le limit s, ?_⟩
  · induction s generalizing limit with
    | nil => exact List.nil_prefix
    | cons c s ih =>
      rw [takeBytes]
      split
      · exact List.cons_prefix_cons.mpr ⟨rfl, ih _⟩
      · exact List.nil_prefix
  · intro other isHead small
    induction other generalizing limit s with
    | nil => exact List.nil_prefix
    | cons c other ih =>
      obtain ⟨rest, rfl⟩ := isHead
      rw [size_cons] at small
      rw [List.cons_append, takeBytes, if_pos (by omega)]
      exact List.cons_prefix_cons.mpr ⟨rfl, ih _ _ ⟨rest, rfl⟩ (by omega)⟩

namespace LongestHead
variable {limit : Nat} {s kept : List Char}

theorem size_le (longest : LongestHead limit s kept) {other : List Char} (isHead : other <+: s)
    (small : size other ≤ limit) : size other ≤ size kept := by
  obtain ⟨rest, rfl⟩ := longest.longest other isHead small
  rw [size_append]
  omega

theorem unique {other : List Char} (longest : LongestHead limit s kept)
    (another : LongestHead limit s other) : kept = other := by
  apply (another.longest kept longest.isHead longest.fits).eq_of_length_le
  exact (longest.longest other another.isHead another.fits).length_le

theorem searchBack_encode (longest : LongestHead limit s kept) :
    searchBack (encode s) limit = some (size kept) := by
  apply searchBack_of_greatest
  · exact (isBoundary_encode_iff s _).mpr ⟨kept, longest.isHead, rfl⟩
  · exact longest.fits
  · intro other within boundary
    obtain ⟨head, isHead, rfl⟩ := (isBoundary_encode_iff s other).mp boundary
    exact longest.size_le isHead within

theorem le_size_add (longest : LongestHead limit s kept) (long : limit < size s) :
    limit ≤ size kept + 3 := by
  obtain ⟨rest, rfl⟩ := longest.isHead
  cases rest with
  | nil => exact absurd longest.fits (by simpa using long)
  | cons next rest =>
    -- With one more character the head would not fit, and that character has four bytes at most.
    have excess : ¬size (kept ++ [next]) ≤ limit := by
      intro small
      have within := longest.size_le (List.prefix_append_right_inj kept |>.mpr ⟨rest, rfl⟩) small
      have wide := next.utf8Size_pos
      simp only [size_append, size_cons, size_nil] at within
      omega
    have narrow := next.utf8Size_le_four
    simp only [size_append, size_cons, size_nil] at excess
    omega

theorem take_encode (longest : LongestHead limit s kept) :
    (encode s).take (size kept) = encode kept := by
  obtain ⟨rest, rfl⟩ := longest.isHead
  rw [encode_append, ← length_encode, List.take_left]

end LongestHead

end Utf8

/-- A text within the limit is left as it is. Of a longer one the longest head within the limit is
kept, with a note on both sizes. That head is what stands before the place where the search back
from the limit ends: never before the start, at most three bytes from the limit, and between two
characters, so that the bytes before it are those of a text. -/
theorem truncated_longest_head (limit : Nat) (s : String) :
    (byteSize s ≤ limit → truncated limit s = s) ∧
    (limit < byteSize s → ∃ kept : String,
      Utf8.LongestHead limit s.toList kept.toList ∧
      truncated limit s = kept ++ "\n\n[truncated: " ++ decimal (byteSize s) ++ " bytes -> " ++
        decimal (byteSize kept) ++ " bytes]" ∧
      (Utf8.searchBack (Utf8.encode s.toList) limit = some (byteSize kept) ∧
        byteSize kept ≤ limit ∧ limit ≤ byteSize kept + 3) ∧
      Utf8.decode ((Utf8.encode s.toList).take (byteSize kept)) = some kept.toList) := by
  constructor
  · intro short
    rw [truncated, if_pos short]
  · intro long
    have longest := Utf8.longestHead_takeBytes limit s.toList
    have size : byteSize (String.ofList (Utf8.takeBytes limit s.toList)) =
        Utf8.size (Utf8.takeBytes limit s.toList) := by
      rw [byteSize, String.toList_ofList]
    refine ⟨String.ofList (Utf8.takeBytes limit s.toList), ?_⟩
    rw [String.toList_ofList, size, truncated, if_neg (Nat.not_le.mpr long)]
    refine ⟨longest, rfl, ⟨longest.searchBack_encode, longest.fits, longest.le_size_add long⟩, ?_⟩
    rw [longest.take_encode, Utf8.decode_encode]

/-- These characters have four bytes each. One limit falls inside the third, one is met exactly. -/
theorem truncated_longest_head_inside :
    (byteSize "🦀🦀🦀🦀" ≤ 16 ∧ truncated 16 "🦀🦀🦀🦀" = "🦀🦀🦀🦀") ∧
      10 < byteSize "🦀🦀🦀🦀" ∧
      truncated 10 "🦀🦀🦀🦀" = "🦀🦀\n\n[truncated: 16 bytes -> 8 bytes]" ∧
      Utf8.searchBack (Utf8.encode "🦀🦀🦀🦀".toList) 10 = some 8 := by
  have short : byteSize "🦀🦀🦀🦀" ≤ 16 := by decide
  have long : 10 < byteSize "🦀🦀🦀🦀" := by decide
  obtain ⟨kept, longest, cut, ⟨found, -, -⟩, -⟩ := (truncated_longest_head 10 "🦀🦀🦀🦀").2 long
  have whole : Utf8.LongestHead 10 "🦀🦀🦀🦀".toList "🦀🦀".toList :=
    Utf8.longestHead_takeBytes 10 "🦀🦀🦀🦀".toList
  obtain rfl : kept = "🦀🦀" := String.toList_inj.mp (longest.unique whole)
  exact ⟨⟨short, (truncated_longest_head 16 "🦀🦀🦀🦀").1 short⟩, long, cut, found⟩

end PathAudit
