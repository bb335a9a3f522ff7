import Mathlib.Algebra.Ring.Nat
import Mathlib.Tactic.SplitIfs

/-!
The order of texts is the order of their bytes in UTF-8. The first byte of a character tells how many
follow, and more for larger characters; those that follow are its last digits to base 64.
-/
namespace MonorepoCheck.Text

/-- The bytes of a text in UTF-8. -/
def utf8 (text : String) : List UInt8 := text.toUTF8.data.toList

theorem utf8_eq (text : String) : utf8 text = text.toList.flatMap String.utf8EncodeChar := by
  rw [utf8, String.toUTF8_eq_toByteArray, ← String.utf8Encode_toList, List.utf8Encode,
    List.toList_data_toByteArray]

section Characters

/-- The last digits of a code point, as the bytes that follow the first one write them. -/
def laterBytes : Nat → Nat → List UInt8
  | 0, _ => []
  | count + 1, code => laterBytes count (code / 64) ++ [UInt8.ofNat (code % 64 + 0x80)]

/-- How many bytes follow the first one. -/
def laterCount (code : Nat) : Nat :=
  if code ≤ 0x7f then 0 else if code ≤ 0x7ff then 1 else if code ≤ 0xffff then 2 else 3

def firstByte (code : Nat) : Nat :=
  if code ≤ 0x7f then code else if code ≤ 0x7ff then code / 64 + 0xc0
  else if code ≤ 0xffff then code / 64 / 64 + 0xe0 else code / 64 / 64 / 64 + 0xf0

theorem code_lt (c : Char) : c.val.toNat < 0x110000 := by
  have valid := c.valid
  unfold UInt32.isValidChar Nat.isValidChar at valid
  omega

theorem encoding_eq (c : Char) : String.utf8EncodeChar c
    = UInt8.ofNat (firstByte c.val.toNat) :: laterBytes (laterCount c.val.toNat) c.val.toNat := by
  have small := code_lt c
  unfold String.utf8EncodeChar firstByte laterCount
  dsimp only
  split_ifs
  all_goals
    simp only [laterBytes, List.nil_append, List.cons_append, Nat.div_div_eq_div_mul, Nat.reduceMul]
  · rw [Nat.mod_eq_of_lt (by omega : c.val.toNat / 64 < 32)]
  · rw [Nat.mod_eq_of_lt (by omega : c.val.toNat / 4096 < 16)]
  · rw [Nat.mod_eq_of_lt (by omega : c.val.toNat / 262144 < 8)]

theorem laterBytes_lt (count : Nat) {m n : Nat} (less : m < n)
    (same : m / 64 ^ count = n / 64 ^ count) (rest others : List UInt8) :
    laterBytes count m ++ rest < laterBytes count n ++ others := by
  induction count generalizing m n rest others with
  | zero => omega
  | succ count ih =>
      rw [laterBytes, laterBytes, List.append_assoc, List.append_assoc]
      have front : m / 64 ≤ n / 64 := Nat.div_le_div_right (Nat.le_of_lt less)
      rcases Nat.lt_or_eq_of_le front with front | front
      · apply ih front
        rwa [Nat.div_div_eq_div_mul, Nat.div_div_eq_div_mul, ← Nat.pow_succ']
      · rw [front]
        apply List.append_left_lt
        apply List.cons_lt_cons_iff.mpr
        left
        rw [UInt8.lt_iff_toNat_lt, UInt8.toNat_ofNat', UInt8.toNat_ofNat']
        omega

/-- A larger character has a larger first byte, or as many bytes of which the later ones differ. -/
theorem firstByte_rises {m n : Nat} (less : m < n) :
    firstByte m < firstByte n ∨ firstByte m = firstByte n ∧ laterCount m = laterCount n
      ∧ m / 64 ^ laterCount m = n / 64 ^ laterCount n := by
  unfold firstByte laterCount
  split_ifs <;> omega

theorem firstByte_lt {code : Nat} (small : code < 0x110000) : firstByte code < 256 := by
  unfold firstByte
  split_ifs <;> omega

/-- The encoding of the smaller character comes first, whatever follows either. -/
theorem encoding_lt {c d : Char} (before : c < d) (rest others : List UInt8) :
    String.utf8EncodeChar c ++ rest < String.utf8EncodeChar d ++ others := by
  have less : c.val.toNat < d.val.toNat := before
  rw [encoding_eq, encoding_eq, List.cons_append, List.cons_append, List.cons_lt_cons_iff]
  rcases firstByte_rises less with first | ⟨first, count, front⟩
  · left
    rw [UInt8.lt_iff_toNat_lt, UInt8.toNat_ofNat_of_lt' (firstByte_lt (code_lt c)),
      UInt8.toNat_ofNat_of_lt' (firstByte_lt (code_lt d))]
    exact first
  · right
    rw [first, count]
    rw [count] at front
    exact ⟨rfl, laterBytes_lt _ less front rest others⟩

end Characters

theorem encodings_lt {cs ds : List Char} (before : cs < ds) :
    cs.flatMap String.utf8EncodeChar < ds.flatMap String.utf8EncodeChar := by
  induction before with
  | nil =>
      rw [List.flatMap_cons, encoding_eq]
      exact List.nil_lt_cons _ _
  | rel less => exact encoding_lt less _ _
  | cons _ ih => exact List.append_left_lt ih

/-- Texts are ordered as their bytes are. -/
theorem lt_iff_utf8 {a b : String} : a < b ↔ utf8 a < utf8 b := by
  have rises {a b : String} (before : a < b) : utf8 a < utf8 b := by
    rw [utf8_eq, utf8_eq]
    exact encodings_lt before
  constructor
  · exact rises
  · intro before
    by_contra notBefore
    by_cases same : b = a
    · exact List.lt_irrefl _ (same ▸ before)
    · exact List.lt_asymm before (rises (Std.lt_of_le_of_ne (String.not_lt.mp notBefore) same))

theorem le_iff_utf8 {a b : String} : a ≤ b ↔ utf8 a ≤ utf8 b := by
  rw [← String.not_lt, lt_iff_utf8, List.not_lt]

end MonorepoCheck.Text
