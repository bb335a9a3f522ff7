import MonorepoCheck.Digest.Key

/-!
Short keys are what they look like: thirty-two lower-case hexadecimal digits, whatever the text.
-/
namespace MonorepoCheck

namespace Sha256

theorem step_length (state : List UInt32) (round : UInt32 × UInt32) :
    (step state round).length = state.length := by
  unfold step
  split <;> rfl

theorem compress_length (state block : List UInt32) :
    (compress state block).length = state.length := by
  have rounds (pairs : List (UInt32 × UInt32)) (start : List UInt32) :
      (pairs.foldl step start).length = start.length := by
    induction pairs generalizing start with
    | nil => rfl
    | cons pair pairs ih => rw [List.foldl_cons, ih, step_length]
  rw [compress, List.length_zipWith, rounds, Nat.min_self]

theorem absorb_length (blocks : Nat) (state words : List UInt32) :
    (absorb blocks state words).length = state.length := by
  induction blocks generalizing state words with
  | zero => rfl
  | succ blocks ih => rw [absorb, ih, compress_length]

theorem digest_length (message : List UInt8) : (digest message).length = 32 := by
  have bytes (word : UInt32) : (bytesOfWord word).length = 4 := rfl
  simp only [digest, List.length_flatMap, bytes, List.map_const', List.sum_replicate_nat,
    absorb_length]
  rfl

end Sha256

/-- Whether a character is a hexadecimal digit in lower case. -/
def isLowerHex (c : Char) : Bool := Text.isAsciiDigit c || ('a' ≤ c && c ≤ 'f')

theorem isLowerHex_lowerHexDigit (n : Nat) : isLowerHex (Text.lowerHexDigit n) = true := by
  have all : ∀ d < 16, isLowerHex (Nat.digitChar d) = true := by decide
  exact all (n % 16) (Nat.mod_lt _ (by decide))

theorem shortKey_length (text : String) : (shortKey text).toList.length = 32 := by
  have digits (byte : UInt8) : (hexByte byte).length = 2 := rfl
  simp only [shortKey, String.toList_ofList, List.length_flatMap, digits, List.map_const',
    List.sum_replicate_nat, List.length_take, Sha256.digest_length]
  rfl

theorem shortKey_digits {text : String} {c : Char} (member : c ∈ (shortKey text).toList) :
    isLowerHex c = true := by
  rw [shortKey, String.toList_ofList] at member
  obtain ⟨byte, _, digit⟩ := List.mem_flatMap.mp member
  rcases List.mem_cons.mp digit with rfl | digit
  · exact isLowerHex_lowerHexDigit _
  · obtain rfl := List.mem_singleton.mp digit
    exact isLowerHex_lowerHexDigit _

end MonorepoCheck
