import MonorepoCheck.Digest.Sha256
import MonorepoCheck.Text.Digit

/-!
Short keys for texts: the first half of a SHA-256 digest in hexadecimal.
-/
namespace MonorepoCheck

def hexByte (byte : UInt8) : List Char :=
  [Text.lowerHexDigit (byte.toNat / 16), Text.lowerHexDigit byte.toNat]

/-- Thirty-two lower-case hexadecimal digits that stand for the text. -/
def shortKey (text : String) : String :=
  String.ofList (((Sha256.digest text.toUTF8.toList).take 16).flatMap hexByte)

end MonorepoCheck
