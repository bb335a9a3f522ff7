import MonorepoCheck.Digest.Key

/-!
Names for runs: sixteen random bytes written as a version 4 UUID.
-/
namespace MonorepoCheck.RunId

/-- Sets the bits that tell the version and the variant. -/
def marked (bytes : List UInt8) : List UInt8 :=
  bytes.zipIdx.map fun (byte, i) =>
    if i = 6 then byte &&& 0x0F ||| 0x40 else if i = 8 then byte &&& 0x3F ||| 0x80 else byte

/-- The digits of the name without its hyphens. -/
def digits (bytes : List UInt8) : List Char := (marked bytes).flatMap hexByte

def ofBytes (bytes : List UInt8) : String :=
  let digits := digits bytes
  let part (start length : Nat) := (digits.drop start).take length
  String.ofList (part 0 8 ++ '-' :: part 8 4 ++ '-' :: part 12 4 ++ '-' :: part 16 4
    ++ '-' :: part 20 12)

end MonorepoCheck.RunId
