import MonorepoCheck.Domain.Direction
import MonorepoCheck.Domain.Joining
import MonorepoCheck.Text.Blank
import MonorepoCheck.Text.Bytes
import MonorepoCheck.Text.Letter
import MonorepoCheck.Text.Punycode
import MonorepoCheck.Text.Search

/-!
Names of domains as they stand in addresses: labels with points between them, in any script. `read?`
gives the characters that a name stands for, if it can be a name. A label that starts with `xn--` is
spelt in Punycode. Labels may be empty and of any length.
-/
namespace MonorepoCheck.Domain

/-- Escapes of the form `%41` as the bytes they stand for. -/
def unescape : Text.Bytes → Text.Bytes
  | '%' :: a :: b :: rest =>
    match Text.hexValue? a, Text.hexValue? b with
    | some high, some low => Char.ofNat (high * 16 + low) :: unescape rest
    | _, _ => '%' :: unescape (a :: b :: rest)
  | c :: rest => c :: unescape rest
  | [] => []

/-- ASCII characters that no name has. -/
def isForbidden (c : Char) : Bool :=
  c.toNat ≤ 0x20 || c.toNat == 0x7F || "%#/:<>?@[\\]^`\x7b|\x7d".toList.contains c

/-- What is put in for a character; nothing for one that no name has. -/
def mapped? (c : Char) : Option (List Char) :=
  if c.toNat < 0x80 then if isForbidden c then none else some [Text.lowerAscii c]
  else if refused.contains c then none
  else if dropped.contains c then some []
  else some ((asciiFor? c).getD [c])

/-- Whether a character past ASCII stands for itself in a name. -/
def staysItself (c : Char) : Bool :=
  !refused.contains c && !dropped.contains c && !exchanged.contains c

/-- The characters of a label. In Punycode are only labels that need it. -/
def label? (label : List Char) : Option (List Char) :=
  match Text.after? "xn--".toList label with
  | none => some label
  | some spelling => do
    let text ← Text.Punycode.decode? spelling
    let beyond := text.filter fun c => 0x80 ≤ c.toNat
    if !beyond.isEmpty && beyond.all staysItself then pure text else none

/-- Whether the characters of a label may stand in this order. -/
def isWellPlaced (label : List Char) : Bool :=
  !(label.head?.map marks.contains).getD false && joinersPlaced [] label

/-- The characters that a name stands for. -/
def read? (text : List Char) : Option (List Char) := do
  let bytes := unescape (Text.bytesOfText (String.ofList text))
  let name ← String.fromUTF8? (Text.byteArrayOf bytes)
  let name ← name.toList.mapM mapped?
  let labels ← (Text.splitOn '.' name.flatten).mapM label?
  if labels.all isWellPlaced && directionsAgree labels then pure (Text.join ['.'] labels) else none

end MonorepoCheck.Domain
