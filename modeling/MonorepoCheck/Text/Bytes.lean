/-!
Bytes as characters, one each, and the text that a list of bytes spells in UTF-8. Where the bytes
spell no character, each longest piece that could have started one is replaced.
-/
namespace MonorepoCheck.Text

/-- Characters below 256, one for each byte. -/
abbrev Bytes := List Char

def bytesOf (content : ByteArray) : Bytes :=
  content.data.toList.map fun byte => Char.ofNat byte.toNat

def bytesOfText (text : String) : Bytes := bytesOf text.toUTF8

def byteArrayOf (bytes : Bytes) : ByteArray :=
  ⟨(bytes.map fun c => UInt8.ofNat c.toNat).toArray⟩

/-- Stands for bytes that spell nothing. -/
def replacement : Char := '\ufffd'

/-- The ranges of the bytes that follow a first byte of two or more. -/
def laterRanges (first : Nat) : List (Nat × Nat) :=
  if 0xC2 ≤ first ∧ first ≤ 0xDF then [(0x80, 0xBF)]
  else if first = 0xE0 then [(0xA0, 0xBF), (0x80, 0xBF)]
  else if first = 0xED then [(0x80, 0x9F), (0x80, 0xBF)]
  else if 0xE1 ≤ first ∧ first ≤ 0xEF then [(0x80, 0xBF), (0x80, 0xBF)]
  else if first = 0xF0 then [(0x90, 0xBF), (0x80, 0xBF), (0x80, 0xBF)]
  else if 0xF1 ≤ first ∧ first ≤ 0xF3 then [(0x80, 0xBF), (0x80, 0xBF), (0x80, 0xBF)]
  else if first = 0xF4 then [(0x80, 0x8F), (0x80, 0xBF), (0x80, 0xBF)]
  else []

/-- The bits that the first byte of so many adds to the character. -/
def leadBits (length first : Nat) : Nat :=
  if length = 2 then first % 0x20 else if length = 3 then first % 0x10 else first % 0x08

/-- Decodes bytes after the start of a character: `wanted` are the ranges of the bytes it still
needs, `value` the bits it has. -/
def decodeFrom : List (Nat × Nat) → Nat → Bytes → List Char
  | [], _, [] => []
  | _ :: _, _, [] => [replacement]
  | [], _, c :: rest => start c rest
  | (low, high) :: wanted, value, c :: rest =>
    if low ≤ c.toNat ∧ c.toNat ≤ high then
      let value := value * 0x40 + c.toNat % 0x40
      match wanted with
      | [] => Char.ofNat value :: decodeFrom [] 0 rest
      | wanted => decodeFrom wanted value rest
    else replacement :: start c rest
where
  start (c : Char) (rest : Bytes) : List Char :=
    if c.toNat < 0x80 then c :: decodeFrom [] 0 rest
    else
      match laterRanges c.toNat with
      | [] => replacement :: decodeFrom [] 0 rest
      | ranges => decodeFrom ranges (leadBits (ranges.length + 1) c.toNat) rest

/-- The text that the bytes spell. -/
def decode (bytes : Bytes) : String := String.ofList (decodeFrom [] 0 bytes)

end MonorepoCheck.Text
