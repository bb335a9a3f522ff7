/-!
Case of ASCII letters. Other characters have no case here: they are compared as they are.
-/
namespace MonorepoCheck.Text

def upperAscii (c : Char) : Char :=
  if 'a' ≤ c && c ≤ 'z' then Char.ofNat (c.toNat - 32) else c

def lowerAscii (c : Char) : Char :=
  if 'A' ≤ c && c ≤ 'Z' then Char.ofNat (c.toNat + 32) else c

def upperAsciiText (text : String) : String := String.ofList (text.toList.map upperAscii)

/-- Equality up to the case of ASCII letters. -/
def sameUpToCase (a b : String) : Bool :=
  a.toList.map upperAscii == b.toList.map upperAscii

end MonorepoCheck.Text
