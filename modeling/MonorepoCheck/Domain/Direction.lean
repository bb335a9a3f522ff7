import MonorepoCheck.Domain.Characters

/-!
The direction in which the characters of a domain's name are written. Where one of them is written
from the right, each label keeps to a direction: it starts with a letter, and what stands in it and
at its end fits that letter (RFC 5893).
-/
namespace MonorepoCheck.Domain

open Text (CharSet)

/-- Letters that are written from the right. -/
def rightLetters : CharSet :=
  ⟨[
    0x5BE, 0x5BF, 0x5C0, 0x5C1, 0x5C3, 0x5C4, 0x5C6, 0x5C7, 0x5D0, 0x5F5, 0x608, 0x609, 0x60B,
    0x60C, 0x60D, 0x60E, 0x61B, 0x64B, 0x66D, 0x670, 0x671, 0x6D6, 0x6E5, 0x6E7, 0x6EE, 0x6F0,
    0x6FA, 0x711, 0x712, 0x730, 0x74D, 0x7A6, 0x7B1, 0x7EB, 0x7F4, 0x7F6, 0x7FA, 0x7FB, 0x7FE,
    0x816, 0x81A, 0x81B, 0x824, 0x825, 0x828, 0x829, 0x830, 0x859, 0x85E, 0x88F, 0x8A0, 0x8CA,
    0x2135, 0x2139, 0xFB1D, 0xFB1E, 0xFB1F, 0xFB29, 0xFB2A, 0xFD3E, 0xFD50, 0xFDC8, 0xFDF0, 0xFDFD,
    0xFE71, 0xFEFD, 0x10800, 0x1091C, 0x10920, 0x10A01, 0x10A10, 0x10A36, 0x10A40, 0x10AE5,
    0x10AEB, 0x10B36, 0x10B40, 0x10D24, 0x10D40, 0x10D90, 0x10E80, 0x10EAA, 0x10EAD, 0x10EFD,
    0x10F00, 0x10F46, 0x10F51, 0x10F82, 0x10F86, 0x10FF7, 0x1E800, 0x1E8D0, 0x1E900, 0x1E944,
    0x1E94B, 0x1EEBC]⟩

/-- Digits of numbers among letters from the right. -/
def arabicNumbers : CharSet :=
  ⟨[
    0x660, 0x66A, 0x66B, 0x66D, 0x10D30, 0x10D3A, 0x10E60, 0x10E7F]⟩

/-- Digits of other numbers. -/
def europeanNumbers : CharSet :=
  ⟨[
    0xB2, 0xB4, 0xB9, 0xBA, 0xBC, 0xBF, 0x6F0, 0x6FA, 0x2070, 0x2071, 0x2074, 0x207A, 0x2080,
    0x208A, 0x2150, 0x2160, 0x2189, 0x218A, 0x2460, 0x2474, 0x24EA, 0x24EB, 0x3251, 0x3260, 0x32B1,
    0x32CC, 0x3358, 0x3371, 0x33E0, 0x33FF, 0xFF10, 0xFF1A, 0x102E1, 0x102FC, 0x1CCF0, 0x1CCFA,
    0x1D7CE, 0x1D800, 0x1F101, 0x1F10B, 0x1FBF0, 0x1FBFA]⟩

/-- Characters that have no direction. -/
def neutrals : CharSet :=
  ⟨[
    0xA1, 0xAA, 0xAB, 0xB2, 0xB6, 0xB8, 0xBB, 0xBC, 0xBF, 0xC0, 0xD7, 0xD8, 0xF7, 0xF8, 0x2B9,
    0x2BB, 0x2C2, 0x2D0, 0x2D2, 0x2E0, 0x2E5, 0x2EE, 0x2EF, 0x300, 0x374, 0x376, 0x37E, 0x37F,
    0x387, 0x388, 0x3F6, 0x3F7, 0x58A, 0x590, 0x606, 0x608, 0x609, 0x60B, 0x60C, 0x60D, 0x60E,
    0x610, 0x66A, 0x66B, 0x6DE, 0x6DF, 0x6E9, 0x6EA, 0x7F6, 0x7FA, 0x9F2, 0x9F4, 0x9FB, 0x9FC,
    0xAF1, 0xAF2, 0xBF3, 0xBFB, 0xC78, 0xC7F, 0xE3F, 0xE40, 0xF3A, 0xF3E, 0x1390, 0x139A, 0x1400,
    0x1401, 0x169B, 0x169D, 0x17DB, 0x17DC, 0x17F0, 0x180B, 0x1940, 0x1946, 0x19DE, 0x1A00, 0x200C,
    0x205F, 0x207A, 0x207F, 0x208A, 0x208F, 0x20A0, 0x20A8, 0x20A9, 0x20C1, 0x2103, 0x2105, 0x2108,
    0x210A, 0x2114, 0x2115, 0x2117, 0x2119, 0x211E, 0x2120, 0x2123, 0x2124, 0x2125, 0x2126, 0x2127,
    0x2128, 0x2129, 0x212A, 0x212E, 0x212F, 0x213A, 0x213B, 0x2140, 0x2145, 0x214A, 0x214E, 0x218A,
    0x2336, 0x237B, 0x2395, 0x2396, 0x2427, 0x2440, 0x244B, 0x2474, 0x24B6, 0x24EB, 0x26AC, 0x26AD,
    0x2800, 0x2900, 0x2C00, 0x2CE5, 0x2CEB, 0x2CF9, 0x2D00, 0x2E00, 0x2E9F, 0x2EA0, 0x2EF3, 0x3001,
    0x3005, 0x3008, 0x3021, 0x3030, 0x3031, 0x3036, 0x3038, 0x303D, 0x3040, 0x30A0, 0x30A1, 0x30FB,
    0x30FC, 0x31C0, 0x31E4, 0x3200, 0x3244, 0x4DC0, 0x4E00, 0xA490, 0xA4C7, 0xA60D, 0xA610, 0xA673,
    0xA674, 0xA67E, 0xA680, 0xA700, 0xA722, 0xA788, 0xA789, 0xA828, 0xA82C, 0xA838, 0xA83A, 0xA874,
    0xA878, 0xAB6A, 0xAB6C, 0xFB29, 0xFB2A, 0xFD3E, 0xFD50, 0xFDCF, 0xFDD0, 0xFDFD, 0xFE19, 0xFE31,
    0xFE6A, 0xFF01, 0xFF0F, 0xFF1B, 0xFF1E, 0xFF3F, 0xFF40, 0xFF5E, 0xFF66, 0xFFE0, 0xFFEF,
    0x10101, 0x10102, 0x10140, 0x1018D, 0x10190, 0x101A1, 0x1091F, 0x10920, 0x10B39, 0x10B40,
    0x11052, 0x11066, 0x11660, 0x1166D, 0x11FD5, 0x11FF2, 0x16FE2, 0x16FE3, 0x1D1E9, 0x1D242,
    0x1D245, 0x1D246, 0x1D300, 0x1D357, 0x1D6C1, 0x1D6C2, 0x1D6DB, 0x1D6DC, 0x1D6FB, 0x1D6FC,
    0x1D715, 0x1D716, 0x1D735, 0x1D736, 0x1D74F, 0x1D750, 0x1D76F, 0x1D770, 0x1D789, 0x1D78A,
    0x1D7A9, 0x1D7AA, 0x1D7C3, 0x1D7C4, 0x1E2FF, 0x1E300, 0x1EEF0, 0x1F0F6, 0x1F10B, 0x1F12B,
    0x1F12F, 0x1F130, 0x1F16D, 0x1F170, 0x1F1AD, 0x1F1AE, 0x1F240, 0x1F249, 0x1F260, 0x1F8B2,
    0x1F900, 0x1FA89, 0x1FA90, 0x1FABE, 0x1FABF, 0x1FAC6, 0x1FACE, 0x1FADC, 0x1FAE0, 0x1FAE9,
    0x1FAF0, 0x1FBCB]⟩

inductive Direction where
  | left
  | right
  | arabicNumber
  | europeanNumber
  | neutral
  | mark
  deriving DecidableEq, Repr

def Direction.of (c : Char) : Direction :=
  if Text.isAsciiLetter c then .left
  else if Text.isAsciiDigit c then .europeanNumber
  else if c.toNat < 0x80 then .neutral
  else if rightLetters.contains c then .right
  else if arabicNumbers.contains c then .arabicNumber
  else if europeanNumbers.contains c then .europeanNumber
  else if neutrals.contains c then .neutral
  else if marks.contains c then .mark
  else .left

/-- Whether a label keeps to one direction. Marks at its end do not count as its end. -/
def keepsDirection (label : List Char) : Bool :=
  let all := label.map Direction.of
  let last := (all.reverse.dropWhile (· == .mark)).head?
  match all.head? with
  | some .left =>
    !all.any (fun d => d == .right || d == .arabicNumber)
      && (last == some .left || last == some .europeanNumber)
  | some .right =>
    !all.contains .left && !(all.contains .arabicNumber && all.contains .europeanNumber)
      && (last == some .right || last == some .arabicNumber || last == some .europeanNumber)
  | some _ => false
  | none => true

/-- Whether the labels of a name may stand together. -/
def directionsAgree (labels : List (List Char)) : Bool :=
  let mixed := labels.any fun label => label.any fun c =>
    Direction.of c == .right || Direction.of c == .arabicNumber
  !mixed || labels.all keepsDirection

end MonorepoCheck.Domain
