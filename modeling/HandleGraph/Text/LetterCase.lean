/-! # The case of a letter

Unicode's derived properties `Uppercase` and `Lowercase`. Both are read off one table whose runs do
not overlap, so no character has both. Titlecase letters and unassigned code points have neither.
-/

namespace HandleGraph.Text

/-- The two cases a character can have. -/
inductive LetterCase where
  | upper
  | lower
deriving DecidableEq, Repr

/-- A run of consecutive code points that all have a case. -/
inductive CaseRun where
  | upper (first last : Nat)
  | lower (first last : Nat)
  /-- Capital and small letters take turns, a capital first. -/
  | alternating (first last : Nat)
deriving DecidableEq, Repr

/-- The case that a run gives to a code point, if the code point is in it. -/
def CaseRun.find? (code : Nat) : CaseRun → Option LetterCase
  | .upper first last => if first ≤ code ∧ code ≤ last then some .upper else none
  | .lower first last => if first ≤ code ∧ code ≤ last then some .lower else none
  | .alternating first last =>
    if first ≤ code ∧ code ≤ last then
      some (if (code - first) % 2 = 0 then .upper else .lower)
    else none

/-- Every run of cased code points beyond ASCII, in order. -/
def caseRuns : List CaseRun := [
  .lower 0xAA 0xAA, .lower 0xB5 0xB5, .lower 0xBA 0xBA, .upper 0xC0 0xD6, .upper 0xD8 0xDE,
  .lower 0xDF 0xF6, .lower 0xF8 0xFF, .alternating 0x100 0x137, .lower 0x138 0x138,
  .alternating 0x139 0x148, .lower 0x149 0x149, .alternating 0x14A 0x177, .upper 0x178 0x179,
  .lower 0x17A 0x17A, .alternating 0x17B 0x17E, .lower 0x17F 0x180, .upper 0x181 0x182, .lower 0x183 0x183,
  .alternating 0x184 0x185, .upper 0x186 0x187, .lower 0x188 0x188, .upper 0x189 0x18B, .lower 0x18C 0x18D,
  .upper 0x18E 0x191, .lower 0x192 0x192, .upper 0x193 0x194, .lower 0x195 0x195, .upper 0x196 0x198,
  .lower 0x199 0x19B, .upper 0x19C 0x19D, .lower 0x19E 0x19E, .upper 0x19F 0x1A0, .lower 0x1A1 0x1A1,
  .alternating 0x1A2 0x1A5, .upper 0x1A6 0x1A7, .lower 0x1A8 0x1A8, .alternating 0x1A9 0x1AA,
  .lower 0x1AB 0x1AB, .alternating 0x1AC 0x1AD, .upper 0x1AE 0x1AF, .lower 0x1B0 0x1B0, .upper 0x1B1 0x1B3,
  .lower 0x1B4 0x1B4, .alternating 0x1B5 0x1B6, .upper 0x1B7 0x1B8, .lower 0x1B9 0x1BA,
  .alternating 0x1BC 0x1BD, .lower 0x1BE 0x1BF, .upper 0x1C4 0x1C4, .lower 0x1C6 0x1C6, .upper 0x1C7 0x1C7,
  .lower 0x1C9 0x1C9, .upper 0x1CA 0x1CA, .lower 0x1CC 0x1CC, .alternating 0x1CD 0x1DC, .lower 0x1DD 0x1DD,
  .alternating 0x1DE 0x1EF, .lower 0x1F0 0x1F0, .upper 0x1F1 0x1F1, .lower 0x1F3 0x1F3,
  .alternating 0x1F4 0x1F5, .upper 0x1F6 0x1F8, .lower 0x1F9 0x1F9, .alternating 0x1FA 0x233,
  .lower 0x234 0x239, .upper 0x23A 0x23B, .lower 0x23C 0x23C, .upper 0x23D 0x23E, .lower 0x23F 0x240,
  .alternating 0x241 0x242, .upper 0x243 0x246, .lower 0x247 0x247, .alternating 0x248 0x24F,
  .lower 0x250 0x293, .lower 0x296 0x2B8, .lower 0x2C0 0x2C1, .lower 0x2E0 0x2E4, .lower 0x345 0x345,
  .alternating 0x370 0x373, .alternating 0x376 0x377, .lower 0x37A 0x37D, .upper 0x37F 0x37F,
  .upper 0x386 0x386, .upper 0x388 0x38A, .upper 0x38C 0x38C, .upper 0x38E 0x38F, .lower 0x390 0x390,
  .upper 0x391 0x3A1, .upper 0x3A3 0x3AB, .lower 0x3AC 0x3CE, .alternating 0x3CF 0x3D0, .lower 0x3D1 0x3D1,
  .upper 0x3D2 0x3D4, .lower 0x3D5 0x3D7, .alternating 0x3D8 0x3EF, .lower 0x3F0 0x3F3,
  .alternating 0x3F4 0x3F5, .alternating 0x3F7 0x3F8, .upper 0x3F9 0x3FA, .lower 0x3FB 0x3FC,
  .upper 0x3FD 0x42F, .lower 0x430 0x45F, .alternating 0x460 0x481, .alternating 0x48A 0x4BF,
  .upper 0x4C0 0x4C1, .lower 0x4C2 0x4C2, .alternating 0x4C3 0x4CE, .lower 0x4CF 0x4CF,
  .alternating 0x4D0 0x52F, .upper 0x531 0x556, .lower 0x560 0x588, .upper 0x10A0 0x10C5,
  .upper 0x10C7 0x10C7, .upper 0x10CD 0x10CD, .lower 0x10D0 0x10FA, .lower 0x10FC 0x10FF,
  .upper 0x13A0 0x13F5, .lower 0x13F8 0x13FD, .lower 0x1C80 0x1C88, .alternating 0x1C89 0x1C8A,
  .upper 0x1C90 0x1CBA, .upper 0x1CBD 0x1CBF, .lower 0x1D00 0x1DBF, .alternating 0x1E00 0x1E95,
  .lower 0x1E96 0x1E9D, .alternating 0x1E9E 0x1EFF, .lower 0x1F00 0x1F07, .upper 0x1F08 0x1F0F,
  .lower 0x1F10 0x1F15, .upper 0x1F18 0x1F1D, .lower 0x1F20 0x1F27, .upper 0x1F28 0x1F2F,
  .lower 0x1F30 0x1F37, .upper 0x1F38 0x1F3F, .lower 0x1F40 0x1F45, .upper 0x1F48 0x1F4D,
  .lower 0x1F50 0x1F57, .upper 0x1F59 0x1F59, .upper 0x1F5B 0x1F5B, .upper 0x1F5D 0x1F5D,
  .alternating 0x1F5F 0x1F60, .lower 0x1F61 0x1F67, .upper 0x1F68 0x1F6F, .lower 0x1F70 0x1F7D,
  .lower 0x1F80 0x1F87, .lower 0x1F90 0x1F97, .lower 0x1FA0 0x1FA7, .lower 0x1FB0 0x1FB4,
  .lower 0x1FB6 0x1FB7, .upper 0x1FB8 0x1FBB, .lower 0x1FBE 0x1FBE, .lower 0x1FC2 0x1FC4,
  .lower 0x1FC6 0x1FC7, .upper 0x1FC8 0x1FCB, .lower 0x1FD0 0x1FD3, .lower 0x1FD6 0x1FD7,
  .upper 0x1FD8 0x1FDB, .lower 0x1FE0 0x1FE7, .upper 0x1FE8 0x1FEC, .lower 0x1FF2 0x1FF4,
  .lower 0x1FF6 0x1FF7, .upper 0x1FF8 0x1FFB, .lower 0x2071 0x2071, .lower 0x207F 0x207F,
  .lower 0x2090 0x209C, .upper 0x2102 0x2102, .upper 0x2107 0x2107, .lower 0x210A 0x210A,
  .upper 0x210B 0x210D, .lower 0x210E 0x210F, .upper 0x2110 0x2112, .lower 0x2113 0x2113,
  .upper 0x2115 0x2115, .upper 0x2119 0x211D, .upper 0x2124 0x2124, .upper 0x2126 0x2126,
  .upper 0x2128 0x2128, .upper 0x212A 0x212D, .lower 0x212F 0x212F, .upper 0x2130 0x2133,
  .lower 0x2134 0x2134, .lower 0x2139 0x2139, .lower 0x213C 0x213D, .upper 0x213E 0x213F,
  .alternating 0x2145 0x2146, .lower 0x2147 0x2149, .lower 0x214E 0x214E, .upper 0x2160 0x216F,
  .lower 0x2170 0x217F, .alternating 0x2183 0x2184, .upper 0x24B6 0x24CF, .lower 0x24D0 0x24E9,
  .upper 0x2C00 0x2C2F, .lower 0x2C30 0x2C5F, .alternating 0x2C60 0x2C61, .upper 0x2C62 0x2C64,
  .lower 0x2C65 0x2C66, .alternating 0x2C67 0x2C6C, .upper 0x2C6D 0x2C70, .lower 0x2C71 0x2C71,
  .alternating 0x2C72 0x2C73, .lower 0x2C74 0x2C74, .alternating 0x2C75 0x2C76, .lower 0x2C77 0x2C7D,
  .upper 0x2C7E 0x2C80, .lower 0x2C81 0x2C81, .alternating 0x2C82 0x2CE3, .lower 0x2CE4 0x2CE4,
  .alternating 0x2CEB 0x2CEE, .alternating 0x2CF2 0x2CF3, .lower 0x2D00 0x2D25, .lower 0x2D27 0x2D27,
  .lower 0x2D2D 0x2D2D, .alternating 0xA640 0xA66D, .alternating 0xA680 0xA69B, .lower 0xA69C 0xA69D,
  .alternating 0xA722 0xA72F, .lower 0xA730 0xA731, .alternating 0xA732 0xA76F, .lower 0xA770 0xA778,
  .alternating 0xA779 0xA77C, .upper 0xA77D 0xA77E, .lower 0xA77F 0xA77F, .alternating 0xA780 0xA787,
  .alternating 0xA78B 0xA78E, .alternating 0xA790 0xA793, .lower 0xA794 0xA795, .alternating 0xA796 0xA7A9,
  .upper 0xA7AA 0xA7AE, .lower 0xA7AF 0xA7AF, .upper 0xA7B0 0xA7B4, .lower 0xA7B5 0xA7B5,
  .alternating 0xA7B6 0xA7C3, .upper 0xA7C4 0xA7C7, .lower 0xA7C8 0xA7C8, .alternating 0xA7C9 0xA7CA,
  .upper 0xA7CB 0xA7CC, .lower 0xA7CD 0xA7CD, .alternating 0xA7CE 0xA7DB, .upper 0xA7DC 0xA7DC,
  .lower 0xA7F1 0xA7F4, .alternating 0xA7F5 0xA7F6, .lower 0xA7F8 0xA7FA, .lower 0xAB30 0xAB5A,
  .lower 0xAB5C 0xAB69, .lower 0xAB70 0xABBF, .lower 0xFB00 0xFB06, .lower 0xFB13 0xFB17,
  .upper 0xFF21 0xFF3A, .lower 0xFF41 0xFF5A, .upper 0x10400 0x10427, .lower 0x10428 0x1044F,
  .upper 0x104B0 0x104D3, .lower 0x104D8 0x104FB, .upper 0x10570 0x1057A, .upper 0x1057C 0x1058A,
  .upper 0x1058C 0x10592, .upper 0x10594 0x10595, .lower 0x10597 0x105A1, .lower 0x105A3 0x105B1,
  .lower 0x105B3 0x105B9, .lower 0x105BB 0x105BC, .lower 0x10780 0x10780, .lower 0x10783 0x10785,
  .lower 0x10787 0x107B0, .lower 0x107B2 0x107BA, .upper 0x10C80 0x10CB2, .lower 0x10CC0 0x10CF2,
  .upper 0x10D50 0x10D65, .lower 0x10D70 0x10D85, .upper 0x118A0 0x118BF, .lower 0x118C0 0x118DF,
  .upper 0x16E40 0x16E5F, .lower 0x16E60 0x16E7F, .upper 0x16EA0 0x16EB8, .lower 0x16EBB 0x16ED3,
  .upper 0x1D400 0x1D419, .lower 0x1D41A 0x1D433, .upper 0x1D434 0x1D44D, .lower 0x1D44E 0x1D454,
  .lower 0x1D456 0x1D467, .upper 0x1D468 0x1D481, .lower 0x1D482 0x1D49B, .upper 0x1D49C 0x1D49C,
  .upper 0x1D49E 0x1D49F, .upper 0x1D4A2 0x1D4A2, .upper 0x1D4A5 0x1D4A6, .upper 0x1D4A9 0x1D4AC,
  .upper 0x1D4AE 0x1D4B5, .lower 0x1D4B6 0x1D4B9, .lower 0x1D4BB 0x1D4BB, .lower 0x1D4BD 0x1D4C3,
  .lower 0x1D4C5 0x1D4CF, .upper 0x1D4D0 0x1D4E9, .lower 0x1D4EA 0x1D503, .upper 0x1D504 0x1D505,
  .upper 0x1D507 0x1D50A, .upper 0x1D50D 0x1D514, .upper 0x1D516 0x1D51C, .lower 0x1D51E 0x1D537,
  .upper 0x1D538 0x1D539, .upper 0x1D53B 0x1D53E, .upper 0x1D540 0x1D544, .upper 0x1D546 0x1D546,
  .upper 0x1D54A 0x1D550, .lower 0x1D552 0x1D56B, .upper 0x1D56C 0x1D585, .lower 0x1D586 0x1D59F,
  .upper 0x1D5A0 0x1D5B9, .lower 0x1D5BA 0x1D5D3, .upper 0x1D5D4 0x1D5ED, .lower 0x1D5EE 0x1D607,
  .upper 0x1D608 0x1D621, .lower 0x1D622 0x1D63B, .upper 0x1D63C 0x1D655, .lower 0x1D656 0x1D66F,
  .upper 0x1D670 0x1D689, .lower 0x1D68A 0x1D6A5, .upper 0x1D6A8 0x1D6C0, .lower 0x1D6C2 0x1D6DA,
  .lower 0x1D6DC 0x1D6E1, .upper 0x1D6E2 0x1D6FA, .lower 0x1D6FC 0x1D714, .lower 0x1D716 0x1D71B,
  .upper 0x1D71C 0x1D734, .lower 0x1D736 0x1D74E, .lower 0x1D750 0x1D755, .upper 0x1D756 0x1D76E,
  .lower 0x1D770 0x1D788, .lower 0x1D78A 0x1D78F, .upper 0x1D790 0x1D7A8, .lower 0x1D7AA 0x1D7C2,
  .lower 0x1D7C4 0x1D7C9, .alternating 0x1D7CA 0x1D7CB, .lower 0x1DF00 0x1DF09, .lower 0x1DF0B 0x1DF1E,
  .lower 0x1DF25 0x1DF2A, .lower 0x1E030 0x1E06D, .upper 0x1E900 0x1E921, .lower 0x1E922 0x1E943,
  .upper 0x1F130 0x1F149, .upper 0x1F150 0x1F169, .upper 0x1F170 0x1F189]

/-- The case of a character, if it has one. ASCII is answered without the table. -/
def letterCase (c : Char) : Option LetterCase :=
  if c.toNat < 0x80 then
    if 0x41 ≤ c.toNat ∧ c.toNat ≤ 0x5A then some .upper
    else if 0x61 ≤ c.toNat ∧ c.toNat ≤ 0x7A then some .lower
    else none
  else caseRuns.findSome? (·.find? c.toNat)

def isUppercase (c : Char) : Bool := letterCase c == some .upper

def isLowercase (c : Char) : Bool := letterCase c == some .lower

/-- No character is both uppercase and lowercase. -/
theorem isLowercase_eq_false_of_isUppercase {c : Char} (upper : isUppercase c = true) :
    isLowercase c = false := by
  have cased : letterCase c = some .upper := by simpa [isUppercase] using upper
  simp [isLowercase, cased]

end HandleGraph.Text
