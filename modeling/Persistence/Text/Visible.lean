import Persistence.Text.ExtendingTable
import Persistence.Text.VacantTable

/-!
Characters that show. A reader of a plain text cannot see controls, spaces other than the plain one, characters that
no font has to draw, and marks that melt into the character before them; every other character shows.
-/

namespace Persistence.Text

/-- Controls, format characters, separators and spaces, but not the plain space: the general categories Cc, Cf, Zl,
Zp and Zs of Unicode 17. -/
def formlessRanges : List CodeRange :=
  [(0x00, 0x1F), (0x7F, 0xA0), (0xAD, 0xAD), (0x600, 0x605), (0x61C, 0x61C), (0x6DD, 0x6DD), (0x70F, 0x70F),
   (0x890, 0x891), (0x8E2, 0x8E2), (0x1680, 0x1680), (0x180E, 0x180E), (0x2000, 0x200F), (0x2028, 0x202F),
   (0x205F, 0x2064), (0x2066, 0x206F), (0x3000, 0x3000), (0xFEFF, 0xFEFF), (0xFFF9, 0xFFFB), (0x110BD, 0x110BD),
   (0x110CD, 0x110CD), (0x13430, 0x1343F), (0x1BCA0, 0x1BCA3), (0x1D173, 0x1D17A), (0xE0001, 0xE0001),
   (0xE0020, 0xE007F)]

/-- The code points with the Default_Ignorable_Code_Point property: they are not drawn even where a font lacks
them. -/
def ignorableRanges : List CodeRange :=
  [(0xAD, 0xAD), (0x34F, 0x34F), (0x61C, 0x61C), (0x115F, 0x1160), (0x17B4, 0x17B5), (0x180B, 0x180F),
   (0x200B, 0x200F), (0x202A, 0x202E), (0x2060, 0x206F), (0x3164, 0x3164), (0xFE00, 0xFE0F), (0xFEFF, 0xFEFF),
   (0xFFA0, 0xFFA0), (0xFFF0, 0xFFF8), (0x1BCA0, 0x1BCA3), (0x1D173, 0x1D17A), (0xE0000, 0xE0FFF)]

/-- The halfwidth voiced sound marks, which extend the character before them but have a width of their own. -/
def voicedMarkRanges : List CodeRange := [(0xFF9E, 0xFF9F)]

/-- Whether a character is a mark that is drawn into the character before it. -/
def isAttached (c : Char) : Bool :=
  inRanges extendingRanges c && !inRanges voicedMarkRanges c

/-- Whether a character shows when it stands alone. -/
def isVisible (c : Char) : Bool :=
  !(inRanges formlessRanges c || inRanges ignorableRanges c || inRanges vacantRanges c || isAttached c)

end Persistence.Text
