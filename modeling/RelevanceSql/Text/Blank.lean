import RelevanceSql.Text.Fields
import RelevanceSql.Text.Ranges

/-!
# Blank characters

The characters with the Unicode property White_Space: they end a word, are cut off the ends of a
search text, and a name made of nothing else counts as missing.
-/

namespace RelevanceSql.Text

/-- The blocks of code points with the property White_Space. -/
def blankRanges : List (Nat × Nat) := [
  (0x0009, 0x000D), (0x0020, 0x0020), (0x0085, 0x0085), (0x00A0, 0x00A0), (0x1680, 0x1680),
  (0x2000, 0x200A), (0x2028, 0x2029), (0x202F, 0x202F), (0x205F, 0x205F), (0x3000, 0x3000)]

/-- Spaces, tabs, line ends and the other separating characters of Unicode. -/
def isBlank (c : Char) : Bool := inRanges blankRanges c.toNat

/-- Whether a text holds nothing but blank characters. -/
def isBlankText (s : String) : Bool := s.toList.all isBlank

end RelevanceSql.Text
