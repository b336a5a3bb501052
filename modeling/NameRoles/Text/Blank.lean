import NameRoles.Text.Range

/-!
# Blank characters

The characters with the Unicode property White_Space. They separate the words of a formula and
are trimmed from both ends of a setting.
-/

namespace NameRoles.Text

/-- The ranges of White_Space. -/
def blankRanges : Ranges :=
  [(0x9, 0xD), (0x20, 0x20), (0x85, 0x85), (0xA0, 0xA0), (0x1680, 0x1680), (0x2000, 0x200A),
   (0x2028, 0x2029), (0x202F, 0x202F), (0x205F, 0x205F), (0x3000, 0x3000)]

def isBlank (c : Char) : Bool := blankRanges.has c

/-- The text without the blanks at its two ends. -/
def trim (text : String) : String :=
  String.ofList ((((text.toList.dropWhile isBlank).reverse).dropWhile isBlank).reverse)

/-- A text of blanks only, the empty text included. -/
def isAllBlank (text : String) : Bool := text.toList.all isBlank

end NameRoles.Text
