import DegreeAudit.Text.CodeRange

namespace DegreeAudit
namespace Text

/-!
Blank characters and the removal of blanks at the ends of a text. A blank is any character that
Unicode treats as white space, the four information separators among them; characters of zero
width are not blank.
-/

/-- The code points of the blank characters. -/
def blankRanges : List (Nat × Nat) :=
  [
    (0x9, 0xD), (0x1C, 0x20), (0x85, 0x85), (0xA0, 0xA0), (0x1680, 0x1680), (0x2000, 0x200A),
    (0x2028, 0x2029), (0x202F, 0x202F), (0x205F, 0x205F), (0x3000, 0x3000)
  ]

/-- Whether a character is blank. -/
def isBlank (c : Char) : Bool :=
  inRanges blankRanges c.toNat

/-- Whether a character is one of the four information separators. -/
def isSeparator (c : Char) : Bool :=
  0x1C <= c.toNat && c.toNat <= 0x1F

/-- The text without those characters at its end that pass a test. -/
def dropEnd (test : Char -> Bool) (text : List Char) : List Char :=
  (text.reverse.dropWhile test).reverse

/-- The text without the blanks it begins with. -/
def trimLeft (text : List Char) : List Char :=
  text.dropWhile isBlank

/-- The text without the blanks it ends with. -/
def trimRight (text : List Char) : List Char :=
  dropEnd isBlank text

/-- The text without the blanks at either end. -/
def trim (text : List Char) : List Char :=
  trimRight (trimLeft text)

/-- A text is blank when it has no character that is not. -/
def allBlank (text : List Char) : Bool :=
  text.all isBlank

end Text
end DegreeAudit
