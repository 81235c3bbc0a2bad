import DegreeAudit.Text.CharacterNameTable
import DegreeAudit.Text.CodeRange

namespace DegreeAudit
namespace Text

/-!
Characters by their names. The name of a Hangul syllable is composed of the names of its letters,
and that of an ideograph of its code point; these names are in capitals. All others stand in a table
and may be written in capitals or not. A name that is not in the table belongs to no character.
-/

/-- What the names of Hangul syllables begin with. -/
def syllableStart : List Char := "HANGUL SYLLABLE ".toList

/-- The names of the consonants that a Hangul syllable begins with. -/
def leadNames : List String :=
  [
    "G", "GG", "N", "D", "DD", "R", "M", "B", "BB", "S", "SS", "", "J", "JJ", "C", "K", "T", "P",
    "H"
  ]

/-- The names of the vowels of Hangul syllables. -/
def vowelNames : List String :=
  [
    "A", "AE", "YA", "YAE", "EO", "E", "YEO", "YE", "O", "WA", "WAE", "OE", "YO", "U", "WEO", "WE",
    "WI", "YU", "EU", "YI", "I"
  ]

/-- The names of the consonants that a Hangul syllable ends with. -/
def tailNames : List String :=
  [
    "", "G", "GG", "GS", "N", "NJ", "NH", "D", "L", "LG", "LM", "LB", "LS", "LT", "LP", "LH", "M",
    "B", "BS", "S", "SS", "NG", "J", "C", "K", "T", "P", "H"
  ]

/-- The names of all Hangul syllables, in the order of their code points. -/
def syllableNames : List String :=
  leadNames.flatMap fun lead =>
    vowelNames.flatMap fun vowel => tailNames.map fun tail => lead ++ vowel ++ tail

/-- The code point of the first Hangul syllable. -/
def firstSyllable : Nat := 0xAC00

/-- The code point of the Hangul syllable whose letters have a name. -/
def syllableCode? (letters : List Char) : Option Nat :=
  (syllableNames.findIdx? fun name => name == String.ofList letters).map fun index =>
    firstSyllable + index

/-- What the names of ideographs begin with. -/
def ideographStart : List Char := "CJK UNIFIED IDEOGRAPH-".toList

/-- The code points of the ideographs. -/
def ideographRanges : List (Nat × Nat) :=
  [
    (0x3400, 0x4DBF), (0x4E00, 0x9FFF), (0x20000, 0x2A6DF), (0x2A700, 0x2B738),
    (0x2B740, 0x2B81D), (0x2B820, 0x2CEA1), (0x2CEB0, 0x2EBE0), (0x30000, 0x3134A)
  ]

/-- The value of a digit in hexadecimal notation with capitals. -/
def capitalHexValue? (c : Char) : Option Nat :=
  if c.isDigit then some (c.toNat - 0x30)
  else if 'A' <= c && c <= 'F' then some (c.toNat - 0x41 + 10)
  else none

/-- The code point of the ideograph whose name ends in four or five digits. -/
def ideographCode? (digits : List Char) : Option Nat := do
  let values <- digits.mapM capitalHexValue?
  let code := values.foldl (fun code value => 16 * code + value) 0
  if (digits.length = 4 || digits.length = 5) && inRanges ideographRanges code then some code
  else none

/-- The code point of a name in the table. -/
def tableCode? (name : String) : Option Nat :=
  (nameRuns.findSome? fun (first, names) =>
    (names.findIdx? fun entry => entry == name).map fun index => first + index).or
  ((furtherNames.find? fun entry => entry.2 == name).map fun entry => entry.1)

/-- The code point of the character of a name. -/
def codeNamed? (name : List Char) : Option Nat :=
  if syllableStart.isPrefixOf name then syllableCode? (name.drop syllableStart.length)
  else if ideographStart.isPrefixOf name then ideographCode? (name.drop ideographStart.length)
  else if name.isEmpty then none
  else tableCode? (String.ofList (name.map Char.toUpper))

end Text
end DegreeAudit
