import DegreeAudit.Text.CaseTable
import DegreeAudit.Text.CasedTable
import DegreeAudit.Text.CodeRange

namespace DegreeAudit
namespace Text

/-!
Upper and lower case of a text, for every letter of Unicode. One letter may become several, as
the sharp s does in upper case. Lower case looks at the neighbours of a letter in one place only:
a capital sigma is written in its final form at the end of a word.
-/

/-- The image of a code point under the rows of a table. -/
def imageOf : List (Nat × Nat × Nat × Nat) -> Nat -> Nat
  | [], code => code
  | (first, last, step, image) :: rows, code =>
      if code < first then code
      else if code <= last && (code - first) % step == 0 then image + (code - first)
      else imageOf rows code

/-- The several images of a code point, if it has an entry. -/
def expansionOf : List (Nat × List Nat) -> Nat -> Option (List Nat)
  | [], _ => none
  | (entry, images) :: entries, code =>
      if code < entry then none
      else if code = entry then some images
      else expansionOf entries code

/-- The code points of a letter in upper case. -/
def upperCodes (code : Nat) : List Nat :=
  match expansionOf upperExpansions code with
  | some images => images
  | none => [imageOf upperRows code]

/-- A letter in upper case. -/
def upperLetter (c : Char) : List Char :=
  (upperCodes c.toNat).map Char.ofNat

/-- A text in upper case. -/
def upper (text : List Char) : List Char :=
  text.flatMap upperLetter

/-- The one letter a letter becomes in lower case, whatever stands around it. -/
def lowerLetter (c : Char) : Char :=
  Char.ofNat (imageOf lowerRows c.toNat)

/-- Whether the first character that is not passed over is a letter with a case. -/
def casedAhead (text : List Char) : Bool :=
  match text.dropWhile (fun c => inRanges passedOverRanges c.toNat) with
  | [] => false
  | c :: _ => inRanges casedRanges c.toNat

/-- A letter in lower case between the text before it, read backwards, and the text after it. -/
def lowerBetween (before : List Char) (c : Char) (after : List Char) : List Char :=
  if c = 'Σ' then
    if casedAhead before && !casedAhead after then ['ς'] else ['σ']
  else if c = 'İ' then ['i', Char.ofNat 0x307]
  else [lowerLetter c]

/-- The rest of a text in lower case, after the text before it, which is read backwards. -/
def lowerFrom (before : List Char) : List Char -> List Char
  | [] => []
  | c :: rest => lowerBetween before c rest ++ lowerFrom (c :: before) rest

/-- A text in lower case. -/
def lower (text : List Char) : List Char :=
  lowerFrom [] text

/-- What a letter has in common with all letters that differ from it in case alone. -/
def foldLetter (c : Char) : List Char :=
  upperLetter (lowerLetter c)

end Text
end DegreeAudit
