import DegreeAudit.Text.Blank

namespace DegreeAudit

/-!
Course codes in the cells of a transcript: one to six letters, two to four digits, and perhaps one
more letter, all of ASCII. A cell that is a code as a whole is preferred to one that only holds a
code.
-/

namespace Transcript

/-- The longest code that a text begins with. -/
def codeAt? (text : List Char) : Option (List Char) :=
  let letters := text.takeWhile Char.isAlpha
  let rest := text.dropWhile Char.isAlpha
  let digits := (rest.takeWhile Char.isDigit).take 4
  let ending := ((rest.drop digits.length).take 1).takeWhile Char.isAlpha
  if 1 <= letters.length && letters.length <= 6 && 2 <= digits.length then
    some (letters ++ digits ++ ending)
  else none

/-- Whether a text is a code as a whole. -/
def isCode (text : List Char) : Bool :=
  codeAt? text == some text

/-- The first code in a text. -/
def codeIn? : List Char -> Option (List Char)
  | [] => none
  | c :: rest =>
      match codeAt? (c :: rest) with
      | some code => some code
      | none => codeIn? rest

/-- The code in the cells of a row. -/
def findCode? (cells : List (List Char)) : Option (List Char) :=
  match (cells.map Text.trim).find? isCode with
  | some code => some code
  | none => cells.findSome? codeIn?

end Transcript
end DegreeAudit
