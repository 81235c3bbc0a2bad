import DegreeAudit.Text.Digit

namespace DegreeAudit
namespace Number

/-!
Numbers read from free text. Blanks around a number are ignored, save information separators, which
are no part of its margin; its digits may be those of any script, and single underscores may stand
between digits. A real number may also be one of the words
`inf`, `infinity` and `nan` in any case, with or without a sign.
-/

/-- The real number `digits * 10 ^ scale`, rounded to the nearest of binary64. -/
def realOfDecimal (digits : Nat) (scale : Int) : Float :=
  Float.ofScientific digits (decide (scale < 0)) scale.natAbs

/-- The real number nearest to a whole number, unless that is beyond the largest. -/
def realOfInt? (number : Int) : Option Float :=
  let real := Float.ofInt number
  if real.isInf then none else some real

/-- The text without the underscores between its digits; none if one stands elsewhere. -/
def dropUnderscores : (afterDigit : Bool) -> List Char -> Option (List Char)
  | _, [] => some []
  | afterDigit, c :: rest =>
      if c = '_' then
        if afterDigit && (rest.head?.map Char.isDigit).getD false then dropUnderscores false rest
        else none
      else (dropUnderscores c.isDigit rest).map (fun text => c :: text)

/-- Whether a character may stand in the margin of a number. -/
def isMargin (c : Char) : Bool :=
  Text.isBlank c && !Text.isSeparator c

/-- A number as its reader sees it: without margins and underscores, and with plain digits. -/
def tidied (text : List Char) : Option (List Char) :=
  dropUnderscores false (Text.plainDigits (Text.dropEnd isMargin (text.dropWhile isMargin)))

/-- Whether a text begins with a minus sign, and the text after its sign. -/
def cutSign : List Char -> Bool × List Char
  | '-' :: rest => (true, rest)
  | '+' :: rest => (false, rest)
  | text => (false, text)

/-- The exponent that a text gives, if the whole of it is an exponent; no text is the exponent
zero. -/
def exponentOf : List Char -> Option Int
  | [] => some 0
  | mark :: rest =>
      if mark = 'e' || mark = 'E' then
        let (negative, digits) := cutSign rest
        if digits.isEmpty || !digits.all Char.isDigit then none
        else
          let size := Int.ofNat (Text.valueOfDigits digits)
          some (if negative then -size else size)
      else none

/-- The real number that digits with at most one point and an exponent write. -/
def unsignedReal? (text : List Char) : Option Float :=
  let whole := text.takeWhile Char.isDigit
  let (fraction, rest) :=
    match text.dropWhile Char.isDigit with
    | '.' :: rest => (rest.takeWhile Char.isDigit, rest.dropWhile Char.isDigit)
    | rest => ([], rest)
  let digits := whole ++ fraction
  if digits.isEmpty then none
  else
    (exponentOf rest).map fun exponent =>
      realOfDecimal (Text.valueOfDigits digits) (exponent - Int.ofNat fraction.length)

/-- The infinite number. -/
def infinity : Float := Float.ofBits 0x7FF0000000000000

/-- The number that is none. -/
def notANumber : Float := Float.ofBits 0x7FF8000000000000

/-- The real number that a text writes. -/
def readReal? (text : List Char) : Option Float := do
  let tidy <- tidied text
  let (negative, size) := cutSign tidy
  let word := size.map Char.toLower
  let real <-
    if word = ['i', 'n', 'f'] || word = ['i', 'n', 'f', 'i', 'n', 'i', 't', 'y'] then some infinity
    else if word = ['n', 'a', 'n'] then some notANumber
    else unsignedReal? size
  pure (if negative then -real else real)

/-- The most digits a whole number may be written with, by whoever writes it. -/
def mostDigits : Nat := 4300

/-- The wording about a whole number that would have too many digits. -/
def notWrittenMessage : String :=
  "Exceeds the limit (4300 digits) for integer string conversion; "
    ++ "use sys.set_int_max_str_digits() to increase the limit"

/-- The wording about a whole number with too many digits. -/
def tooManyDigitsMessage (count : Nat) : String :=
  "Exceeds the limit (4300 digits) for integer string conversion: value has "
    ++ String.ofList (Text.digitsOf count)
    ++ " digits; use sys.set_int_max_str_digits() to increase the limit"

/-- The whole number that a text writes, unless it has too many digits. -/
def readInt? (text : List Char) : Option Int := do
  let tidy <- tidied text
  let (negative, digits) := cutSign tidy
  if digits.isEmpty || !digits.all Char.isDigit || mostDigits < digits.length then none
  else
    let size := Int.ofNat (Text.valueOfDigits digits)
    pure (if negative then -size else size)

end Number
end DegreeAudit
