import DegreeAudit.Number.Decimal
import DegreeAudit.Text.Digit

namespace DegreeAudit
namespace Number

/-!
The texts of real numbers. Three are in use: the exact text, which has the fewest digits that name
the number and always shows a fraction or an exponent; the short text of six digits, for people to
read; and the text with one place after the point, for coordinates.
-/

/-- How the digits of a number are set out: from which power of ten of the first digit up to which
an exponent is not needed, and what is written after a whole number. -/
structure RealLayout where
  leastPlain : Int
  mostPlain : Int
  wholeMark : List Char

/-- The exact text: an exponent from `1e-05` downwards and from `1e+16` upwards. -/
def exactLayout : RealLayout := ⟨-4, 15, ['.', '0']⟩

/-- The short text: an exponent from `1e-05` downwards and from `1e+06` upwards. -/
def shortLayout : RealLayout := ⟨-4, 5, []⟩

/-- The digits of a number without the zeros at its end; there is at least one digit. -/
def significant (number : Nat) : List Char :=
  match (Text.digitsOf number).reverse.dropWhile (fun digit => digit == '0') with
  | [] => ['0']
  | digits => digits.reverse

/-- The exponent of a number in scientific notation: a sign and at least two digits. -/
def exponentText (exponent : Int) : List Char :=
  let size := Text.digitsOf exponent.natAbs
  let padded := if size.length < 2 then '0' :: size else size
  'e' :: (if exponent < 0 then '-' else '+') :: padded

/-- A number whose first digit stands at the power `leading` of ten. -/
def RealLayout.text (layout : RealLayout) (digits : List Char) (leading : Int) : List Char :=
  if layout.leastPlain <= leading && leading <= layout.mostPlain then
    if leading < 0 then
      ['0', '.'] ++ List.replicate (leading.natAbs - 1) '0' ++ digits
    else
      let whole := digits.take (leading.toNat + 1)
      let fraction := digits.drop (leading.toNat + 1)
      let zeros := List.replicate (leading.toNat + 1 - digits.length) '0'
      whole ++ zeros ++ (if fraction.isEmpty then layout.wholeMark else '.' :: fraction)
  else
    let tail := digits.drop 1
    digits.take 1 ++ (if tail.isEmpty then [] else '.' :: tail) ++ exponentText leading

/-- The text of a number, from a choice of digits for those that are finite and not zero. -/
def RealLayout.write (layout : RealLayout) (choose : Nat -> Int -> Decimal) (x : Float) :
    List Char :=
  let signed (negative : Bool) (text : List Char) := if negative then '-' :: text else text
  match view x with
  | .nan => ['n', 'a', 'n']
  | .infinite negative => signed negative ['i', 'n', 'f']
  | .finite negative mantissa exponent =>
      if mantissa = 0 then signed negative (layout.text ['0'] 0)
      else
        let decimal := choose mantissa exponent
        let leading := Int.ofNat (digitCount decimal.digits) - 1 + decimal.scale
        signed negative (layout.text (significant decimal.digits) leading)

/-- The shortest text that names a number, with a fraction or an exponent. -/
def exactText (x : Float) : List Char :=
  exactLayout.write shortest x

/-- A number to six digits, without zeros at the end of its fraction. -/
def shortText (x : Float) : List Char :=
  shortLayout.write (fun mantissa exponent => rounded mantissa exponent 6) x

/-- An amount for people to read: a whole number in full, any other number to six digits. -/
def amountText (x : Float) : List Char :=
  if isWhole x then Text.ofInt (wholePart x) else shortText x

/-- A number with one digit after the point. -/
def tenthsText (x : Float) : List Char :=
  let signed (negative : Bool) (text : List Char) := if negative then '-' :: text else text
  match view x with
  | .nan => ['n', 'a', 'n']
  | .infinite negative => signed negative ['i', 'n', 'f']
  | .finite negative mantissa exponent =>
      let tenths := (roundedAt mantissa exponent (-1)).digits
      signed negative (Text.digitsOf (tenths / 10) ++ '.' :: Text.digitsOf (tenths % 10))

end Number
end DegreeAudit
