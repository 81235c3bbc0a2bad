import DegreeAudit.Number.Binary

namespace DegreeAudit
namespace Number

/-!
Decimal digits of a positive number `mantissa * 2 ^ exponent`, computed with whole numbers only.

A decimal `(digits, scale)` stands for `digits * 10 ^ scale`. `shortest` finds the fewest digits
that name the number among all numbers of binary64, and among the decimals of that length the one
nearest to it. `rounded` gives a fixed count of digits and `roundedAt` the digits up to a fixed
place; both are nearest to the number itself, and where two are as near, the even one is taken.
-/

/-- A whole number and a power of ten to multiply it by. -/
structure Decimal where
  digits : Nat
  scale : Int
  deriving DecidableEq, Repr

/-- A quotient rounded to the nearest whole number, to the even one of two. -/
def roundQuotient (dividend divisor : Nat) : Nat :=
  let quotient := dividend / divisor
  let twice := 2 * (dividend % divisor)
  if twice < divisor then quotient
  else if divisor < twice then quotient + 1
  else quotient + quotient % 2

/-- The number of decimal digits, at least one. -/
def digitCount (number : Nat) : Nat :=
  (Nat.toDigits 10 number).length

/-- The two whole numbers whose quotient is `number * 2 ^ exponent / 10 ^ scale`. -/
def scaledBy (number : Nat) (exponent scale : Int) : Nat × Nat :=
  (number * Nat.pow 2 exponent.toNat * Nat.pow 10 (-scale).toNat,
    Nat.pow 2 (-exponent).toNat * Nat.pow 10 scale.toNat)

/-- The power of ten of the first digit of `mantissa * 2 ^ exponent`. -/
def leadingScale (mantissa : Nat) (exponent : Int) : Int :=
  let (dividend, divisor) := scaledBy mantissa exponent 0
  if divisor <= dividend then Int.ofNat (digitCount (dividend / divisor)) - 1
  else
    -- the least count of places after the point with a digit that is not zero
    let guess := digitCount (divisor / dividend)
    if divisor <= dividend * Nat.pow 10 (guess - 1) then 1 - Int.ofNat guess else -Int.ofNat guess

/-- The numbers whose nearest number of binary64 is `mantissa * 2 ^ exponent`: the two ends of
their interval and the number itself, in quarters of a step. -/
def neighbourhood (mantissa : Nat) (exponent : Int) : Nat × Nat × Nat :=
  let middle := 4 * mantissa
  if mantissa = leastMantissa && leastExponent < exponent then (middle - 1, middle, middle + 2)
  else (middle - 2, middle, middle + 2)

/-- A decimal with no more digits than `count` that names the number, nearest to it if there are
several. -/
def nearestWithin (mantissa : Nat) (exponent : Int) (count : Nat) : Option Decimal :=
  let scale := leadingScale mantissa exponent + 1 - Int.ofNat count
  let (low, middle, high) := neighbourhood mantissa exponent
  let (lowEnd, divisor) := scaledBy low (exponent - 2) scale
  let (value, _) := scaledBy middle (exponent - 2) scale
  let (highEnd, _) := scaledBy high (exponent - 2) scale
  let even := mantissa % 2 == 0
  let names (digits : Nat) : Bool :=
    let point := digits * divisor
    (lowEnd < point || (even && lowEnd == point)) && (point < highEnd || (even && point == highEnd))
  let below := value / divisor
  let above := below + 1
  let nearest := roundQuotient value divisor
  let other := if nearest = below then above else below
  if names nearest then some ⟨nearest, scale⟩
  else if names other then some ⟨other, scale⟩
  else none

/-- The shortest decimal among those of `count` digits, `count + 1` digits and so on, `attempts`
lengths in all; the seventeen digits that always suffice if none is found. -/
def shortestFrom (mantissa : Nat) (exponent : Int) : (attempts count : Nat) -> Decimal
  | 0, _ =>
      let scale := leadingScale mantissa exponent - 16
      let (value, divisor) := scaledBy mantissa exponent scale
      ⟨roundQuotient value divisor, scale⟩
  | attempts + 1, count =>
      match nearestWithin mantissa exponent count with
      | some decimal => decimal
      | none => shortestFrom mantissa exponent attempts (count + 1)

/-- The shortest decimal that names a positive number. -/
def shortest (mantissa : Nat) (exponent : Int) : Decimal :=
  shortestFrom mantissa exponent 17 1

/-- The digits of a positive number up to a place, which is given by its power of ten. -/
def roundedAt (mantissa : Nat) (exponent scale : Int) : Decimal :=
  let (value, divisor) := scaledBy mantissa exponent scale
  ⟨roundQuotient value divisor, scale⟩

/-- The first `count` digits of a positive number. -/
def rounded (mantissa : Nat) (exponent : Int) (count : Nat) : Decimal :=
  roundedAt mantissa exponent (leadingScale mantissa exponent + 1 - Int.ofNat count)

end Number
end DegreeAudit
