namespace DegreeAudit
namespace Number

/-!
The value of a real number of binary64, read off its bits: a sign, a whole number and a power of
two. A finite number is `mantissa * 2 ^ exponent`; the numbers next to it are one step of
`2 ^ exponent` away, but half a step downwards where the mantissa is the least of its length.
-/

/-- What the bits of a number stand for. -/
inductive View where
  | nan
  | infinite (negative : Bool)
  | finite (negative : Bool) (mantissa : Nat) (exponent : Int)
  deriving DecidableEq, Repr

/-- The mantissa of least length that is not shorter for lack of exponents. -/
def leastMantissa : Nat := Nat.pow 2 52

/-- The exponent of the numbers nearest to zero. -/
def leastExponent : Int := -1074

/-- The sign, mantissa and exponent of a number. -/
def view (x : Float) : View :=
  let bits := x.toBits.toNat
  let negative := Nat.pow 2 63 <= bits
  let field := bits / Nat.pow 2 52 % Nat.pow 2 11
  let fraction := bits % Nat.pow 2 52
  if field = Nat.pow 2 11 - 1 then
    if fraction = 0 then .infinite negative else .nan
  else if field = 0 then .finite negative fraction leastExponent
  else .finite negative (leastMantissa + fraction) (leastExponent + (Int.ofNat field - 1))

/-- Whether a number is finite and whole. -/
def isWhole (x : Float) : Bool :=
  match view x with
  | .finite _ mantissa exponent => 0 <= exponent || mantissa % Nat.pow 2 exponent.natAbs == 0
  | _ => false

/-- A finite number without its fraction, and zero for the others. -/
def wholePart (x : Float) : Int :=
  match view x with
  | .finite negative mantissa exponent =>
      let size : Nat :=
        if 0 <= exponent then mantissa * Nat.pow 2 exponent.toNat
        else mantissa / Nat.pow 2 exponent.natAbs
      if negative then -Int.ofNat size else Int.ofNat size
  | _ => 0

end Number
end DegreeAudit
