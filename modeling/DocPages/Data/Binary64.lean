/-!
# Floating-point numbers

Decimal numbers are read to the nearest number with a mantissa of 53 bits, and such numbers are written
with the fewest digits that read back. The value is handled as an exact fraction throughout.
-/

namespace DocPages

/-- The number `mantissa * 2 ^ exponent`. -/
structure Binary64 where
  mantissa : Nat
  exponent : Int
deriving DecidableEq

namespace Binary64

/-- A quotient to the nearest integer, where a half goes to the even neighbour. -/
def roundDiv (num den : Nat) : Nat :=
  let q := num / den
  let r := num % den
  if 2 * r < den || (2 * r == den && q % 2 == 0) then q else q + 1

def leastExponent : Int := -1074

def greatestExponent : Int := 971

/-- A fraction divided by a power of two. -/
def scale (num den : Nat) (exponent : Int) : Nat × Nat :=
  if 0 ≤ exponent then (num, den * Nat.pow 2 exponent.toNat)
  else (num * Nat.pow 2 (-exponent).toNat, den)

/-- The number nearest to a fraction, unless the fraction is too large. -/
def ofFraction? (num den : Nat) : Option Binary64 :=
  if num == 0 then some ⟨0, 0⟩
  else
    let guess : Int := Int.ofNat num.log2 - Int.ofNat den.log2 - 52
    let (n, d) := scale num den guess
    let exponent := max leastExponent (if n / d < Nat.pow 2 52 then guess - 1 else guess)
    let (n, d) := scale num den exponent
    let mantissa := roundDiv n d
    let x : Binary64 :=
      if mantissa == Nat.pow 2 53 then ⟨Nat.pow 2 52, exponent + 1⟩ else ⟨mantissa, exponent⟩
    if x.exponent ≤ greatestExponent then some x else none

/-- The number nearest to `digits * 10 ^ power`. Powers far outside of the range are settled without
building them. -/
def ofDecimal? (digits : Nat) (power : Int) : Option Binary64 :=
  let magnitude : Int := Int.ofNat (digits.log2 / 3) + power
  if digits == 0 || magnitude < -800 then some ⟨0, 0⟩
  else if 800 < power then none
  else if 0 ≤ power then ofFraction? (digits * Nat.pow 10 power.toNat) 1
  else ofFraction? digits (Nat.pow 10 (-power).toNat)

/-- The numbers that read back as `x` are those between the middles to its neighbours. The result is the
lower middle, the number itself, the upper middle, and the denominator of all three. Below a power of two
the neighbour is only half as far. -/
def readBack (x : Binary64) : Nat × Nat × Nat × Nat :=
  let unit := Nat.pow 2 x.exponent.toNat
  let below := if x.mantissa == Nat.pow 2 52 && leastExponent < x.exponent then 1 else 2
  ((4 * x.mantissa - below) * unit, 4 * x.mantissa * unit, (4 * x.mantissa + 2) * unit,
    4 * Nat.pow 2 (-x.exponent).toNat)

/-- The multiple of `10 ^ power` nearest to `x`, of those that read back as `x`. -/
def multiple? (x : Binary64) (power : Int) : Option Nat :=
  let (low, mid, high, den) := x.readBack
  let factor := Nat.pow 10 (-power).toNat
  let unit := den * Nat.pow 10 power.toNat
  let isInside (n : Nat) : Bool :=
    if x.mantissa % 2 == 0 then low * factor ≤ n * unit && n * unit ≤ high * factor
    else low * factor < n * unit && n * unit < high * factor
  let n := mid * factor / unit
  let isLowerNear := mid * factor - n * unit ≤ (n + 1) * unit - mid * factor
  let lower := Nat.blt 0 n && isInside n
  let upper := isInside (n + 1)
  if lower && (isLowerNear || !upper) then some n
  else if upper then some (n + 1)
  else none

/-- The shortest decimal that reads back as `x`: digits and a power of ten. The coarsest grid that has a
multiple which reads back gives the fewest digits. -/
def shortest (x : Binary64) : Nat × Int :=
  let powers := (List.range 640).map fun i => (310 : Int) - Int.ofNat i
  (powers.findSome? fun p => (x.multiple? p).map (·, p)).getD (0, 0)

/-- A decimal without an exponent, and without a point if it is whole. -/
def positional (digits : Nat) (power : Int) : List Char :=
  let ds := Nat.toDigits 10 digits
  let places := (-power).toNat
  if 0 ≤ power then ds ++ List.replicate power.toNat '0'
  else if Nat.blt places ds.length then
    ds.take (ds.length - places) ++ '.' :: ds.drop (ds.length - places)
  else '0' :: '.' :: (List.replicate (places - ds.length) '0' ++ ds)

def toChars (x : Binary64) : List Char :=
  if x.mantissa == 0 then ['0']
  else
    let (digits, power) := x.shortest
    positional digits power

end Binary64

end DocPages
