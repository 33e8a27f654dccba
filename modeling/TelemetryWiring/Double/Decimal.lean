import TelemetryWiring.Double.Rounding

/-!
Double precision and decimal notation. A decimal number is rounded to the nearest number; back, a
number is given by the fewest digits that round to it. Of several with as few digits the nearest is
taken.
-/
namespace TelemetryWiring.Double

/-- The number nearest to `digits * 10 ^ exponent`, unless that is too large. Far beyond the least
and the greatest number the count of digits decides. -/
def ofDecimal? (digits : Nat) (exponent : Int) : Option Double :=
  let width : Int := (Nat.toDigits 10 digits).length + exponent
  if digits = 0 || width < -323 then some zero
  else if 309 < width then none
  else if exponent < 0 then ofRatio? digits (Nat.pow 10 exponent.natAbs)
  else ofRatio? (digits * Nat.pow 10 exponent.natAbs) 1

/-- The number of double precision nearest to a power of ten. -/
def powerOfTen? (exponent : Nat) : Option Double := ofDecimal? 1 exponent

/-- The greatest power of ten that is a number of double precision. -/
def maxPowerOfTen : Nat := 308

/-- The number that `digits * 10 ^ exponent` comes to when each step is rounded: the digits first,
then their product with a power of ten, or their quotients by powers of ten. -/
def ofDecimalStepwise? (digits : Nat) (exponent : Int) : Option Double := do
  let d ← ofDecimal? digits 0
  let size := exponent.natAbs
  if 0 ≤ exponent then
    if size ≤ maxPowerOfTen then d.mul? (← powerOfTen? size)
    else if d = zero then some zero
    else none
  else
    let d ← d.div? (← powerOfTen? (min size maxPowerOfTen))
    d.div? (← powerOfTen? (min (size - maxPowerOfTen) maxPowerOfTen))

/-- A number over a power of ten, as a quotient of whole numbers. -/
def ratioAt (d : Double) (exponent : Int) : Nat × Nat :=
  let scale := Nat.pow 10 exponent.natAbs
  if 0 ≤ exponent then (d.steps, stepsPerOne * scale) else (d.steps * scale, stepsPerOne)

/-- The nearest multiple of a power of ten that rounds to a number, if there is one. Only the two
multiples around the number need to be tried. -/
def multipleAt? (d : Double) (exponent : Int) : Option Nat :=
  let (num, den) := d.ratioAt exponent
  let below := num / den
  let nearest := roundDiv num den
  [nearest, 2 * below + 1 - nearest].find? fun n => ofDecimal? n exponent = some d

/-- How many places behind the point are looked at to find the first digit of a number. Every number
but zero is more than `10 ^ -324`. -/
def places : Nat := 324

/-- The power of ten that is greater than a number and at most ten times it. -/
def leadingPower (d : Double) : Int :=
  (Nat.toDigits 10 (d.steps * Nat.pow 10 places / stepsPerOne)).length - places

/-- The fewest digits that round to a number, and the power of ten of the last of them. Seventeen
digits are always enough. -/
def shortest (d : Double) : Nat × Int :=
  if d = zero then (0, 0)
  else
    let readsBack? (count : Nat) : Option (Nat × Int) :=
      let exponent := d.leadingPower - count
      (d.multipleAt? exponent).map (·, exponent)
    ((List.range 18).findSome? readsBack?).getD (0, 0)

/-- The text of a number. From `10 ^ -5` up to `10 ^ 16` the point stands among the digits, and
else an exponent follows them. -/
def render (d : Double) : List Char :=
  let (digits, exponent) := d.shortest
  let ds := Nat.toDigits 10 digits
  let power := ds.length + exponent
  if 0 < power && power ≤ 16 then
    if 0 ≤ exponent then ds ++ List.replicate exponent.natAbs '0' ++ ['.', '0']
    else ds.take power.natAbs ++ '.' :: ds.drop power.natAbs
  else if -5 < power && power ≤ 0 then '0' :: '.' :: List.replicate power.natAbs '0' ++ ds
  else
    let mantissa := if ds.length = 1 then ds else ds.take 1 ++ '.' :: ds.drop 1
    let sign := if power < 1 then ['-'] else []
    mantissa ++ 'e' :: sign ++ Nat.toDigits 10 (power - 1).natAbs

/-- A third has sixteen digits. -/
example : (ofRatio? 1 3).map render = some "0.3333333333333333".toList := by decide +kernel

/-- The least number but zero rounds from one digit. -/
example : (ofDecimal? 4940656458412465 (-339)).map render = some "5e-324".toList := by
  decide +kernel

example : (ofDecimal? 1 23).map render = some "1e23".toList ∧
    (ofDecimal? 100 0).map render = some "100.0".toList := by decide +kernel

end TelemetryWiring.Double
