import TelemetryWiring.Double.Decimal

/-!
Numbers of a data format. Whole numbers and fractions stay apart, since a fraction is never accepted
where a count is expected. A fraction has double precision. What is no finite number is written as
null.
-/
namespace TelemetryWiring

inductive Number where
  | whole (value : Int)
  /-- A fraction with a sign of its own. -/
  | fraction (negative : Bool) (magnitude : Double)
  /-- An infinity, or what is not a number. -/
  | nonFinite
  deriving DecidableEq, Repr

namespace Number

/-- The value of a list of decimal digits. -/
def ofDigits (cs : List Char) : Nat :=
  cs.foldl (fun n c => 10 * n + (c.toNat - '0'.toNat)) 0

/-- The magnitude of the least whole number of sixty-four bits with a sign. -/
def negativeBound : Nat := UInt64.size / 2

/-- Whether a whole number fits into sixty-four bits, with a sign or without. -/
def fitsWord (n : Int) : Bool := -negativeBound ≤ n && n < UInt64.size

/-- A number that is finite. -/
def finite? : Number → Option Number
  | .nonFinite => none
  | n => some n

/-- Splits off a run of decimal digits. -/
def spanDigits (cs : List Char) : List Char × List Char :=
  (cs.takeWhile (·.isDigit), cs.dropWhile (·.isDigit))

/-- The sign that may stand before a number: whether it is a minus, and what follows it. -/
def sign : List Char → Bool × List Char
  | '-' :: rest => (true, rest)
  | '+' :: rest => (false, rest)
  | cs => (false, cs)

/-- An exponent part, or nothing: the letter e, a sign that may be missing, and digits. -/
def exponent? : List Char → Option Int
  | [] => some 0
  | e :: rest =>
    if e = 'e' || e = 'E' then
      let (negative, digits) := sign rest
      if digits.isEmpty || !digits.all (·.isDigit) then none
      else some (if negative then -ofDigits digits else ofDigits digits)
    else none

/-- The number that digits go on to form as long as it fits into sixty-four bits, and how many
digits are left. -/
def wordDigits (n : Nat) : List Char → Nat × Nat
  | [] => (n, 0)
  | c :: cs =>
    let longer := 10 * n + ofDigits [c]
    if longer < UInt64.size then wordDigits longer cs else (n, (c :: cs).length)

/-- The number after a sign: digits, then possibly a point with digits, then an exponent part. Only
digits that fit into sixty-four bits count. The number is whole if nothing follows its digits and it
fits into sixty-four bits; a negative zero is a fraction. -/
def unsigned? (negative : Bool) (cs : List Char) : Option Number := do
  let (units, rest) := spanDigits cs
  if units.isEmpty then none
  let (digits, unitsLeft) := wordDigits 0 units
  let isWhole := rest.isEmpty && unitsLeft = 0
  if isWhole && !negative then return .whole digits
  else if isWhole && 0 < digits && digits ≤ negativeBound then return .whole (-digits)
  else
    let (places, rest) ← match rest with
      | '.' :: r => match spanDigits r with
        | ([], _) => none
        | found => some found
      | r => some ([], r)
    let (digits, placesLeft) := wordDigits digits places
    let exponent := (← exponent? rest) + unitsLeft - (places.length - placesLeft)
    return .fraction negative (← Double.ofDecimalStepwise? digits exponent)

/-- Whether digits start with a zero that is not the only digit before the point. -/
def hasLeadingZero : List Char → Bool
  | '0' :: c :: _ => c.isDigit
  | _ => false

/-- Reads a number in the notation of JSON. -/
def parse? (cs : List Char) : Option Number :=
  let (negative, rest) := match cs with
    | '-' :: r => (true, r)
    | r => (false, r)
  if hasLeadingZero rest then none else unsigned? negative rest

/-- Reads a decimal fraction in the wider notation, in which the digits before or after the point
may be missing and the point too. One too large for double precision is not finite. -/
def fraction? (cs : List Char) : Option Number := do
  let (negative, rest) := sign cs
  let (units, rest) := spanDigits rest
  let (places, rest) := match rest with
    | '.' :: r => spanDigits r
    | r => ([], r)
  if units.isEmpty && places.isEmpty then none
  match Double.ofDecimal? (ofDigits (units ++ places)) ((← exponent? rest) - places.length) with
  | some magnitude => return .fraction negative magnitude
  | none => return .nonFinite

/-- Reads a whole number of sixty-four bits with a sign that may be missing, and zeros that may
stand first. -/
def wholeText? (cs : List Char) : Option Number :=
  let (negative, digits) := sign cs
  let n : Int := if negative then -ofDigits digits else ofDigits digits
  if digits.isEmpty || !digits.all (·.isDigit) || !fitsWord n then none else some (.whole n)

/-- Writes a number in the notation of JSON. -/
def render : Number → String
  | .whole n => toString n
  | .fraction negative magnitude =>
    .ofList (if negative then '-' :: magnitude.render else magnitude.render)
  | .nonFinite => "null"

example : (parse? "1.50".toList).map render = some "1.5" := by decide +kernel
example : parse? "1".toList = some (.whole 1) ∧ parse? "01".toList = none := by decide +kernel
example : (parse? "1.0".toList).map render = some "1.0" := by decide +kernel
example : (parse? "-0".toList).map render = some "-0.0" := by decide +kernel

end Number
end TelemetryWiring
