/-!
Numbers of double precision that are not negative. They lie on a grid whose step is `2 ^ -1074` near
zero and doubles from one power of two to the next. A number is known by its rank, which tells how
many numbers are less, and measured in the finest steps (`Double.steps`). A quotient is rounded to
the nearest number.
-/
namespace TelemetryWiring

/-- The whole number nearest to a quotient; of two that are equally near, the even one. -/
def roundDiv (num den : Nat) : Nat :=
  let twice := 2 * (num % den)
  if twice < den || (twice = den && num / den % 2 = 0) then num / den else num / den + 1

namespace Double

/-- How many numbers lie between a power of two and the next one, the first included. -/
def binade : Nat := Nat.pow 2 52

/-- How many of the finest steps make one. -/
def stepsPerOne : Nat := Nat.pow 2 1074

/-- The number of ranks: the rank that an infinity would have. -/
def rankBound : Nat := 2047 * binade

/-- The rank of the number nearest to a quotient. -/
def nearestRank (num den : Nat) : Nat :=
  let steps := num * stepsPerOne
  let doublings := Nat.log2 (steps / den) - 52
  doublings * binade + roundDiv steps (den * Nat.pow 2 doublings)

end Double

/-- A number of double precision that is not negative. -/
structure Double where
  rank : Nat
  rank_lt : rank < Double.rankBound
  deriving DecidableEq, Repr

namespace Double

def zero : Double := ⟨0, by decide⟩

/-- The number of the finest steps from zero. -/
def steps (d : Double) : Nat :=
  let doublings := d.rank / binade - 1
  (d.rank - doublings * binade) * Nat.pow 2 doublings

/-- The number nearest to a quotient, unless the quotient is too large. -/
def ofRatio? (num den : Nat) : Option Double :=
  if h : nearestRank num den < rankBound then some ⟨nearestRank num den, h⟩ else none

/-- The number nearest to a product. -/
def mul? (a b : Double) : Option Double := ofRatio? (a.steps * b.steps) (stepsPerOne * stepsPerOne)

/-- The number nearest to a quotient of numbers. -/
def div? (a b : Double) : Option Double := ofRatio? a.steps b.steps

/-- The number nearest to a whole number of at most `2 ^ 53` is that number. -/
example : (ofRatio? (Nat.pow 2 53) 1).map (·.steps / stepsPerOne) = some (Nat.pow 2 53) := by
  decide +kernel

/-- A half between two whole numbers goes to the even one. -/
example : (ofRatio? (Nat.pow 2 53 + 1) 1).map (·.steps / stepsPerOne) = some (Nat.pow 2 53) := by
  decide +kernel

example : (ofRatio? (Nat.pow 2 1024) 1).isNone ∧ (ofRatio? (Nat.pow 2 1024 - 1) 1).isNone := by
  decide +kernel

end Double
end TelemetryWiring
