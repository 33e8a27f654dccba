import TelemetryWiring.Json.Value
import TelemetryWiring.Yaml.Tag

/-!
What scalars stand for. The text of an unquoted scalar decides, unless a tag does; any other scalar
is a text.
-/
namespace TelemetryWiring.Yaml

/-- The value of digits in a base. -/
def ofBase? (base : Nat) (cs : List Char) : Option Nat := do
  let digits ← cs.mapM Text.hexDigit?
  if digits.isEmpty || digits.any (base ≤ ·) then none
  else some (digits.foldl (fun n d => base * n + d) 0)

/-- Whether a scalar is a run of digits that begins with a needless zero, which makes it a text. -/
def isPaddedDigits (cs : List Char) : Bool :=
  match (Number.sign cs).2 with
  | '0' :: c :: rest => (c :: rest).all (·.isDigit)
  | _ => false

/-- A whole number after its sign. -/
def magnitude? (cs : List Char) : Option Nat :=
  match cs with
  | '0' :: 'x' :: rest => ofBase? 16 rest
  | '0' :: 'o' :: rest => ofBase? 8 rest
  | '0' :: 'b' :: rest => ofBase? 2 rest
  | cs => if isPaddedDigits cs then none else ofBase? 10 cs

/-- A whole number with its sign, of at most a hundred and twenty-eight bits. -/
def whole? (cs : List Char) : Option Number := do
  let (negative, rest) := Number.sign cs
  let n ← magnitude? rest
  if negative then if n ≤ Nat.pow 2 127 then some (.whole (-n)) else none
  else if n < Nat.pow 2 128 then some (.whole n) else none

/-- The names of what is no finite number. Only an infinity has a sign. -/
def isNonFinite (text : String) : Bool :=
  [".inf", ".Inf", ".INF", "+.inf", "+.Inf", "+.INF", "-.inf", "-.Inf", "-.INF",
    ".nan", ".NaN", ".NAN"].contains text

/-- A decimal fraction; one too large for double precision is none. -/
def fraction? (cs : List Char) : Option Number :=
  if isNonFinite (.ofList cs) then some .nonFinite else (Number.fraction? cs).bind (·.finite?)

def isNull (text : String) : Bool := ["~", "null", "Null", "NULL"].contains text

def bool? (text : String) : Option Bool :=
  if ["true", "True", "TRUE"].contains text then some true
  else if ["false", "False", "FALSE"].contains text then some false
  else none

/-- What an unquoted scalar without a tag stands for. -/
def ofPlain (text : String) : Json :=
  if text.isEmpty || isNull text then .null
  else
    match bool? text, whole? text.toList with
    | some b, _ => .bool b
    | none, some n => .num n
    | none, none =>
      if isPaddedDigits text.toList then .str text
      else
        match fraction? text.toList with
        | some n => .num n
        | none => .str text

/-- What a scalar without a tag stands for. -/
def ofUntagged (plain : Bool) (text : String) : Json := if plain then ofPlain text else .str text

/-- What a scalar with a tag stands for. A local tag leaves it what it is without a tag, and any
other tag that names no kind of value makes it a text. -/
def ofTagged? (tag : List UInt8) (plain : Bool) (text : String) : Option Json :=
  if tag = standardTag "bool" then (bool? text).map .bool
  else if tag = standardTag "int" then (whole? text.toList).map .num
  else if tag = standardTag "float" then (fraction? text.toList).map .num
  else if tag = standardTag "null" then if isNull text then some .null else none
  else if tag.head? = some (octetOf '!') then some (ofUntagged plain text)
  else some (.str text)

/-- What a scalar stands for. -/
def ofScalar? (tag : Option (List UInt8)) (plain : Bool) (text : String) : Option Json :=
  match tag with
  | some tag => ofTagged? tag plain text
  | none => some (ofUntagged plain text)

example : ofPlain "0000000" = .str "0000000" := by decide +kernel
example : ofPlain "12" = .num (.whole 12) := by decide +kernel
example : (ofPlain "1e3" matches .num (.fraction false _)) = true := by decide +kernel

end TelemetryWiring.Yaml
