import TelemetryWiring.Json.Value
import TelemetryWiring.Text.Quoted

/-!
Tokens of bracketed data, and the tree that a list of tokens describes. What the fields of an object
amount to is a rule that the reader is given.
-/
namespace TelemetryWiring.Json

inductive Token where
  | openArray
  | closeArray
  | openObject
  | closeObject
  | comma
  | colon
  | scalar (value : Json)

namespace Token

/-- The token of a bracket, comma or colon. -/
def ofMark? : Char → Option Token
  | '[' => some .openArray
  | ']' => some .closeArray
  | '\x7b' => some .openObject
  | '\x7d' => some .closeObject
  | ',' => some .comma
  | ':' => some .colon
  | _ => none

/-- The key that a token can stand for in an object. -/
def key? : Token → Option String
  | .scalar (.str key) => some key
  | _ => none

/-- How many arrays and objects stand inside one another in a list of tokens, `opened` of which are
open before it. -/
def depth (opened : Nat) : List Token → Nat
  | [] => opened
  | .openArray :: rest | .openObject :: rest => depth (opened + 1) rest
  | .closeArray :: rest | .closeObject :: rest => max opened (depth (opened - 1) rest)
  | _ :: rest => depth opened rest

end Token

/-- What the fields of an object amount to, which are given as they are written. -/
abbrev FieldRule := List (String × Json) → Option Json

/-- Of fields with one key the last counts. -/
def lastCounts : FieldRule := fun fields => some (.object fields)

variable (rule : FieldRule)

mutual

/-- The value at the front of a list of tokens, and what follows it. -/
def readValue : (fuel : Nat) → List Token → Option (Json × List Token)
  | 0, _ => none
  | _ + 1, .scalar value :: rest => some (value, rest)
  | _ + 1, .openArray :: .closeArray :: rest => some (.arr [], rest)
  | fuel + 1, .openArray :: rest =>
    (readItems fuel rest).map fun (items, rest) => (.arr items, rest)
  | fuel + 1, .openObject :: rest => do
    let (fields, rest) ← readObject fuel rest
    return (← rule fields, rest)
  | _ + 1, _ => none

/-- The items up to the closing bracket, at least one, and what follows it. -/
def readItems : (fuel : Nat) → List Token → Option (List Json × List Token)
  | 0, _ => none
  | fuel + 1, tokens => do
    let (item, rest) ← readValue fuel tokens
    match rest with
    | .comma :: rest =>
      let (items, rest) ← readItems fuel rest
      return (item :: items, rest)
    | .closeArray :: rest => return ([item], rest)
    | _ => none

/-- The fields up to the closing brace, possibly none, and what follows it. -/
def readObject : (fuel : Nat) → List Token → Option (List (String × Json) × List Token)
  | 0, _ => none
  | _ + 1, .closeObject :: rest => some ([], rest)
  | fuel + 1, tokens => readFields fuel tokens

/-- The fields up to the closing brace, at least one, and what follows it. -/
def readFields : (fuel : Nat) → List Token → Option (List (String × Json) × List Token)
  | 0, _ => none
  | fuel + 1, token :: .colon :: tokens => do
    let key ← token.key?
    let (value, rest) ← readValue fuel tokens
    match rest with
    | .comma :: rest =>
      let (fields, rest) ← readFields fuel rest
      return ((key, value) :: fields, rest)
    | .closeObject :: rest => return ([(key, value)], rest)
    | _ => none
  | _ + 1, _ => none

end

/-- The value that a whole list of tokens describes. -/
def ofTokens? (tokens : List Token) : Option Json :=
  match readValue rule (2 * tokens.length + 2) tokens with
  | some (value, []) => some value
  | _ => none

/-- The fields of the object that a whole list of tokens describes; the rule is for the objects
inside it. -/
def fieldsOfTokens? : List Token → Option (List (String × Json))
  | .openObject :: tokens =>
    match readObject rule (2 * tokens.length + 2) tokens with
    | some (fields, []) => some fields
    | _ => none
  | _ => none

end TelemetryWiring.Json
