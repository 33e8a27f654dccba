import TelemetryWiring.Yaml.Tag
import TelemetryWiring.Yaml.Token

/-!
Nodes of a document, and the node that a list of tokens describes. A key or a value that is left out
is an empty scalar.
-/
namespace TelemetryWiring.Yaml

/-- What stands before a node. -/
structure Properties where
  anchor : Option Nat := none
  tag : Option (List UInt8) := none
  deriving DecidableEq, Repr

inductive Node where
  | reference (number : Nat)
  | scalar (properties : Properties) (plain : Bool) (text : String)
  | list (properties : Properties) (items : List Node)
  | map (properties : Properties) (fields : List (Node × Node))
  deriving Repr, Inhabited

/-- The node where none is written. -/
def Node.missing : Node := .scalar {} true ""

/-- The properties at the front, in either order, and what follows them. -/
def Properties.ofTokens : List Token → Properties × List Token
  | .anchor number :: .tag name :: rest => (⟨number, name⟩, rest)
  | .tag name :: .anchor number :: rest => (⟨number, name⟩, rest)
  | .anchor number :: rest => (⟨number, none⟩, rest)
  | .tag name :: rest => (⟨none, name⟩, rest)
  | tokens => ({}, tokens)

/-- Where a node stands. -/
inductive Position where
  /-- Inside brackets. -/
  | inFlow
  /-- In a list, or alone. -/
  | inBlock
  /-- In a map that is laid out. The items of a list that is its value may begin at the column of
  the keys. -/
  | inMap
  deriving DecidableEq, Repr

/-- Whether an item of a laid-out list is left out when this follows its dash. -/
def endsItem : List Token → Bool
  | .item :: _ | .done :: _ => true
  | _ => false

/-- Whether a key or a value of a laid-out map is left out when this stands in its place. -/
def endsField : List Token → Bool
  | .key :: _ | .value :: _ | .done :: _ => true
  | _ => false

/-- Whether a part of a collection in brackets is left out when this stands in its place. -/
def endsFlow : List Token → Bool
  | .comma :: _ | .closeList :: _ | .closeMap :: _ => true
  | _ => false

/-- What stands after the comma that separates the parts of a collection in brackets; the first part
has none before it. -/
def afterComma? (first : Bool) : List Token → Option (List Token)
  | .comma :: rest => if first then none else some rest
  | tokens => if first then some tokens else none

mutual

/-- The node at the front of a list of tokens, and what follows it. -/
def node? (position : Position) : (fuel : Nat) → List Token → Option (Node × List Token)
  | 0, _ => none
  | _ + 1, .reference number :: rest => some (.reference number, rest)
  | fuel + 1, tokens =>
    let (properties, rest) := Properties.ofTokens tokens
    match position, rest with
    | .inMap, .item :: _ =>
      (unindented? fuel rest).map fun (items, rest) => (.list properties items, rest)
    | _, .scalar plain text :: rest => some (.scalar properties plain text, rest)
    | _, .openList :: rest =>
      (flowItems? true fuel rest).map fun (items, rest) => (.list properties items, rest)
    | _, .openMap :: rest =>
      (flowFields? true fuel rest).map fun (fields, rest) => (.map properties fields, rest)
    | .inBlock, .list :: rest | .inMap, .list :: rest =>
      (items? fuel rest).map fun (items, rest) => (.list properties items, rest)
    | .inBlock, .map :: rest | .inMap, .map :: rest =>
      (fields? fuel rest).map fun (fields, rest) => (.map properties fields, rest)
    | _, _ => if properties = {} then none else some (.scalar properties true "", rest)

/-- The items of a laid-out list up to its end. -/
def items? : (fuel : Nat) → List Token → Option (List Node × List Token)
  | 0, _ => none
  | _ + 1, .done :: rest => some ([], rest)
  | fuel + 1, .item :: rest => do
    let (item, rest) ← if endsItem rest then some (.missing, rest) else node? .inBlock fuel rest
    let (items, rest) ← items? fuel rest
    return (item :: items, rest)
  | _ + 1, _ => none

/-- The items of a list that begins at the column of the keys around it. -/
def unindented? : (fuel : Nat) → List Token → Option (List Node × List Token)
  | 0, _ => none
  | fuel + 1, .item :: rest => do
    let (item, rest) ←
      if endsItem rest || endsField rest then some (.missing, rest) else node? .inBlock fuel rest
    let (items, rest) ← unindented? fuel rest
    return (item :: items, rest)
  | _ + 1, rest => some ([], rest)

/-- The fields of a laid-out map up to its end. -/
def fields? : (fuel : Nat) → List Token → Option (List (Node × Node) × List Token)
  | 0, _ => none
  | _ + 1, .done :: rest => some ([], rest)
  | fuel + 1, .key :: rest => do
    let (key, rest) ← if endsField rest then some (.missing, rest) else node? .inMap fuel rest
    let (value, rest) ←
      match rest with
      | .value :: rest => if endsField rest then some (.missing, rest) else node? .inMap fuel rest
      | rest => some (.missing, rest)
    let (fields, rest) ← fields? fuel rest
    return ((key, value) :: fields, rest)
  | _ + 1, _ => none

/-- The value inside brackets, if a colon announces one. -/
def flowValue? : (fuel : Nat) → List Token → Option (Node × List Token)
  | 0, _ => none
  | fuel + 1, .value :: rest =>
    if endsFlow rest then some (.missing, rest) else node? .inFlow fuel rest
  | _ + 1, rest => some (.missing, rest)

/-- The items of a list in brackets up to the closing one. An item with a key is a map of one field;
where the key is left out, the token in its place goes with it. -/
def flowItems? (first : Bool) : (fuel : Nat) → List Token → Option (List Node × List Token)
  | 0, _ => none
  | _ + 1, .closeList :: rest => some ([], rest)
  | fuel + 1, tokens => do
    match ← afterComma? first tokens with
    | .closeList :: rest => return ([], rest)
    | .key :: rest =>
      let (key, rest) ←
        match rest with
        | .value :: rest | .comma :: rest | .closeList :: rest => some (.missing, rest)
        | rest => node? .inFlow fuel rest
      let (value, rest) ← flowValue? fuel rest
      let (items, rest) ← flowItems? false fuel rest
      return (.map {} [(key, value)] :: items, rest)
    | rest =>
      let (item, rest) ← node? .inFlow fuel rest
      let (items, rest) ← flowItems? false fuel rest
      return (item :: items, rest)

/-- The fields of a map in brackets up to the closing one. A node without a colon is a key. -/
def flowFields? (first : Bool) :
    (fuel : Nat) → List Token → Option (List (Node × Node) × List Token)
  | 0, _ => none
  | _ + 1, .closeMap :: rest => some ([], rest)
  | fuel + 1, tokens => do
    match ← afterComma? first tokens with
    | .closeMap :: rest => return ([], rest)
    | .key :: rest =>
      let (key, rest) ←
        match rest with
        | .value :: _ => some (.missing, rest)
        | _ => if endsFlow rest then some (.missing, rest) else node? .inFlow fuel rest
      let (value, rest) ← flowValue? fuel rest
      let (fields, rest) ← flowFields? false fuel rest
      return ((key, value) :: fields, rest)
    | rest =>
      let (key, rest) ← node? .inFlow fuel rest
      let (fields, rest) ← flowFields? false fuel rest
      return ((key, .missing) :: fields, rest)

end

/-- The node that a whole list of tokens describes. -/
def Node.ofTokens? (tokens : List Token) : Option Node :=
  match node? .inBlock (3 * tokens.length + 3) tokens with
  | some (node, []) => some node
  | _ => none

end TelemetryWiring.Yaml
