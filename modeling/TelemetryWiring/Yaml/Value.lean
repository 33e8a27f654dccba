import TelemetryWiring.Json.Token
import TelemetryWiring.Yaml.Node
import TelemetryWiring.Yaml.Scalar

/-!
The value that a document stands for. References are followed, so how deep a value is and how often
references are followed in it is bounded: a document may refer to a node from inside that node. A
value with a local tag is put into a map under the name that the tag gives.
-/
namespace TelemetryWiring.Yaml

/-- How many collections may stand inside one another, the outermost included. -/
def maxDepth : Nat := 128

/-- How often references may be followed for each part of a document. -/
def followsPerPart : Nat := 100

namespace Node

mutual

/-- The number of scalars, references, and begins and ends of collections. -/
def parts : Node → Nat
  | .reference _ | .scalar _ _ _ => 1
  | .list _ items => 2 + partsOfItems items
  | .map _ fields => 2 + partsOfFields fields

def partsOfItems : List Node → Nat
  | [] => 0
  | item :: items => parts item + partsOfItems items

def partsOfFields : List (Node × Node) → Nat
  | [] => 0
  | (key, value) :: fields => parts key + parts value + partsOfFields fields

end

/-- A node under the number of its anchor, if it has one. -/
def underAnchor (p : Properties) (node : Node) : List (Nat × Node) :=
  (p.anchor.map fun number => (number, node)).toList

mutual

/-- The nodes with anchors in the order of the document. -/
def anchored : Node → List (Nat × Node)
  | .reference _ => []
  | .scalar p plain text => underAnchor p (.scalar p plain text)
  | .list p items => underAnchor p (.list p items) ++ anchoredItems items
  | .map p fields => underAnchor p (.map p fields) ++ anchoredFields fields

def anchoredItems : List Node → List (Nat × Node)
  | [] => []
  | item :: items => anchored item ++ anchoredItems items

def anchoredFields : List (Node × Node) → List (Nat × Node)
  | [] => []
  | (key, value) :: fields => anchored key ++ anchored value ++ anchoredFields fields

end

/-- A value with the properties of its node. The points of the name that a local tag gives to it
divide the name into the keys of maps inside one another, up to the first empty key. -/
def named (p : Properties) (value : Json) : Json :=
  match p.tag.bind localName? with
  | none => value
  | some name =>
    let keys := (name.toList.splitOn '.').takeWhile fun key => !key.isEmpty
    .nest (keys.map String.ofList) value

/-- What a document lets references do. -/
structure References where
  /-- The nodes by number; of several with one number the first counts. -/
  nodes : List (Nat × Node)
  limit : Nat

/-- The references of a document. Of several nodes with one number the last counts. -/
def references (root : Node) : References :=
  ⟨root.anchored.reverse, followsPerPart * root.parts⟩

/-- The node itself, or the one that it refers to. The state counts the references followed. -/
def follow (r : References) : Node → StateT Nat Option Node
  | .reference number => do
    let count ← get
    if count < r.limit then
      set (count + 1)
      StateT.lift ((r.nodes.find? (·.1 = number)).map (·.2))
    else failure
  | node => return node

/-- The text of a key. -/
def keyText? : Node → Option String
  | .scalar _ _ text => some text
  | _ => none

/-- The fields of a map as they are written, given how its values are read. -/
def fieldsWith (r : References) (value : Node → StateT Nat Option Json)
    (fields : List (Node × Node)) : StateT Nat Option (List (String × Json)) :=
  fields.mapM fun (key, node) => do
    let text ← StateT.lift (← follow r key).keyText?
    return (text, ← value (← follow r node))

/-- The value of a node that is no reference, with at most `depth` collections inside one another.
The rule tells what the fields of a map amount to. -/
def value? (rule : Json.FieldRule) (r : References) :
    (depth : Nat) → Node → StateT Nat Option Json
  | _, .reference _ => failure
  | _, .scalar p plain text => return named p (← StateT.lift (ofScalar? p.tag plain text))
  | 0, _ => failure
  | depth + 1, .list p items => do
    let values ← items.mapM fun item => do value? rule r depth (← follow r item)
    return named p (.arr values)
  | depth + 1, .map p fields => do
    let pairs ← fieldsWith r (value? rule r depth) fields
    return named p (← StateT.lift (rule pairs))

/-- The fields of a document, as they are written: it is a map, or empty where nothing is written.
No tag of the outermost node counts, and the rule is for the maps inside it. -/
def document? (rule : Json.FieldRule) (root : Node) : Option (List (String × Json)) :=
  let r := root.references
  match root with
  | .map _ fields => (fieldsWith r (value? rule r (maxDepth - 1)) fields).run' 0
  | .scalar _ true "" => some []
  | _ => none

end Node
end TelemetryWiring.Yaml
