/-!
Tokens of YAML. Collections that are laid out by indentation are enclosed in tokens of their own, so
that the tree of a list of tokens no longer depends on columns.
-/
namespace TelemetryWiring.Yaml

inductive Token where
  /-- A list laid out by indentation begins. -/
  | list
  /-- A map laid out by indentation begins. -/
  | map
  /-- A list or map laid out by indentation ends. -/
  | done
  /-- The dash before an item. -/
  | item
  | openList
  | closeList
  | openMap
  | closeMap
  | comma
  | key
  | value
  /-- The node with this number stands here again. -/
  | reference (number : Nat)
  /-- The node that follows has this number. -/
  | anchor (number : Nat)
  | tag (name : List UInt8)
  | scalar (plain : Bool) (text : String)
  deriving DecidableEq, Repr

end TelemetryWiring.Yaml
