import TelemetryWiring.Yaml.Character

/-!
Places in a text. A place holds what is still to be read and tells where that begins; moving on
keeps the two in step.
-/
namespace TelemetryWiring.Yaml

structure Place where
  rest : List Char
  line : Nat := 0
  column : Nat := 0
  /-- How many bytes the characters passed take up. -/
  index : Nat := 0
  deriving DecidableEq, Repr

namespace Place

/-- The place after the next character; at the end of the text it is the same place. -/
def next (p : Place) : Place :=
  match p.rest with
  | [] => p
  | c :: rest =>
    if isBreak c then ⟨rest, p.line + 1, 0, p.index + c.utf8Size⟩
    else ⟨rest, p.line, p.column + 1, p.index + c.utf8Size⟩

/-- The place after a number of characters. -/
def skip : Place → Nat → Place
  | p, 0 => p
  | p, n + 1 => p.next.skip n

/-- The place after all characters from here on that satisfy a test. -/
def skipWhile (test : Char → Bool) (p : Place) : Place :=
  p.skip (p.rest.takeWhile test).length

/-- Passing a line up to its end leaves the line break. -/
example : (skipWhile (fun c => !isBreak c) ⟨"ab\nc".toList, 0, 0, 0⟩).rest = "\nc".toList := by
  decide

end Place
end TelemetryWiring.Yaml
