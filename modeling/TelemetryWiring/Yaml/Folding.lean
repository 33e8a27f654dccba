import TelemetryWiring.Yaml.Character

/-!
Scalars over several lines. The lines of a scalar are joined: one line break between words is a
space, and each further one is a line break of the scalar.
-/
namespace TelemetryWiring.Yaml

/-- What line breaks between two lines of a scalar stand for. The separators of lines and paragraphs
are kept as they are. -/
def fold : List Char → List Char
  | ['\n'] => [' ']
  | '\n' :: more => more
  | breaks => breaks

/-- What blanks and line breaks between two words of a scalar stand for. Blanks beside a line break
count for nothing. -/
def gapText (gap : List Char) : List Char :=
  match gap.filter isBreak with
  | [] => gap
  | breaks => fold breaks

/-- Whether a tab stands among the first characters of a line that begins inside a gap. -/
def hasTabBefore (column : Nat) (gap : List Char) : Bool :=
  (gap.splitOnP isBreak).tail.any fun line => (line.take column).contains '\t'

example : gapText " \t".toList = " \t".toList := by decide
example : gapText "  \n  ".toList = [' '] := by decide
example : gapText " \n\n \n".toList = "\n\n".toList := by decide

end TelemetryWiring.Yaml
