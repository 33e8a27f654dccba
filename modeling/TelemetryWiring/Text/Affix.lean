/-!
Beginnings and ends of texts, and cutting a text at a separator.
-/
namespace TelemetryWiring.Text

/-- Whether a text begins with another. -/
def startsWith (s start : String) : Bool := start.toList.isPrefixOf s.toList

/-- Whether a text ends with another. -/
def endsWith (s ending : String) : Bool := ending.toList.isSuffixOf s.toList

/-- What follows a given beginning. -/
def dropStart? [BEq α] (start cs : List α) : Option (List α) :=
  if start.isPrefixOf cs then some (cs.drop start.length) else none

/-- The parts before and after the first place where a separator stands. -/
def cut? [BEq α] (separator : List α) : List α → Option (List α × List α)
  | [] => if separator.isEmpty then some ([], []) else none
  | c :: rest =>
    match dropStart? separator (c :: rest) with
    | some after => some ([], after)
    | none => (cut? separator rest).map fun (before, after) => (c :: before, after)

/-- What follows the last place where an element stands. -/
def afterLast? [BEq α] (separator : α) (cs : List α) : Option (List α) :=
  let after := (cs.reverse.takeWhile (· != separator)).reverse
  if cs.contains separator then some after else none

/-- A text with every letter A to Z in lower case; other characters stay. -/
def lowerCase (s : String) : String := .ofList (s.toList.map Char.toLower)

/-- A text with each occurrence of one character replaced by another. -/
def replaceChar (old new : Char) (s : String) : String :=
  .ofList (s.toList.map fun c => if c = old then new else c)

example : cut? ['='] "a=b=c".toList = some (['a'], "b=c".toList) := by decide
example : afterLast? '@' "a@b@c".toList = some ['c'] := by decide

end TelemetryWiring.Text
