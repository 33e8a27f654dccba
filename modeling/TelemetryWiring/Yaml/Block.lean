import TelemetryWiring.Text.Quoted
import TelemetryWiring.Yaml.Folding
import TelemetryWiring.Yaml.Place

/-!
Block scalars: the lines that are indented below a bar, which keeps them as they are, or below an
angle bracket, which folds them.
-/
namespace TelemetryWiring.Yaml

/-- What becomes of the line breaks at the end of a block scalar. -/
inductive Chomping where
  /-- All are dropped. -/
  | strip
  /-- The first is kept. -/
  | clip
  /-- All are kept. -/
  | keep
  deriving DecidableEq, Repr

namespace Chomping

def ofChar? : Char → Option Chomping
  | '-' => some .strip
  | '+' => some .keep
  | _ => none

/-- The line breaks that stay of those after the last line. -/
def apply : Chomping → List Char → List Char
  | .strip, _ => []
  | .clip, breaks => breaks.take 1
  | .keep, breaks => breaks

end Chomping

/-- An indentation that is given as a digit. -/
def indentDigit? (c : Char) : Option Nat := do
  let n ← Text.hexDigit? c
  if 1 ≤ n && n ≤ 9 then some n else none

/-- The chomping, and the indentation if it is given, behind the indicator of a block scalar; the
two stand in either order. -/
def blockHeader? : List Char → Option (Chomping × Option Nat)
  | [] => some (.clip, none)
  | [c] =>
    match Chomping.ofChar? c with
    | some chomping => some (chomping, none)
    | none => (indentDigit? c).map fun n => (.clip, some n)
  | [c, d] =>
    match Chomping.ofChar? c, Chomping.ofChar? d with
    | some chomping, none => (indentDigit? d).map fun n => (chomping, some n)
    | none, some chomping => (indentDigit? c).map fun n => (chomping, some n)
    | _, _ => none
  | _ => none

/-- Blank lines of a block scalar. -/
structure BlankLines where
  breaks : List Char
  /-- The widest indentation, that of the line after them included. -/
  width : Nat
  /-- The place behind the indentation of the line after them. -/
  place : Place

/-- The blank lines from the beginning of a line on. An indentation has at most `limit` spaces, and
a tab that stands in its place is refused. -/
def blankLines? (limit : Option Nat) : (fuel : Nat) → Place → Option BlankLines
  | 0, _ => none
  | fuel + 1, place =>
    let spaces := (place.rest.takeWhile (· = ' ')).length
    let width := (limit.map (min spaces)).getD spaces
    let lineStart := place.skip width
    match lineStart.rest with
    | [] => some ⟨[], width, lineStart⟩
    | c :: _ =>
      if c = '\t' && limit.all (width < ·) then none
      else if isBreak c then
        (blankLines? limit fuel lineStart.next).map fun b =>
          { b with breaks := c :: b.breaks, width := max width b.width }
      else some ⟨[], width, lineStart⟩

/-- The lines of a block scalar, each with the line breaks after it, and the place where they
end. -/
def blockLines? (indent : Nat) :
    (fuel : Nat) → Place → Option (List (List Char × List Char) × Place)
  | 0, _ => none
  | fuel + 1, place =>
    if place.column = indent && !place.rest.isEmpty then do
      let line := place.rest.takeWhile fun c => !isBreak c
      let lineEnd := place.skip line.length
      let blank ← blankLines? (some indent) fuel lineEnd.next
      let (lines, place) ← blockLines? indent fuel blank.place
      return ((line, lineEnd.rest.take 1 ++ blank.breaks) :: lines, place)
    else some ([], place)

/-- Whether a line begins with a blank, which keeps the line breaks beside it. -/
def startsBlank (line : List Char) : Bool := line.head?.any isBlank

/-- The text of lines, and the line breaks after the last of them. -/
def joinLines (folded : Bool) : List (List Char × List Char) → List Char × List Char
  | [] => ([], [])
  | [(line, breaks)] => (line, breaks)
  | (line, breaks) :: (next, more) :: rest =>
    let joint := if folded && !startsBlank line && !startsBlank next then fold breaks else breaks
    let (text, final) := joinLines folded ((next, more) :: rest)
    (line ++ joint ++ text, final)

/-- The block scalar behind its indicator. `floor` is the least column at which its lines may begin.
Their indentation is given, counted from the column of the collection around them, or it is that of
the first line that is not blank. -/
def blockText? (folded : Bool) (floor : Nat) (fuel : Nat) (place : Place) :
    Option (List Char × Place) := do
  let marks := place.rest.takeWhile fun c => (Chomping.ofChar? c).isSome || c.isDigit
  let (chomping, given) ← blockHeader? marks
  let headerEnd := (place.skip marks.length).skipWhile isBlank
  let lineEnd :=
    if headerEnd.rest.head? = some '#' then headerEnd.skipWhile fun c => !isBreak c else headerEnd
  if !(lineEnd.rest.head?.all isBreak) then none
  let limit := given.map (floor - 1 + ·)
  let blank ← blankLines? limit fuel lineEnd.next
  let indent := limit.getD (max (max blank.width floor) 1)
  let (lines, place) ← blockLines? indent fuel blank.place
  match lines with
  | [] => return (if chomping = .keep then blank.breaks else [], place)
  | lines =>
    let (text, final) := joinLines folded lines
    return (blank.breaks ++ text ++ chomping.apply final, place)

example : (blockText? false 1 20 ⟨"\n  a # b\n   c\nd".toList, 0, 4, 4⟩).map (·.1) =
    some "a # b\n c\n".toList := by decide
example : (blockText? true 1 20 ⟨"-\n  a\n  b\n\n  c\n".toList, 0, 4, 4⟩).map (·.1) =
    some "a b\nc".toList := by decide

end TelemetryWiring.Yaml
