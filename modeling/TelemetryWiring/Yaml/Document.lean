import TelemetryWiring.Yaml.Layout
import TelemetryWiring.Yaml.Value

/-!
Texts of YAML. A text holds one document. Three dashes at the beginning of a line begin it, unless
it begins without them, and three points end it; directives can stand before the dashes.
-/
namespace TelemetryWiring.Yaml

/-- What a line of three dashes or points marks. -/
inductive DocumentMark where
  | start
  | stop
  deriving DecidableEq, Repr

/-- The mark at the beginning of a line, and the rest of the line. -/
def DocumentMark.ofLine? : List Char → Option (DocumentMark × List Char)
  | '-' :: '-' :: '-' :: rest => if endsWord rest then some (.start, rest) else none
  | '.' :: '.' :: '.' :: rest => if endsWord rest then some (.stop, rest) else none
  | _ => none

/-- The lines of a text, each with the break that ends it. -/
def lines : List Char → List (List Char)
  | [] => []
  | c :: rest =>
    match isBreak c, lines rest with
    | false, line :: more => (c :: line) :: more
    | _, more => [c] :: more

/-- What stands before the first mark of a text, and what stands behind each mark. -/
structure Sections where
  head : List Char := []
  marked : List (DocumentMark × List Char) := []

/-- Sections with a line before them. -/
def Sections.addLine (line : List Char) (s : Sections) : Sections :=
  match DocumentMark.ofLine? line with
  | some (mark, rest) => ⟨[], (mark, rest ++ s.head) :: s.marked⟩
  | none => ⟨line ++ s.head, s.marked⟩

/-- The sections of a text. -/
def Sections.ofText (cs : List Char) : Sections := (lines cs).foldr addLine {}

/-- The tokens of a section, which behind a mark does not begin a line. -/
def sectionTokens? (handles : TagHandles) (isMarked : Bool) (cs : List Char) :
    Option (List Token) :=
  tokens? handles { rest := cs, column := if isMarked then 3 else 0 }

/-- A number of a version: at most nine digits. -/
def versionNumber? (place : Place) : Option (Nat × Place) :=
  let digits := place.rest.takeWhile (·.isDigit)
  if digits.isEmpty || 9 < digits.length then none
  else some (Number.ofDigits digits, place.skip digits.length)

/-- What directives declare. -/
structure Directives where
  hasVersion : Bool := false
  handles : TagHandles := []

/-- Reads a version, which is to be 1.1 or 1.2 and to stand once. -/
def Directives.version? (d : Directives) (place : Place) : Option (Directives × Place) := do
  let (major, place) ← versionNumber? place
  if place.rest.head? ≠ some '.' then none
  let (minor, place) ← versionNumber? place.next
  if d.hasVersion || major ≠ 1 || !(minor = 1 || minor = 2) then none
  else some ({ d with hasVersion := true }, place)

/-- The handle that a directive declares. -/
def declaredHandle? (cs : List Char) : Option (List Char) :=
  match tagHandle? cs, cs with
  | some handle, _ => some handle
  | none, '!' :: c :: _ => if isBlank c then some ['!'] else none
  | none, _ => none

/-- Reads the meaning of a handle, which is to be declared once. -/
def Directives.handle? (d : Directives) (place : Place) : Option (Directives × Place) := do
  let handle ← declaredHandle? place.rest
  let after := place.skip handle.length
  if !(after.rest.head?.any isBlank) then none
  let (meaning, place) ← tagRun? true (after.skipWhile isBlank)
  if !endsWord place.rest || d.handles.any (·.1 = handle) then none
  else some ({ d with handles := d.handles ++ [(handle, meaning)] }, place)

/-- Reads the directive behind a percent sign. -/
def Directives.directive? (d : Directives) (place : Place) : Option (Directives × Place) :=
  let name := place.rest.takeWhile isNameChar
  let value := (place.skip name.length).skipWhile isBlank
  if !endsWord (place.skip name.length).rest then none
  else if name = "YAML".toList then d.version? value
  else if name = "TAG".toList then d.handle? value
  else none

/-- The handles that the directives of a section declare, if it holds nothing else. -/
def directives? : (fuel : Nat) → (lineStart : Bool) → Directives → Place → Option TagHandles
  | 0, _, _, _ => none
  | fuel + 1, lineStart, d, place => do
    let (place, _) := skipGap false (fuel + 1) lineStart place
    match place.rest with
    | [] => return d.handles
    | '%' :: _ =>
      if place.column ≠ 0 then none
      let (d, after) ← d.directive? place.next
      let blankEnd := after.skipWhile isBlank
      let lineEnd :=
        if blankEnd.rest.head? = some '#' then blankEnd.skipWhile fun c => !isBreak c else blankEnd
      if !(lineEnd.rest.head?.all isBreak) then none
      directives? fuel false d lineEnd.next
    | _ => none

/-- The tokens of the one document of a text; none are left where nothing is written. -/
def Sections.document? (s : Sections) : Option (List Token) := do
  match s.marked with
  | (.start, body) :: ends =>
    let handles ← directives? (s.head.length + 2) true {} { rest := s.head }
    if !(ends.all closes) then none
    sectionTokens? (handles ++ standardHandles) true body
  | ends =>
    let tokens ← sectionTokens? standardHandles false s.head
    if !(ends.all closes) || (tokens.isEmpty && !ends.isEmpty) then none
    return tokens
where
  /-- Whether a mark only ends the document before it. -/
  closes : DocumentMark × List Char → Bool := fun (mark, rest) =>
    mark = .stop && sectionTokens? standardHandles true rest = some []

/-- Reads the fields of a text, as they are written. One without a document has none. The rule is
for the maps inside the outermost one. -/
def parseFields? (rule : Json.FieldRule) (text : String) : Option (List (String × Json)) := do
  if !(text.toList.all isAdmitted) then none
  let tokens ← (Sections.ofText (unifyBreaks text.toList)).document?
  if tokens.isEmpty then return []
  (← Node.ofTokens? tokens).document? rule

end TelemetryWiring.Yaml
