import TelemetryWiring.Json.Value
import TelemetryWiring.Text.Affix
import TelemetryWiring.Text.Blank
import TelemetryWiring.Text.Quoted

/-!
Values of a stack that the process environment replaces. The name of a variable is a path into the
stack, and its text is read in a small notation of its own; a text that is not in the notation
stands for itself.
-/
namespace TelemetryWiring.Override

/-- Escapes between double quotes. -/
def quoteStyle : Text.QuoteStyle where
  letter := Text.commonEscape?
  hexDigits
    | 'u' => some 4
    | 'U' => some 8
    | _ => none
  joinsSurrogates := false
  admits := fun c => (' ' ≤ c && c ≠ '\x7f') || c = '\t'

/-- The blanks that may stand around values and keys. -/
def isSpace (c : Char) : Bool := [' ', '\t', '\n', '\x0c', '\r'].contains c

/-- Whether a character separates values. -/
def isSeparator (c : Char) : Bool := [',', '\x7b', '\x7d', '[', ']'].contains c

def isKeyChar (c : Char) : Bool := c.isAlphanum || c == '_' || c == '-'

/-- What a bare word stands for: a fraction if it has a point, a whole number, or a text. -/
def ofWord (cs : List Char) : Json :=
  match if cs.contains '.' then Number.fraction? cs else none with
  | some number => .num number
  | none =>
    match Number.wholeText? cs with
    | some number => .num number
    | none => .str (.ofList cs)

/-- The longest beginning of a text that takes up at most a number of bytes. -/
def firstBytes : (count : Nat) → List Char → List Char
  | _, [] => []
  | count, c :: rest =>
    if c.utf8Size ≤ count then c :: firstBytes (count - c.utf8Size) rest else []

/-- What stands between quotes, and what follows. Of the characters before the first escape only so
many are kept as take up one byte for each of them. -/
def quoted? (cs : List Char) : Option (String × List Char) := do
  let (text, rest) ← Text.quoted? quoteStyle cs
  let plain := cs.takeWhile fun c => c != '"' && c != '\\'
  if cs[plain.length]? = some '\\' then
    return (.ofList (firstBytes plain.length plain ++ text.toList.drop plain.length), rest)
  else return (text, rest)

/-- A key and what follows it. -/
def key? (cs : List Char) : Option (String × List Char) :=
  match cs with
  | '"' :: rest => quoted? rest
  | cs =>
    let key := cs.takeWhile isKeyChar
    if key.isEmpty then none else some (.ofList key, cs.dropWhile isKeyChar)

mutual

/-- The value at the front, with the blanks around it. -/
def value? : (fuel : Nat) → List Char → Option (Json × List Char)
  | 0, _ => none
  | fuel + 1, cs => do
    let (value, rest) ← item? fuel (cs.dropWhile isSpace)
    return (value, rest.dropWhile isSpace)

/-- The value at the front; its first characters tell its kind. -/
def item? : (fuel : Nat) → List Char → Option (Json × List Char)
  | 0, _ => none
  | fuel + 1, cs =>
    match Text.dropStart? "true".toList cs, Text.dropStart? "false".toList cs with
    | some rest, _ => some (.bool true, rest)
    | none, some rest => some (.bool false, rest)
    | none, none =>
      match cs with
      | '\x7b' :: rest => (fields? fuel rest).map fun (fields, rest) => (.object fields, rest)
      | '[' :: rest => (items? fuel rest).map fun (items, rest) => (.arr items, rest)
      | '"' :: rest => (quoted? rest).map fun (s, rest) => (.str s, rest)
      | '\'' :: rest =>
        match rest with
        | c :: '\'' :: rest => some (.str (.ofList [c]), rest)
        | _ => none
      | cs =>
        let word := cs.takeWhile fun c => !isSeparator c
        some (ofWord (Text.trimWhere Text.isBlank word), cs.dropWhile fun c => !isSeparator c)

/-- The items up to the closing bracket; a comma may stand before it. -/
def items? : (fuel : Nat) → List Char → Option (List Json × List Char)
  | 0, _ => none
  | _ + 1, ']' :: rest => some ([], rest)
  | fuel + 1, cs => do
    let (item, rest) ← value? fuel cs
    match rest with
    | ',' :: rest =>
      let (items, rest) ← items? fuel rest
      return (item :: items, rest)
    | ']' :: rest => return ([item], rest)
    | _ => none

/-- The fields up to the closing brace; a comma may stand before it. -/
def fields? : (fuel : Nat) → List Char → Option (List (String × Json) × List Char)
  | 0, _ => none
  | _ + 1, '\x7d' :: rest => some ([], rest)
  | fuel + 1, cs => do
    let (key, rest) ← key? (cs.dropWhile isSpace)
    match rest.dropWhile isSpace with
    | '=' :: rest =>
      let (value, rest) ← value? fuel rest
      match rest with
      | ',' :: rest =>
        let (fields, rest) ← fields? fuel rest
        return ((key, value) :: fields, rest)
      | '\x7d' :: rest => return ([(key, value)], rest)
      | _ => none
    | _ => none

end

/-- What the text of a variable stands for. -/
def ofText (text : String) : Json :=
  match value? (2 * text.length + 2) text.toList with
  | some (value, []) => value
  | _ => .str text

/-- The beginning of the names of variables that replace values, in letters of either case. -/
def nameStart : List Char := "dd_cdk_".toList

/-- Names of variables that begin so and are meant for something else. -/
def otherNames : List String := ["bypass_site_validation", "bypass_validation", "stack_file"]

/-- A name with points for double underscores. -/
def withPoints : List Char → List Char
  | '_' :: '_' :: rest => '.' :: withPoints rest
  | c :: rest => c :: withPoints rest
  | [] => []

/-- The path that a variable's name leads along, if it leads into the stack. Blanks around the name
and around the path count for nothing. -/
def path? (name : String) : Option (List String) := do
  let rest ← Text.dropStart? nameStart (Text.lowerCase (Text.trim name)).toList
  if otherNames.contains (.ofList rest) then none
  let parts := (Text.trimWhere Text.isBlank (withPoints rest)).splitOn '.'
  if parts.any (·.isEmpty) then none else some (parts.map String.ofList)

mutual

/-- The second value over the first: objects are joined field by field, and anything else is
replaced. -/
def overlay (base : Json) : Json → Json
  | .obj fields =>
    match base with
    | .obj old => .obj (overlayFields old fields)
    | _ => .obj fields
  | value => value

def overlayFields (base : List (String × Json)) : List (String × Json) → List (String × Json)
  | [] => base
  | (key, value) :: rest =>
    let joined := match Dict.lookup key base with
      | some old => overlay old value
      | none => value
    overlayFields (Dict.place key joined base) rest

end

/-- The values that the environment gives, each at its path. The variables count in the order of
their names. -/
def given (environment : Dict String) : Json :=
  environment.toList.foldl
    (fun values (name, text) =>
      match path? name with
      | some path => overlay values (.nest path (ofText text))
      | none => values)
    (.obj [])

/-- A stack's description with the values that the environment replaces. -/
def apply (description : Json) (environment : Dict String) : Json :=
  overlay description (given environment)

example : ofText "\x7ba=1, b=[x,true],\x7d" =
    .object [("a", .num (.whole 1)), ("b", .arr [.str "x", .bool true])] := by decide +kernel
example : ofText "truely" = .str "truely" := by decide +kernel

end TelemetryWiring.Override
