import TelemetryWiring.Json.Token

/-!
The text of JSON values: `Json.parse?` reads it and `Json.render` writes it.
-/
namespace TelemetryWiring.Json

/-- JSON strings: characters below the space are escaped, and `\u` takes four digits. -/
def quoteStyle : Text.QuoteStyle where
  letter := fun c => if c = '/' then some '/' else Text.commonEscape? c
  hexDigits := fun c => if c = 'u' then some 4 else none
  joinsSurrogates := true
  admits := fun c => ' ' ≤ c

/-- The value of a run of letters. -/
def ofWord? (cs : List Char) : Option Json :=
  if cs = "true".toList then some (.bool true)
  else if cs = "false".toList then some (.bool false)
  else if cs = "null".toList then some .null
  else none

/-- Whether a character can stand in a number. -/
def isNumeric (c : Char) : Bool :=
  c.isDigit || c == '-' || c == '+' || c == '.' || c == 'e' || c == 'E'

/-- The tokens of a JSON text; blanks between them are skipped. -/
def tokens? : (fuel : Nat) → List Char → Option (List Token)
  | _, [] => some []
  | 0, _ :: _ => none
  | fuel + 1, c :: rest =>
    if c = ' ' || c = '\n' || c = '\t' || c = '\r' then tokens? fuel rest
    else if let some mark := Token.ofMark? c then
      (tokens? fuel rest).map (mark :: ·)
    else if c = '"' then do
      let (s, rest) ← Text.quoted? quoteStyle rest
      return .scalar (.str s) :: (← tokens? fuel rest)
    else if c.isAlpha then do
      let value ← ofWord? ((c :: rest).takeWhile (·.isAlpha))
      return .scalar value :: (← tokens? fuel (rest.dropWhile (·.isAlpha)))
    else do
      let number ← Number.parse? ((c :: rest).takeWhile isNumeric)
      return .scalar (.num number) :: (← tokens? fuel (rest.dropWhile isNumeric))

/-- How many arrays and objects may stand inside one another in a text. -/
def maxDepth : Nat := 127

/-- The tokens of a text that is not too deep, also in what counts for nothing in the end. -/
def boundedTokens? (text : String) : Option (List Token) := do
  let tokens ← tokens? text.length text.toList
  if Token.depth 0 tokens ≤ maxDepth then some tokens else none

/-- Reads a JSON text; of fields with one key the last counts. -/
def parse? (text : String) : Option Json := do ofTokens? lastCounts (← boundedTokens? text)

/-- Reads the fields of the object in a JSON text, as they are written; the rule is for the objects
inside it. -/
def parseFields? (rule : FieldRule) (text : String) : Option (List (String × Json)) := do
  fieldsOfTokens? rule (← boundedTokens? text)

/-- Four hexadecimal digits of a code below 65536. -/
def hex4 (n : Nat) : List Char :=
  [n / 4096 % 16, n / 256 % 16, n / 16 % 16, n % 16].map Nat.digitChar

/-- A character inside a JSON string. -/
def renderChar (c : Char) : List Char :=
  if c = '"' then ['\\', '"']
  else if c = '\\' then ['\\', '\\']
  else if c = '\n' then ['\\', 'n']
  else if c = '\r' then ['\\', 'r']
  else if c = '\t' then ['\\', 't']
  else if c < ' ' then '\\' :: 'u' :: hex4 c.toNat
  else [c]

/-- A string between quotes. -/
def renderString (s : String) : String :=
  .ofList ('"' :: s.toList.flatMap renderChar ++ ['"'])

mutual

/-- Writes a value without blanks between its tokens. -/
def render : Json → String
  | .null => "null"
  | .bool true => "true"
  | .bool false => "false"
  | .num n => n.render
  | .str s => renderString s
  | .arr items => "[" ++ String.intercalate "," (renderItems items) ++ "]"
  | .obj fields => "\x7b" ++ String.intercalate "," (renderFields fields) ++ "\x7d"

def renderItems : List Json → List String
  | [] => []
  | item :: items => render item :: renderItems items

def renderFields : List (String × Json) → List String
  | [] => []
  | (key, value) :: fields => (renderString key ++ ":" ++ render value) :: renderFields fields

end

end TelemetryWiring.Json
