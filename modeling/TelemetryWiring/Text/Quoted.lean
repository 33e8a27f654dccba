/-!
Quoted strings with backslash escapes. The formats read here differ only in their escapes and in
the characters that may stand unescaped, which a `QuoteStyle` records.
-/
namespace TelemetryWiring.Text

/-- What a format accepts between double quotes. -/
structure QuoteStyle where
  /-- The character that the letter after a backslash stands for. -/
  letter : Char → Option Char
  /-- How many hexadecimal digits follow the letter after a backslash. -/
  hexDigits : Char → Option Nat
  /-- Whether two escaped surrogates stand for one character. -/
  joinsSurrogates : Bool
  /-- The characters that may stand for themselves. -/
  admits : Char → Bool

/-- The value of a hexadecimal digit. -/
def hexDigit? (c : Char) : Option Nat :=
  if c.isDigit then some (c.toNat - '0'.toNat)
  else if 'a' ≤ c && c ≤ 'f' then some (c.toNat - 'a'.toNat + 10)
  else if 'A' ≤ c && c ≤ 'F' then some (c.toNat - 'A'.toNat + 10)
  else none

/-- Reads `n` more hexadecimal digits of a number: its value, and what follows it. -/
def hexDigits? : Nat → Nat → List Char → Option (Nat × List Char)
  | 0, value, cs => some (value, cs)
  | _ + 1, _, [] => none
  | n + 1, value, c :: cs => do hexDigits? n (16 * value + (← hexDigit? c)) cs

/-- The value of exactly `n` hexadecimal digits at the front, and what follows them. -/
def hexValue? (n : Nat) (cs : List Char) : Option (Nat × List Char) := hexDigits? n 0 cs

/-- The character with a given code point, unless it is a surrogate or too large. -/
def charOfCode? (code : Nat) : Option Char :=
  if code.isValidChar then some (Char.ofNat code) else none

/-- The character written by an escape of a given code, and what follows it. -/
def escaped? (style : QuoteStyle) (code : Nat) (rest : List Char) : Option (Char × List Char) :=
  if style.joinsSurrogates && 0xD800 ≤ code && code < 0xDC00 then
    match rest with
    | '\\' :: 'u' :: rest => do
      let (low, rest) ← hexValue? 4 rest
      if 0xDC00 ≤ low && low < 0xE000 then
        return (← charOfCode? (0x10000 + (code - 0xD800) * 0x400 + (low - 0xDC00)), rest)
      else none
    | _ => none
  else do return (← charOfCode? code, rest)

/-- Reads to the closing quote, taking at most `fuel` characters or escapes: what was quoted, and
what follows the quote. -/
def readQuoted (style : QuoteStyle) : (fuel : Nat) → List Char → Option (List Char × List Char)
  | 0, _ => none
  | _ + 1, [] => none
  | fuel + 1, c :: rest =>
    if c = '"' then some ([], rest)
    else do
      let (c, rest) ←
        if c = '\\' then
          match rest with
          | [] => none
          | e :: rest =>
            match style.letter e, style.hexDigits e with
            | some c, _ => some (c, rest)
            | none, some n => do
              let (code, rest) ← hexValue? n rest
              escaped? style code rest
            | none, none => none
        else if style.admits c then some (c, rest)
        else none
      let (cs, rest) ← readQuoted style fuel rest
      return (c :: cs, rest)

/-- What stands between an opening quote, already read, and the closing one, and what follows. -/
def quoted? (style : QuoteStyle) (cs : List Char) : Option (String × List Char) :=
  (readQuoted style (cs.length + 1) cs).map fun (inner, rest) => (.ofList inner, rest)

/-- The escapes of a line break, a tab and the like, common to the formats read here. -/
def commonEscape? : Char → Option Char
  | '"' => some '"'
  | '\\' => some '\\'
  | 'b' => some '\x08'
  | 'f' => some '\x0c'
  | 'n' => some '\n'
  | 'r' => some '\r'
  | 't' => some '\t'
  | _ => none

end TelemetryWiring.Text
