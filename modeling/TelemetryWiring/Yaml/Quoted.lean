import TelemetryWiring.Text.Quoted
import TelemetryWiring.Yaml.Folding
import TelemetryWiring.Yaml.Place

/-!
Quoted scalars. Between single quotes only the quote itself is special, and is written twice;
between double quotes a backslash begins an escape.
-/
namespace TelemetryWiring.Yaml

/-- The character that the letter after a backslash stands for. -/
def escapeLetter? : Char → Option Char
  | '0' => some '\x00'
  | 'a' => some '\x07'
  | 'v' => some '\x0b'
  | 'e' => some '\x1b'
  | ' ' => some ' '
  | '/' => some '/'
  | 'N' => some '\x85'
  | '_' => some '\xa0'
  | 'L' => some '\u2028'
  | 'P' => some '\u2029'
  | '\t' => some '\t'
  | c => Text.commonEscape? c

/-- How many hexadecimal digits of a character's code follow the letter after a backslash. -/
def escapeDigits? : Char → Option Nat
  | 'x' => some 2
  | 'u' => some 4
  | 'U' => some 8
  | _ => none

/-- The character of the escape that follows a backslash, and how many characters write it. -/
def escape? : List Char → Option (Char × Nat)
  | [] => none
  | e :: rest =>
    match escapeLetter? e with
    | some c => some (c, 1)
    | none => do
      let digits ← escapeDigits? e
      let (code, _) ← Text.hexValue? digits rest
      return (← Text.charOfCode? code, digits + 1)

/-- What stands between quotes, from a place after the opening one on, and the place after the
closing one. After an escaped line break only further line breaks count. -/
def quotedText? (quote : Char) : (fuel : Nat) → Place → Option (List Char × Place)
  | 0, _ => none
  | fuel + 1, place =>
    match place.rest with
    | [] => none
    | c :: rest =>
      let after (text : List Char) (width : Nat) : Option (List Char × Place) :=
        (quotedText? quote fuel (place.skip width)).map fun (more, place) => (text ++ more, place)
      if c = quote then
        if quote = '\'' && rest.head? = some quote then after [quote] 2 else some ([], place.next)
      else if isGap c then
        let gap := place.rest.takeWhile isGap
        after (gapText gap) gap.length
      else if quote = '"' && c = '\\' then
        if rest.head?.any isBreak then
          let gap := rest.takeWhile isGap
          after ((gap.drop 1).filter isBreak) (gap.length + 1)
        else do
          let (d, width) ← escape? rest
          after [d] (width + 1)
      else after [c] 1

example : (quotedText? '\'' 9 ⟨"it''s'".toList, 0, 1, 1⟩).map (·.1) = some "it's".toList := by
  decide
example : (quotedText? '"' 9 ⟨"a \n\n b\\x41\"".toList, 0, 1, 1⟩).map (·.1) =
    some "a\nbA".toList := by decide
example : (quotedText? '"' 9 ⟨"a\\\n  b\"".toList, 0, 1, 1⟩).map (·.1) = some "ab".toList := by
  decide

end TelemetryWiring.Yaml
