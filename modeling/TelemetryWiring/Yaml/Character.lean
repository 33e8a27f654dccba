/-!
Characters of YAML: the ones that a text may hold, and the classes on which the notation rests.
Blanks are the space and the tab alone, and line breaks are read in one form.
-/
namespace TelemetryWiring.Yaml

/-- Whether a text may hold a character, be it in a comment. -/
def isAdmitted (c : Char) : Bool :=
  let n := c.toNat
  n == 0x09 || n == 0x0A || n == 0x0D || (0x20 ≤ n && n ≤ 0x7E) || n == 0x85 ||
    (0xA0 ≤ n && n ≤ 0xFFFD && n != 0xFEFF) || 0x10000 ≤ n

/-- A text with one form for the line breaks that mean no more than the end of a line. -/
def unifyBreaks : List Char → List Char
  | '\r' :: '\n' :: rest => '\n' :: unifyBreaks rest
  | c :: rest => (if c = '\r' || c = '\x85' then '\n' else c) :: unifyBreaks rest
  | [] => []

/-- Whether a character ends a line. -/
def isBreak (c : Char) : Bool := c == '\n' || c == '\u2028' || c == '\u2029'

/-- Whether a character separates words of a line. -/
def isBlank (c : Char) : Bool := c == ' ' || c == '\t'

/-- Whether a character stands between words. -/
def isGap (c : Char) : Bool := isBlank c || isBreak c

/-- Whether a word ends when this follows it. -/
def endsWord : List Char → Bool
  | [] => true
  | c :: _ => isGap c

/-- Whether a character can stand in the name of an anchor, a directive or a tag handle. -/
def isNameChar (c : Char) : Bool := c.isAlphanum || c == '_' || c == '-'

/-- Whether a character is a mark of bracketed collections. -/
def isFlowMark (c : Char) : Bool := [',', '[', ']', '\x7b', '\x7d'].contains c

/-- Whether a character cannot begin an unquoted scalar. -/
def isIndicator (c : Char) : Bool :=
  isFlowMark c || ['#', '&', '*', '!', '|', '>', '\'', '"', '%', '@', '\x60'].contains c

example : unifyBreaks "a\r\nb\rc\u0085d".toList = "a\nb\nc\nd".toList := by decide
example : ("\u00a0\u3000").toList.map isGap = [false, false] := by decide
example : ("\ufeff\x7f\x00").toList.map isAdmitted = [false, false, false] := by decide

end TelemetryWiring.Yaml
