/-!
Blank characters, and the two operations that depend on them: trimming and cutting a text into
words. The class is the White_Space property of Unicode.
-/
namespace TelemetryWiring.Text

/-- The characters with the Unicode property White_Space. -/
def isBlank (c : Char) : Bool :=
  let n := c.toNat
  (0x09 ≤ n && n ≤ 0x0D) || n == 0x20 || n == 0x85 || n == 0xA0 || n == 0x1680 ||
    (0x2000 ≤ n && n ≤ 0x200A) || n == 0x2028 || n == 0x2029 || n == 0x202F || n == 0x205F ||
    n == 0x3000

/-- A list without the elements at either end that satisfy a test. -/
def trimWhere {α : Type} (p : α → Bool) (cs : List α) : List α :=
  ((cs.dropWhile p).reverse.dropWhile p).reverse

/-- A text without the blanks at its ends. -/
def trim (s : String) : String := .ofList (trimWhere isBlank s.toList)

/-- The maximal runs of characters that are not blank, in order. -/
def words (s : String) : List String :=
  ((s.toList.splitOnP isBlank).filter (!·.isEmpty)).map String.ofList

example : ("a\u00a0\u3000b").toList.map isBlank = [false, true, true, false] := by decide
example : ("\u200b\ufeff\u180e").toList.map isBlank = [false, false, false] := by decide

end TelemetryWiring.Text
