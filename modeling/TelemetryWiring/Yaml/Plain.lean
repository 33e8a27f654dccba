import TelemetryWiring.Yaml.Folding
import TelemetryWiring.Yaml.Place

/-!
Unquoted scalars: words and the gaps between them, over as many lines as are indented deeply enough.
-/
namespace TelemetryWiring.Yaml

/-- The characters of a word: up to a gap, to a colon before one, and inside brackets to a mark of
them. Inside brackets a colon just before a mark, or before a question mark, has no meaning. -/
def plainWord? (inFlow : Bool) : List Char → Option (List Char)
  | [] => some []
  | c :: rest =>
    if isGap c || (c = ':' && endsWord rest) || (inFlow && isFlowMark c) then some []
    else if inFlow && c = ':' && rest.head?.any (fun d => isFlowMark d || d = '?') then none
    else (plainWord? inFlow rest).map (c :: ·)

/-- An unquoted scalar, and where its reading ended. -/
structure PlainText where
  text : List Char
  /-- Whether a line ended after the last word. -/
  endsLine : Bool
  place : Place

/-- The unquoted scalar at a place. Outside brackets its later lines begin at a column not less than
`indent`. A comment ends it, and so does the end of its last line. -/
def plainText? (inFlow : Bool) (indent : Nat) : (fuel : Nat) → Place → Option PlainText
  | 0, _ => none
  | fuel + 1, place =>
    if place.rest.head? = some '#' then some ⟨[], false, place⟩
    else do
      let word ← plainWord? inFlow place.rest
      let gapStart := place.skip word.length
      let gap := gapStart.rest.takeWhile isGap
      let gapEnd := gapStart.skip gap.length
      let endsLine := gap.any isBreak
      if hasTabBefore indent gap then none
      if gap.isEmpty || (!inFlow && endsLine && gapEnd.column < indent) then
        return ⟨word, endsLine, gapEnd⟩
      let more ← plainText? inFlow indent fuel gapEnd
      if more.text.isEmpty then return ⟨word, endsLine, gapEnd⟩
      else return { more with text := word ++ gapText gap ++ more.text }

example : (plainText? false 1 9 ⟨"a b\n c # d".toList, 0, 3, 3⟩).map (·.text) =
    some "a b c".toList := by decide
example : (plainText? true 0 9 ⟨"a:b, c".toList, 0, 0, 0⟩).map (·.text) = some "a:b".toList := by
  decide
example : (plainText? true 0 9 ⟨"a:]".toList, 0, 0, 0⟩).isNone = true := by decide

end TelemetryWiring.Yaml
