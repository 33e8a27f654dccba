import TelemetryWiring.Dict
import TelemetryWiring.Yaml.Block
import TelemetryWiring.Yaml.Plain
import TelemetryWiring.Yaml.Quoted
import TelemetryWiring.Yaml.Tag
import TelemetryWiring.Yaml.Token

/-!
The layout of a document: how its characters become tokens. Outside brackets the columns at which
items and keys begin decide where lists and maps begin and end. Whether a node is a key is known
only when a colon follows it on its line, so the token of a key is put before tokens already read.
-/
namespace TelemetryWiring.Yaml

/-- A node that is a key if a colon follows it on its line. -/
structure KeyCandidate where
  place : Place
  /-- How many tokens stand before it. -/
  position : Nat
  /-- Whether nothing but a key can stand where it stands. -/
  required : Bool

/-- The number of bytes that a key may take up. -/
def keyWidth : Nat := 1024

/-- Whether a candidate can no longer be a key. -/
def KeyCandidate.isPast (c : KeyCandidate) (place : Place) : Bool :=
  c.place.line < place.line || c.place.index + keyWidth < place.index

/-- A document that is read up to a place. -/
structure Layout where
  place : Place
  handles : TagHandles
  /-- Whether a key may begin at the place. -/
  keyAllowed : Bool
  /-- The columns of the lists and maps laid out around the place, innermost first. -/
  columns : List Nat := []
  /-- The candidate between the innermost brackets around the place, or outside all brackets. -/
  candidate : Option KeyCandidate := none
  /-- The candidates outside each pair of brackets around the place, innermost first. -/
  outer : List (Option KeyCandidate) := []
  /-- The tokens so far, the latest first. -/
  tokens : List Token := []
  count : Nat := 0
  /-- The numbers of the anchors so far. -/
  anchors : Dict Nat := .empty

namespace Layout

/-- Whether the place is inside brackets. -/
def inFlow (l : Layout) : Bool := !l.outer.isEmpty

/-- The least column at which something inside the innermost list or map can begin. -/
def floor (l : Layout) : Nat := (l.columns.head?.map (· + 1)).getD 0

/-- Adds a token, which takes up a number of characters. -/
def push (l : Layout) (token : Token) (width : Nat) : Layout :=
  { l with place := l.place.skip width, tokens := token :: l.tokens, count := l.count + 1 }

/-- Adds a token, which ends at a place. -/
def pushTo (l : Layout) (token : Token) (place : Place) : Layout := { l.push token 0 with place }

/-- Puts a token behind the first `position` tokens. -/
def insertAt (l : Layout) (position : Nat) (token : Token) : Layout :=
  let (later, earlier) := l.tokens.splitAt (l.count - position)
  { l with tokens := later ++ token :: earlier, count := l.count + 1 }

/-- Begins a list or map at a column unless one is laid out there already. Inside brackets nothing
is laid out. -/
def beginAt (l : Layout) (column position : Nat) (token : Token) : Layout :=
  if l.inFlow || column < l.floor then l
  else { l.insertAt position token with columns := column :: l.columns }

/-- Ends the innermost lists and maps whose columns satisfy a test. -/
def endWhile (l : Layout) (test : Nat → Bool) : Layout :=
  if l.inFlow then l
  else
    let ended := (l.columns.takeWhile test).length
    { l with
      columns := l.columns.drop ended
      tokens := List.replicate ended .done ++ l.tokens
      count := l.count + ended }

/-- Gives up the candidate, unless it has to be a key. -/
def dropCandidate? (l : Layout) : Option Layout :=
  if l.candidate.any (·.required) then none else some { l with candidate := none }

/-- Makes the node that begins at the place the candidate, if a key may begin there. -/
def noteCandidate? (l : Layout) : Option Layout :=
  if l.keyAllowed then do
    let l' ← l.dropCandidate?
    let required := !l.inFlow && l.columns.head? = some l.place.column
    return { l' with candidate := some { place := l.place, position := l.count, required } }
  else some l

/-- Gives up the candidates that lie too far back. -/
def dropPast? (l : Layout) : Option Layout :=
  if (l.candidate :: l.outer).any fun c => c.any fun c => c.required && c.isPast l.place then none
  else
    let keep := Option.filter fun c : KeyCandidate => !c.isPast l.place
    some { l with candidate := keep l.candidate, outer := l.outer.map keep }

end Layout

/-- The place of the next token, and whether a key may begin there. Blanks, comments and line breaks
are passed. A tab is passed inside brackets and where no key may begin, since it must not be taken
for indentation. -/
def skipGap (inFlow : Bool) : (fuel : Nat) → (keyAllowed : Bool) → Place → Place × Bool
  | 0, keyAllowed, place => (place, keyAllowed)
  | fuel + 1, keyAllowed, place =>
    let place := place.skipWhile fun c => c = ' ' || (c = '\t' && (inFlow || !keyAllowed))
    let place :=
      if place.rest.head? = some '#' then place.skipWhile fun c => !isBreak c else place
    if place.rest.head?.any isBreak then skipGap inFlow fuel (keyAllowed || !inFlow) place.next
    else (place, keyAllowed)

namespace Layout

/-- Moves on to the next token, and ends the lists and maps that it stands outside of. -/
def approach? (l : Layout) (fuel : Nat) : Option Layout := do
  let (place, keyAllowed) := skipGap l.inFlow fuel l.keyAllowed l.place
  let l ← { l with place, keyAllowed }.dropPast?
  return l.endWhile (place.column < ·)

/-- Reads an opening bracket. -/
def openFlow? (l : Layout) (token : Token) : Option Layout := do
  let l ← l.noteCandidate?
  let outer := l.candidate :: l.outer
  return { l with candidate := none, outer, keyAllowed := true }.push token 1

/-- Reads a closing bracket. -/
def closeFlow? (l : Layout) (token : Token) : Option Layout := do
  let l ← l.dropCandidate?
  match l.outer with
  | [] => none
  | candidate :: outer => return { l with candidate, outer, keyAllowed := false }.push token 1

/-- Reads the comma between parts of a collection in brackets. -/
def comma? (l : Layout) : Option Layout := do
  let l ← l.dropCandidate?
  return { l with keyAllowed := true }.push .comma 1

/-- Begins a list or map for a mark at the place, which outside brackets stands where a key may
begin. -/
def beginHere? (l : Layout) (token : Token) : Option Layout :=
  if l.inFlow then some l
  else if l.keyAllowed then some (l.beginAt l.place.column l.count token)
  else none

/-- Reads the dash before an item. -/
def item? (l : Layout) : Option Layout := do
  let l ← (← l.beginHere? .list).dropCandidate?
  return { l with keyAllowed := true }.push .item 1

/-- Reads the question mark before a key. -/
def key? (l : Layout) : Option Layout := do
  let l ← (← l.beginHere? .map).dropCandidate?
  return { l with keyAllowed := !l.inFlow }.push .key 1

/-- Reads the colon before a value. A candidate becomes a key by it, and the map begins before the
key. -/
def value? (l : Layout) : Option Layout :=
  match l.candidate with
  | some c =>
    let l := (l.insertAt c.position .key).beginAt c.place.column c.position .map
    some ({ l with candidate := none, keyAllowed := false }.push .value 1)
  | none => do
    let l ← l.beginHere? .map
    return { l with keyAllowed := !l.inFlow }.push .value 1

/-- The name behind the mark of an anchor or a reference, and the place after it. -/
def anchorName? (l : Layout) : Option (String × Place) :=
  let name := l.place.next.rest.takeWhile isNameChar
  let place := l.place.next.skip name.length
  let ends := endsWord place.rest ||
    place.rest.head?.any (['?', ':', ',', ']', '\x7d', '%', '@', '\x60'].contains ·)
  if name.isEmpty || !ends then none else some (.ofList name, place)

/-- Reads a reference to an anchor, which stands before it. -/
def reference? (l : Layout) : Option Layout := do
  let l ← l.noteCandidate?
  let (name, place) ← l.anchorName?
  return { l with keyAllowed := false }.pushTo (.reference (← l.anchors.get? name)) place

/-- Reads an anchor. Its number is the number of names that had an anchor before. -/
def anchor? (l : Layout) : Option Layout := do
  let l ← l.noteCandidate?
  let (name, place) ← l.anchorName?
  let number := l.anchors.entries.length
  let anchors := l.anchors.insert name number
  return { l with keyAllowed := false, anchors }.pushTo (.anchor number) place

/-- Reads a tag, which ends with its word or, inside brackets, before a comma. -/
def tag? (l : Layout) : Option Layout := do
  let l ← l.noteCandidate?
  let (name, place) ← Yaml.tag? l.handles l.place
  if endsWord place.rest || (l.inFlow && place.rest.head? = some ',') then
    return { l with keyAllowed := false }.pushTo (.tag name) place
  else none

/-- Reads a block scalar. -/
def block? (l : Layout) (folded : Bool) (fuel : Nat) : Option Layout := do
  let l ← l.dropCandidate?
  let (text, place) ← blockText? folded l.floor fuel l.place.next
  return { l with keyAllowed := true }.pushTo (.scalar false (.ofList text)) place

/-- Reads a quoted scalar. -/
def quoted? (l : Layout) (quote : Char) (fuel : Nat) : Option Layout := do
  let l ← l.noteCandidate?
  let (text, place) ← quotedText? quote fuel l.place.next
  return { l with keyAllowed := false }.pushTo (.scalar false (.ofList text)) place

/-- Reads an unquoted scalar. A key may begin after it where it ended with its line. -/
def plain? (l : Layout) (fuel : Nat) : Option Layout := do
  let l ← l.noteCandidate?
  let plain ← plainText? l.inFlow l.floor fuel l.place
  return { l with keyAllowed := plain.endsLine }.pushTo
    (.scalar true (.ofList plain.text)) plain.place

/-- Reads the token at the place, which its first characters tell. -/
def token? (l : Layout) (fuel : Nat) : Option Layout :=
  match l.place.rest with
  | [] => none
  | c :: rest =>
    if c = '[' then l.openFlow? .openList
    else if c = '\x7b' then l.openFlow? .openMap
    else if c = ']' then l.closeFlow? .closeList
    else if c = '\x7d' then l.closeFlow? .closeMap
    else if c = ',' then l.comma?
    else if c = '-' && endsWord rest then l.item?
    else if c = '?' && (l.inFlow || endsWord rest) then l.key?
    else if c = ':' && (l.inFlow || endsWord rest) then l.value?
    else if c = '*' then l.reference?
    else if c = '&' then l.anchor?
    else if c = '!' then l.tag?
    else if (c = '|' || c = '>') && !l.inFlow then l.block? (c = '>') fuel
    else if c = '"' || c = '\'' then l.quoted? c fuel
    else if isGap c || isIndicator c then none
    else l.plain? fuel

/-- The tokens of a document that is read up to its end. -/
def finish? (l : Layout) : Option (List Token) := do
  let l ← l.dropCandidate?
  return (l.endWhile fun _ => true).tokens.reverse

/-- Reads to the end, taking at most `fuel` tokens. -/
def readAll? : (fuel : Nat) → Layout → Option (List Token)
  | 0, _ => none
  | fuel + 1, l => do
    let l ← l.approach? (fuel + 1)
    if l.place.rest.isEmpty then l.finish? else readAll? fuel (← l.token? (fuel + 1))

end Layout

/-- The tokens from a place to the end of its text. A key may begin there if the place begins a
line. -/
def tokens? (handles : TagHandles) (place : Place) : Option (List Token) :=
  Layout.readAll? (place.rest.length + 2) { place, handles, keyAllowed := place.column = 0 }

example : tokens? [] ⟨"a: [b]\n".toList, 0, 0, 0⟩ =
    some
      [.map, .key, .scalar true "a", .value, .openList, .scalar true "b", .closeList, .done] := by
  decide +kernel
example : tokens? [] ⟨"a\nb: c".toList, 0, 0, 0⟩ = none := by decide +kernel

end TelemetryWiring.Yaml
