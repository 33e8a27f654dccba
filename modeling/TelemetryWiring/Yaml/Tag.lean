import TelemetryWiring.Text.Quoted
import TelemetryWiring.Yaml.Place

/-!
Tags of nodes. A tag is written with a handle, which stands for the beginning of its name and can be
declared before a document. Names are octets: those that are escaped need not make up a text.
-/
namespace TelemetryWiring.Yaml

/-- The octet of a character that is ASCII, as all are that can stand in a tag unescaped. -/
def octetOf (c : Char) : UInt8 := c.toNat.toUInt8

/-- The octets of an ASCII text. -/
def octetsOf (text : String) : List UInt8 := text.toList.map octetOf

/-- What the handles of tags stand for; of several meanings of a handle the first counts. -/
abbrev TagHandles := List (List Char × List UInt8)

/-- The name of a standard tag. -/
def standardTag (name : String) : List UInt8 := octetsOf "tag:yaml.org,2002:" ++ octetsOf name

/-- The handles that need no declaration. -/
def standardHandles : TagHandles := [("!".toList, octetsOf "!"), ("!!".toList, standardTag "")]

/-- Whether a character can stand in a tag; between angle brackets more of them can. -/
def isTagChar (verbatim : Bool) (c : Char) : Bool :=
  isNameChar c || ";/?:@&=+$.%!~*'()".toList.contains c || (verbatim && [',', '[', ']'].contains c)

/-- An octet written as a percent sign and two hexadecimal digits. -/
def octet? : List Char → Option (UInt8 × List Char)
  | '%' :: rest => (Text.hexValue? 2 rest).map fun (n, rest) => (n.toUInt8, rest)
  | _ => none

/-- How many octets follow the first octet of a character. -/
def followers? (lead : UInt8) : Option Nat :=
  if lead < 0x80 then some 0
  else if lead / 0x20 = 6 then some 1
  else if lead / 0x10 = 14 then some 2
  else if lead / 0x08 = 30 then some 3
  else none

/-- Octets inside a character, and what follows them. -/
def innerOctets? : (count : Nat) → List Char → Option (List UInt8 × List Char)
  | 0, cs => some ([], cs)
  | count + 1, cs => do
    let (octet, rest) ← octet? cs
    if octet / 0x40 ≠ 2 then none
    let (octets, rest) ← innerOctets? count rest
    return (octet :: octets, rest)

/-- The octets of a run of tag characters, the escaped ones read. -/
def tagOctets? : (fuel : Nat) → List Char → Option (List UInt8)
  | _, [] => some []
  | 0, _ :: _ => none
  | fuel + 1, c :: rest =>
    if c = '%' then do
      let (lead, after) ← octet? (c :: rest)
      let (inner, after) ← innerOctets? (← followers? lead) after
      return lead :: inner ++ (← tagOctets? fuel after)
    else (tagOctets? fuel rest).map (octetOf c :: ·)

/-- The octets of the run of tag characters at a place, at least one, and the place after it. An
octet of zero ends what the run stands for. -/
def tagRun? (verbatim : Bool) (place : Place) : Option (List UInt8 × Place) := do
  let run := place.rest.takeWhile (isTagChar verbatim)
  if run.isEmpty then none
  return ((← tagOctets? run.length run).takeWhile (· ≠ 0), place.skip run.length)

/-- The handle at the front: a name between exclamation marks, or two of them. -/
def tagHandle? : List Char → Option (List Char)
  | '!' :: rest =>
    let name := rest.takeWhile isNameChar
    if rest[name.length]? = some '!' then some ('!' :: name ++ ['!']) else none
  | _ => none

/-- The tag that is an exclamation mark alone. -/
def markAlone : List UInt8 := octetsOf "!"

/-- The name that a handle and the rest of a tag stand for. -/
def resolveTag? (handles : TagHandles) (handle : List Char) (rest : List UInt8) :
    Option (List UInt8) :=
  (handles.find? (·.1 = handle)).map (·.2 ++ rest)

/-- The tag at a place that begins with an exclamation mark, and the place after it. The mark alone
is a tag too, which no handle changes. -/
def tag? (handles : TagHandles) (place : Place) : Option (List UInt8 × Place) :=
  if place.rest[1]? = some '<' then do
    let (name, after) ← tagRun? true (place.skip 2)
    if after.rest.head? = some '>' then some (name, after.next) else none
  else
    match tagHandle? place.rest with
    | some handle => do
      let (name, after) ← tagRun? false (place.skip handle.length)
      return (← resolveTag? handles handle name, after)
    | none => do
      match tagRun? false place.next with
      | some ([], after) => return (markAlone, after)
      | some (name, after) => return (← resolveTag? handles ['!'] name, after)
      | none =>
        if place.next.rest.head?.any (isTagChar false) then none
        else some (markAlone, place.next)

/-- The name that a tag gives to a value: a local tag without its mark, if it is a text. -/
def localName? (tag : List UInt8) : Option String := do
  if tag.head? ≠ some (octetOf '!') then none
  let name := if tag = markAlone then tag else tag.tail
  String.fromUTF8? ⟨name.toArray⟩

example : (tag? standardHandles ⟨"!!int 5".toList, 0, 0, 0⟩).map (·.1) =
    some (standardTag "int") := by decide +kernel
example : (tag? standardHandles ⟨"!a b".toList, 0, 0, 0⟩).map (·.1) = some (octetsOf "!a") := by
  decide +kernel

end TelemetryWiring.Yaml
