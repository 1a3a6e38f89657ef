import CiWorkflow.Yaml.Cursor
import CiWorkflow.Yaml.Token
/-!
# Anchors, tags and directives

How the names beside the data are read: anchors and aliases, tags with their escaped octets, and the
directives before a document.
-/

namespace CiWorkflow.Yaml.Property

open Scan

/-! ## Anchors and aliases -/

/-- Whether a name may end before this character. -/
def endsName (c : Option Char) : Bool :=
  isBlankOrEnd c ||
    c.any fun c =>
      c == '?' || c == ':' || c == ',' || c == ']' || c == '}' || c == '%' || c == '@' ||
        c == '\x60'

/-- Read an anchor or an alias, with the cursor at its mark. -/
def anchor (refers : Bool) : Scan PlacedToken := do
  let since ← mark
  skip
  let name ← span isNameChar
  if name.isEmpty || !endsName (← peek 0) then
    fail .badAnchorName (if refers then .reference else .anchor) since
  let name := String.ofList name
  return ⟨if refers then .reference name else .anchor name, since, ← mark⟩

/-! ## Escaped octets -/

/-- The number of octets of a character that begins with the given one. -/
def octetCount? (first : Nat) : Option Nat :=
  if first < 0x80 then some 1
  else if 0xC0 ≤ first && first < 0xE0 then some 2
  else if 0xE0 ≤ first && first < 0xF0 then some 3
  else if 0xF0 ≤ first && first < 0xF8 then some 4
  else none

/-- The smallest code point that needs so many octets. -/
def leastCode : Nat → Nat
  | 2 => 0x80
  | 3 => 0x800
  | 4 => 0x10000
  | _ => 0

/-- The character that octets make up, unless they are too many for it or none at all. -/
def decodeOctets? (octets : List Nat) : Option Char :=
  match octets with
  | [] => none
  | first :: rest =>
    let top :=
      match rest.length with
      | 0 => first
      | 1 => first % 0x20
      | 2 => first % 0x10
      | _ => first % 0x08
    let code := rest.foldl (fun n o => 0x40 * n + o % 0x40) top
    if h : code.isValidChar then
      if leastCode octets.length ≤ code then some (Char.ofNatAux code h) else none
    else none

/-- Read one octet, written as a percent sign and two hexadecimal digits. -/
def octet (activity : Activity) (since : Mark) : Scan Nat := do
  match ← peek 0, (← peek 1).bind hexValue?, (← peek 2).bind hexValue? with
  | some '%', some high, some low => return 16 * high + low
  | _, _, _ => fail .badOctet activity since

/-- Read the further octets of a character. -/
def furtherOctets (activity : Activity) (since : Mark) : Nat → Scan (List Nat)
  | 0 => return []
  | count + 1 => do
    let o ← octet activity since
    if o / 0x40 != 2 then fail .badNextOctet activity since
    skipMany 3
    return o :: (← furtherOctets activity since count)

/-- Read all octets of a character. -/
def escapedChar (activity : Activity) (since : Mark) : Scan (Option Char) := do
  let first ← octet activity since
  match octetCount? first with
  | none => fail .badFirstOctet activity since
  | some count =>
    skipMany 3
    return decodeOctets? (first :: (← furtherOctets activity since (count - 1)))

/-! ## Tags -/

/-- Whether a character may stand in the name of a tag; a few more may in a verbatim one. -/
def isTagChar (verbatim : Bool) (c : Char) : Bool :=
  isNameChar c || ";/?:@&=+$.%!~*'()".toList.contains c || (verbatim && ",[]".toList.contains c)

/-- Read the characters of a tag name, which come back last one first. -/
def tagChars (fuel : Nat) (verbatim : Bool) (activity : Activity) (since : Mark) (chars : List Char)
    (wellFormed : Bool) : Scan (List Char × Bool) := do
  match fuel with
  | 0 => return (chars, wellFormed)
  | fuel + 1 =>
    match ← peek 0 with
    | none => return (chars, wellFormed)
    | some c =>
      if c == '%' then
        match ← escapedChar activity since with
        | some d => tagChars fuel verbatim activity since (d :: chars) wellFormed
        | none => tagChars fuel verbatim activity since ('\ufffd' :: chars) false
      else if isTagChar verbatim c then
        skip
        tagChars fuel verbatim activity since (c :: chars) wellFormed
      else return (chars, wellFormed)

/-- Read the name of a tag, of which the given characters have been read already. The name ends
before an escaped NUL. -/
def tagName (verbatim : Bool) (activity : Activity) (since : Mark) (head : List Char) :
    Scan TagText := do
  let (chars, wellFormed) ← tagChars ((← remaining) + 1) verbatim activity since [] true
  if head.isEmpty && chars.isEmpty then fail .missingTagName activity since
  return ⟨String.ofList ((head.drop 1 ++ chars.reverse).takeWhile (· != '\x00')), wellFormed⟩

/-- Read a tag handle. In a tag it may turn out to be the beginning of a name. -/
def tagHandle (inDirective : Bool) (since : Mark) : Scan (List Char) := do
  if !(← isNext '!') then
    fail .missingBang (if inDirective then .tagDirectiveHandle else .tag) since
  skip
  let name ← span isNameChar
  if ← isNext '!' then
    skip
    return '!' :: name ++ ['!']
  else if inDirective && !name.isEmpty then fail .missingBang .tagDirectiveHandleEnd since
  else return '!' :: name

/-- Read handle and name of a tag, with the cursor at its exclamation mark. -/
def tagParts (since : Mark) : Scan (String × TagText) := do
  if (← peek 1) == some '<' then
    skipMany 2
    let name ← tagName true .tagName since []
    if !(← isNext '>') then fail .unclosedTag .tag since
    skip
    return ("", name)
  else
    let handle ← tagHandle false since
    if 2 ≤ handle.length && handle.getLast? == some '!' then
      return (String.ofList handle, ← tagName false .tagName since [])
    else
      let name ← tagName false .tagName since handle
      return if name.text.isEmpty then ("", ⟨"!", name.wellFormed⟩) else ("!", name)

def tag (inFlow : Bool) : Scan PlacedToken := do
  let since ← mark
  let (handle, name) ← tagParts since
  let next ← peek 0
  if !(isBlankOrEnd next || (inFlow && next == some ',')) then fail .tagNotEnded .tag since
  return ⟨.tag handle name, since, ← mark⟩

/-! ## Directives -/

def versionNumber (since : Mark) : Scan Nat := do
  let digits := (← get).rest.takeWhile Char.isDigit
  skipMany (min digits.length 9)
  reach 1
  if 9 < digits.length then fail .longVersion .versionDirective since
  if digits.isEmpty then fail .missingVersion .versionDirective since
  return Decimal.digitsValue digits

/-- Read the version behind the name of its directive. -/
def version (since : Mark) : Scan Token := do
  let _ ← span isSpaceOrTab
  let major ← versionNumber since
  if !(← isNext '.') then fail .missingVersionPoint .versionDirective since
  skip
  return .versionDirective major (← versionNumber since)

/-- Read handle and expansion behind the name of a tag directive. -/
def tagDeclaration (since : Mark) : Scan Token := do
  let _ ← span isSpaceOrTab
  let handle ← tagHandle true since
  if !(← peek 0).any isSpaceOrTab then fail .missingBlank .tagDirective since
  let _ ← span isSpaceOrTab
  let expansion ← tagName true .tagDirectiveName since []
  if !isBlankOrEnd (← peek 0) then fail .tagDirectiveNotEnded .tagDirective since
  return .tagDirective (String.ofList handle) expansion

/-- Read a directive, with the cursor at its percent sign. -/
def directive : Scan PlacedToken := do
  let since ← mark
  skip
  let name ← span isNameChar
  if name.isEmpty then fail .missingDirectiveName .directive since
  if !isBlankOrEnd (← peek 0) then fail .badDirectiveName .directive since
  let token ←
    if name == "YAML".toList then version since
    else if name == "TAG".toList then tagDeclaration since
    else fail .unknownDirective .directive since
  let stop ← mark
  finishLine .directive since
  return ⟨token, since, stop⟩

end CiWorkflow.Yaml.Property
