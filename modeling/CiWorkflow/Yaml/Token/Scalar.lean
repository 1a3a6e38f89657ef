import CiWorkflow.Yaml.Cursor
import CiWorkflow.Yaml.Token
/-!
# Scalars

How the four kinds of scalars are read: plain ones, those between quotes, and the two kinds of
blocks. Line breaks within plain and quoted scalars are folded: one becomes a space, and of several
the first one is dropped.
-/

namespace CiWorkflow.Yaml.Scalar

open Scan

/-! ## Folding -/

/-- Blanks met within a scalar, of which is not known yet whether they belong to it. -/
structure Gap where
  /-- Blanks in the line. -/
  blanks : List Char := []
  /-- The first line break, once there is one. -/
  firstBreak : List Char := []
  /-- All further line breaks. -/
  furtherBreaks : List Char := []
  /-- Whether a line has ended. -/
  broken : Bool := false

/-- What a gap leaves in the scalar when text follows it. -/
def Gap.joined (g : Gap) : List Char :=
  if g.broken then
    if g.firstBreak == ['\n'] then
      if g.furtherBreaks.isEmpty then [' '] else g.furtherBreaks
    else g.firstBreak ++ g.furtherBreaks
  else g.blanks

/-- Read the blanks and line breaks of a gap. In a plain scalar no tab may stand left of the given
column in a new line. -/
def readGap (fuel : Nat) (plain : Option (Nat × Mark)) (g : Gap) : Scan Gap := do
  match fuel with
  | 0 => return g
  | fuel + 1 =>
    match ← peek 0 with
    | none => return g
    | some c =>
      if isSpaceOrTab c then
        match plain with
        | some (indent, since) =>
          if g.broken && (← mark).column < indent && c == '\t' then
            fail .tabInPlain .plainScalar since
        | none => pure ()
        skip
        readGap fuel plain (if g.broken then g else { g with blanks := g.blanks ++ [c] })
      else if isBreak c then
        let chars ← readBreak
        if g.broken then
          readGap fuel plain { g with furtherBreaks := g.furtherBreaks ++ chars }
        else readGap fuel plain { g with blanks := [], firstBreak := chars, broken := true }
      else return g

/-! ## Plain scalars -/

/-- Whether a plain scalar ends before these characters. -/
def endsPlain (inFlow : Bool) (c : Char) (next : Option Char) : Bool :=
  (c == ':' && isBlankOrEnd next) ||
    (inFlow && (c == ',' || c == '[' || c == ']' || c == '{' || c == '}'))

/-- Whether a colon in a flow collection stands where it can neither end nor continue a scalar. -/
def isStrayColon (c : Char) (next : Option Char) : Bool :=
  c == ':' &&
    match next with
    | some n => n == ',' || n == '?' || n == '[' || n == ']' || n == '{' || n == '}'
    | none => false

/-- Read one word of a plain scalar, which comes back last character first. -/
def plainWord (fuel : Nat) (inFlow : Bool) (since : Mark) (word : List Char) :
    Scan (List Char) := do
  match fuel with
  | 0 => return word
  | fuel + 1 =>
    match ← peek 0 with
    | none => return word
    | some c =>
      let next ← peek 1
      if isBlankOrEnd (some c) then return word
      else if inFlow && isStrayColon c next then fail .strayColon .plainScalar since
      else if endsPlain inFlow c next then return word
      else
        skip
        plainWord fuel inFlow since (c :: word)

/-- Read words and the gaps between them, after a text that comes with its last character first, as
the result does. Also tells where the last word ended, and whether a line ended behind it. -/
def plainWords (fuel : Nat) (inFlow : Bool) (indent : Nat) (since : Mark) (text : List Char)
    (gap : Gap) (stop : Mark) : Scan (List Char × Mark × Bool) := do
  match fuel with
  | 0 => return (text, stop, gap.broken)
  | fuel + 1 =>
    reach 4
    if (← get).atMarker || (← isNext '#') then return (text, stop, gap.broken)
    let word ← plainWord fuel inFlow since []
    -- a gap counts only once a word follows it
    let text := if word.isEmpty then text else word ++ gap.joined.reverse ++ text
    let stop ← if word.isEmpty then pure stop else mark
    let gap : Gap := if word.isEmpty then gap else {}
    let goesOn := match ← peek 0 with
      | some c => isSpaceOrTab c || isBreak c
      | none => false
    if !goesOn then return (text, stop, gap.broken)
    let gap ← readGap fuel (some (indent, since)) gap
    -- the next line is not indented enough to belong to the scalar
    if !inFlow && (← mark).column < indent then return (text, stop, gap.broken)
    plainWords fuel inFlow indent since text gap stop

/-- Read a plain scalar, whose lines have to be indented to the given column outside of flow
collections. Also tells whether a line ended behind it. -/
def plain (inFlow : Bool) (indent : Nat) : Scan (PlacedToken × Bool) := do
  let since ← mark
  let (text, stop, broken) ← plainWords ((← remaining) + 1) inFlow indent since [] {} since
  return (⟨.scalar (String.ofList text.reverse) .plain, since, stop⟩, broken)

/-! ## Quoted scalars -/

/-- What an escape stands for: a character, or a code point with so many digits. -/
inductive Escape where
  /-- A character of its own. -/
  | char (c : Char)
  /-- So many hexadecimal digits follow. -/
  | code (digits : Nat)

/-- The meaning of the character after a backslash. -/
def escape? : Char → Option Escape
  | '0' => some (.char '\x00')
  | 'a' => some (.char '\x07')
  | 'b' => some (.char '\x08')
  | 't' | '\t' => some (.char '\t')
  | 'n' => some (.char '\n')
  | 'v' => some (.char '\x0b')
  | 'f' => some (.char '\x0c')
  | 'r' => some (.char '\r')
  | 'e' => some (.char '\x1b')
  | ' ' => some (.char ' ')
  | '"' => some (.char '"')
  | '/' => some (.char '/')
  | '\\' => some (.char '\\')
  | 'N' => some (.char '\u0085')
  | '_' => some (.char '\u00a0')
  | 'L' => some (.char '\u2028')
  | 'P' => some (.char '\u2029')
  | 'x' => some (.code 2)
  | 'u' => some (.code 4)
  | 'U' => some (.code 8)
  | _ => none

/-- The number that so many hexadecimal digits ahead denote. -/
def hexAhead? (digits : List Char) : Option Nat :=
  digits.foldl (fun n c => n.bind fun n => (hexValue? c).map (16 * n + ·)) (some 0)

/-- Read an escape, with the cursor at its backslash. -/
def escape (since : Mark) : Scan Char := do
  match (← peek 1).bind escape? with
  | none => fail .unknownEscape .quotedEscape since
  | some (.char c) =>
    skipMany 2
    return c
  | some (.code count) =>
    skipMany 2
    reach count
    let digits := (← get).rest.take count
    match if digits.length = count then hexAhead? digits else none with
    | none => fail .badHexDigit .quotedEscape since
    | some n =>
      if h : n.isValidChar then
        skipMany count
        return Char.ofNatAux n h
      else fail .badCodePoint .quotedEscape since

/-- Read one word of a quoted scalar, which comes back last character first. Also tells whether it
ended with an escaped line break. -/
def quotedWord (fuel : Nat) (quote : Char) (since : Mark) (word : List Char) :
    Scan (List Char × Bool) := do
  match fuel with
  | 0 => return (word, false)
  | fuel + 1 =>
    match ← peek 0 with
    | none => return (word, false)
    | some c =>
      let next ← peek 1
      if isBlankOrEnd (some c) then return (word, false)
      else if quote == '\'' && c == '\'' && next == some '\'' then
        skipMany 2
        quotedWord fuel quote since ('\'' :: word)
      else if c == quote then return (word, false)
      else if quote == '"' && c == '\\' then
        if next.any isBreak then
          skip
          skipBreak
          return (word, true)
        else
          let c ← escape since
          quotedWord fuel quote since (c :: word)
      else
        skip
        quotedWord fuel quote since (c :: word)

/-- Read words and the gaps between them up to the closing quote, after a text that comes with its
last character first, as the result does. -/
def quotedWords (fuel : Nat) (quote : Char) (since : Mark) (text : List Char) :
    Scan (List Char) := do
  match fuel with
  | 0 => return text
  | fuel + 1 =>
    reach 4
    if (← get).atMarker then fail .markerInQuotes .quotedScalar since
    if (← peek 0).isNone then fail .unclosedQuotes .quotedScalar since
    let (word, escapedBreak) ← quotedWord fuel quote since []
    let text := word ++ text
    if ← isNext quote then return text
    let gap ← readGap fuel none { broken := escapedBreak }
    quotedWords fuel quote since (gap.joined.reverse ++ text)

/-- Read a quoted scalar, with the cursor at its opening quote. -/
def quoted (quote : Char) : Scan PlacedToken := do
  let since ← mark
  skip
  let text ← quotedWords ((← remaining) + 1) quote since []
  skip
  let style := if quote == '"' then ScalarStyle.doubleQuoted else ScalarStyle.singleQuoted
  return ⟨.scalar (String.ofList text.reverse) style, since, ← mark⟩

/-! ## Block scalars -/

/-- What becomes of the line breaks at the end of a block. -/
inductive Chomping where
  /-- All of them are dropped. -/
  | strip
  /-- One of them is kept. -/
  | clip
  /-- All of them are kept. -/
  | keep
deriving DecidableEq

/-- Read the sign for the line breaks at the end. -/
def chomping? : Scan (Option Chomping) := do
  match ← peek 0 with
  | some '+' => skip; return some .keep
  | some '-' => skip; return some .strip
  | _ => return none

/-- Read the number of columns by which a block is indented. -/
def indentation? (since : Mark) : Scan (Option Nat) := do
  match ← peek 0 with
  | some c =>
    if c.isDigit then
      if c == '0' then fail .zeroIndentation .blockScalar since
      skip
      return some (c.toNat - '0'.toNat)
    else return none
  | none => return none

/-- Read empty lines and the indentation of the line after them. While the indentation is not known
it is the widest one met. -/
def blockBreaks (fuel : Nat) (indent : Option Nat) (widest : Nat) (breaks : List Char)
    (since stop : Mark) : Scan (List Char × Nat × Mark) := do
  match fuel with
  | 0 => return (breaks, widest, stop)
  | fuel + 1 =>
    let column := (← mark).column
    let room := indent.map (· - column)
    let blanks := (← get).rest.takeWhile (· == ' ')
    skipMany (match room with
      | some n => min n blanks.length
      | none => blanks.length)
    let column := (← mark).column
    let widest := max widest column
    if (indent.all (column < ·)) && (← isNext '\t') then
      fail .tabInBlock .blockScalar since
    if (← peek 0).any isBreak then
      let chars ← readBreak
      blockBreaks fuel indent widest (breaks ++ chars) since (← mark)
    else return (breaks, widest, stop)

/-- Read the lines of a block that are indented to the given column, after a text that comes with
its last character first, as the result does. `pending` is the break after the line before, and
`empty` are those of the empty lines after it. -/
def blockLines (fuel : Nat) (folded : Bool) (indent : Nat) (since : Mark)
    (text pending empty : List Char) (afterBlank : Bool) (stop : Mark) :
    Scan (List Char × List Char × List Char × Mark) := do
  match fuel with
  | 0 => return (text, pending, empty, stop)
  | fuel + 1 =>
    match ← peek 0 with
    | none => return (text, pending, empty, stop)
    | some c =>
      if (← mark).column != indent then return (text, pending, empty, stop)
      let blank := isSpaceOrTab c
      -- only two lines of text are folded; lines that begin with a blank keep their breaks
      let joint :=
        if folded && pending == ['\n'] && !afterBlank && !blank then
          if empty.isEmpty then [' '] else []
        else pending
      let line ← span fun c => !isBreak c
      let text := line.reverse ++ empty.reverse ++ joint.reverse ++ text
      let pending ← readBreak
      let (empty, _, stop) ← blockBreaks fuel (some indent) 0 [] since (← mark)
      blockLines fuel folded indent since text pending empty blank stop

/-- Read a block scalar, with the cursor at its mark. `parent` is the column of the collection that
holds it, or -1. -/
def block (folded : Bool) (parent : Int) : Scan PlacedToken := do
  let since ← mark
  skip
  let (chomping, width) ← do
    match ← chomping? with
    | some c => pure (c, ← indentation? since)
    | none =>
      match ← indentation? since with
      | some n => pure ((← chomping?).getD .clip, some n)
      | none => pure (.clip, none)
  finishLine .blockScalar since
  let known := width.map fun n => parent.toNat + n
  let (empty, widest, stop) ← blockBreaks ((← remaining) + 1) known 0 [] since (← mark)
  -- without a width the widest line before the text decides
  let indent := known.getD (max (max widest (parent + 1).toNat) 1)
  let (text, pending, empty, stop) ←
    blockLines ((← remaining) + 1) folded indent since [] [] empty false stop
  let tail := match chomping with
    | .strip => []
    | .clip => pending
    | .keep => pending ++ empty
  let style := if folded then ScalarStyle.folded else ScalarStyle.literal
  return ⟨.scalar (String.ofList (text.reverse ++ tail)) style, since, stop⟩

end CiWorkflow.Yaml.Scalar
