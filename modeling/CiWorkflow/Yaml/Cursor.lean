import CiWorkflow.Yaml.Problem
/-!
# Walking through a text

A `Cursor` is the unread rest of a text and the place where it begins. `Scan` is a computation that
moves a cursor forward and may meet a fault. The elementary moves, the classes of characters that
YAML distinguishes, and the reading of line breaks are here. A text is read in pieces, and only the
part before a piece with a forbidden character can be read.

Main definitions:

- `Cursor.ofText`: the beginning of a text;
- `Scan.reach`: the demand that the text can be read so far;
- `Scan.skip`, `Scan.skipBreak`: one character or one line break forward;
- `Scan.span`: all characters of a class forward;
- `Scan.readBreak`: a line break, in the form in which it becomes part of a scalar.
-/

namespace CiWorkflow.Yaml

/-! ## Characters -/

def isBreak (c : Char) : Bool :=
  c == '\n' || c == '\r' || c == '\u0085' || c == '\u2028' || c == '\u2029'

def isSpaceOrTab (c : Char) : Bool := c == ' ' || c == '\t'

/-- Whether there is a blank, the end of a line or the end of the text. -/
def isBlankOrEnd : Option Char → Bool
  | none => true
  | some c => isSpaceOrTab c || isBreak c

/-- Whether there is the end of a line or of the text. -/
def isBreakOrEnd : Option Char → Bool
  | none => true
  | some c => isBreak c

/-- Whether a character may stand in the name of an anchor, a handle or a directive. -/
def isNameChar (c : Char) : Bool := c.isAlphanum || c == '_' || c == '-'

def hexValue? (c : Char) : Option Nat :=
  if '0' ≤ c && c ≤ '9' then some (c.toNat - '0'.toNat)
  else if 'a' ≤ c && c ≤ 'f' then some (c.toNat - 'a'.toNat + 10)
  else if 'A' ≤ c && c ≤ 'F' then some (c.toNat - 'A'.toNat + 10)
  else none

/-- Whether a character may stand in a text at all. -/
def isAllowed (c : Char) : Bool :=
  let n := c.toNat
  n == 0x09 || n == 0x0A || n == 0x0D || (0x20 ≤ n && n ≤ 0x7E) || n == 0x85 ||
    (0xA0 ≤ n && n ≤ 0xD7FF) || (0xE000 ≤ n && n ≤ 0xFFFD) || 0x10000 ≤ n

/-! ## Cursors -/

/-- The unread rest of a text. -/
structure Cursor where
  /-- The characters to come. -/
  rest : List Char
  /-- The place of the first of them. -/
  mark : Mark
  /-- Why nothing can be read behind them, if the text goes on there: the offset in bytes of a
  character that may not stand in a text. -/
  barrier : Option Nat
deriving Inhabited

/-- How many bytes are read at a time. -/
def pieceSize : Nat := 16384

/-- The first character that may not stand in a text, by the number of characters before the piece
that it stands in and by its offset in bytes. A piece consists of whole characters. The parameters
are the number of characters before those given and their size in bytes, and for the last piece the
number of characters before it and its size so far. -/
def firstControl? (index offset start size : Nat) : List Char → Option (Nat × Nat)
  | [] => none
  | c :: rest =>
    -- a character that does not fit into a piece begins the next one
    let fits := size + c.utf8Size ≤ pieceSize
    let start := if fits then start else index
    let size := if fits then size + c.utf8Size else c.utf8Size
    if isAllowed c then firstControl? (index + 1) (offset + c.utf8Size) start size rest
    else some (start, offset)

namespace Cursor

/-- The beginning of a text. A piece in which a character stands that may not stand in a text cannot
be read at all, but the text before it can. -/
def ofText (text : String) : Cursor :=
  let chars := text.toList
  match firstControl? 0 0 0 0 chars with
  | none => ⟨chars, .start, none⟩
  | some (readable, offset) => ⟨chars.take readable, .start, some offset⟩

/-- The character so many places ahead. -/
def peek (c : Cursor) (ahead : Nat) : Option Char := c.rest[ahead]?

/-- So many characters forward in the same line. -/
def forward (c : Cursor) (count : Nat) (rest : List Char) : Cursor :=
  { c with
    rest := rest
    mark := { c.mark with index := c.mark.index + count, column := c.mark.column + count } }

/-- One character forward in the same line. -/
def skip (c : Cursor) : Cursor :=
  match c.rest with
  | [] => c
  | _ :: rest => c.forward 1 rest

/-- The beginning of the next line, behind a break of so many characters. -/
def nextLine (c : Cursor) (count : Nat) (rest : List Char) : Cursor :=
  { c with rest := rest, mark := ⟨c.mark.index + count, c.mark.line + 1, 0⟩ }

/-- One line break forward, if there is one; a carriage return and a line feed are one break. -/
def skipBreak (c : Cursor) : Cursor :=
  match c.rest with
  | '\r' :: '\n' :: rest => c.nextLine 2 rest
  | x :: rest => if isBreak x then c.nextLine 1 rest else c
  | [] => c

/-- The form in which the line break ahead becomes part of a scalar: the separators for lines and
paragraphs stay, all others are line feeds. -/
def breakChars (c : Cursor) : List Char :=
  match c.rest with
  | x :: _ =>
    if x == '\u2028' || x == '\u2029' then [x] else if isBreak x then ['\n'] else []
  | [] => []

/-- The characters of a class ahead, all in the same line, and what follows. -/
def span (p : Char → Bool) (c : Cursor) : List Char × Cursor :=
  let (taken, rest) := c.rest.span p
  (taken, c.forward taken.length rest)

/-- Whether a line begins here with one of the two document markers. -/
def atMarker (c : Cursor) : Bool :=
  c.mark.column == 0 &&
    match c.rest with
    | '-' :: '-' :: '-' :: rest | '.' :: '.' :: '.' :: rest => isBlankOrEnd rest.head?
    | _ => false

end Cursor

/-! ## Scanning -/

/-- A computation that moves a cursor and may meet a problem. -/
abbrev Scan := StateT Cursor (Except Problem)

namespace Scan

def mark : Scan Mark := do return (← get).mark

/-- Make sure that the text can be read so many characters further, as far as it goes. -/
def reach (count : Nat) : Scan Unit := do
  let c ← get
  match c.barrier with
  | some offset => if (c.rest.drop (count - 1)).isEmpty then throw (.control offset)
  | none => pure ()

/-- The character so many places ahead. -/
def peek (ahead : Nat) : Scan (Option Char) := do
  reach (ahead + 1)
  return (← get).peek ahead

def isNext (c : Char) : Scan Bool := do return (← peek 0) == some c

/-- One character forward. -/
def skip : Scan Unit := modify Cursor.skip

/-- So many characters forward. -/
def skipMany (count : Nat) : Scan Unit := count.forM fun _ _ => skip

/-- One line break forward, if there is one. -/
def skipBreak : Scan Unit := modify Cursor.skipBreak

/-- One line break forward, and the characters it leaves in a scalar. -/
def readBreak : Scan (List Char) := do
  let c ← get
  set c.skipBreak
  return c.breakChars

/-- All characters of a class forward. -/
def span (p : Char → Bool) : Scan (List Char) := do
  let (taken, c) := (← get).span p
  set c
  reach 1
  return taken

/-- The number of characters to come. -/
def remaining : Scan Nat := do return (← get).rest.length

/-- Fail with a fault that showed here, during an activity that began at the given place. -/
def fail {α : Type} (fault : Fault) (activity : Activity) (since : Mark) : Scan α := do
  throw (.malformed fault (← mark) (some (activity, since)))

/-- Skip the blanks and the comment at the end of a line, and its break. -/
def finishLine (activity : Activity) (since : Mark) : Scan Unit := do
  let _ ← span isSpaceOrTab
  if ← isNext '#' then
    let _ ← span fun c => !isBreak c
  if isBreakOrEnd (← peek 0) then skipBreak
  else fail .trailingText activity since

end Scan

end CiWorkflow.Yaml
