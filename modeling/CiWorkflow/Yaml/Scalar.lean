import CiWorkflow.Yaml.Resolve
/-!
# Texts of scalars

How a text is written as a scalar. It is written plain if it means itself then, as a block if it has
lines, and between quotes otherwise; what cannot be seen needs double quotes and escapes.

Main definitions:

- `Scalar.form`: the way in which a text is written;
- `Scalar.written`: the scalar itself, which needs to know how far its lines are indented.
-/

namespace CiWorkflow.Yaml.Scalar

/-! ## What a text allows -/

/-- Whether a character is written as it is. -/
def isPrintable (c : Char) : Bool :=
  let n := c.toNat
  c == '\n' || (0x20 ≤ n && n ≤ 0x7E) ||
    (0xA0 ≤ n && n != 0xFEFF && n != 0xFFFE && n != 0xFFFF)

/-- Whether some character stands directly behind another, by their classes. -/
def anyPair (p q : Char → Bool) (cs : List Char) : Bool :=
  (cs.zip (cs.drop 1)).any fun (a, b) => p a && q b

def isSpace (c : Char) : Bool := c == ' '

/-- Whether a text has characters that need an escape, or a space at the end of a line. -/
def needsEscapes (cs : List Char) : Bool := !cs.all isPrintable || anyPair isSpace isBreak cs

/-- Whether there is a blank before the end of a text or at its end. -/
def isBlankOrEnd? (next : Option Char) : Bool := isBlankOrEnd next || next == some '\x00'

/-- Whether a text cannot begin a plain scalar. -/
def hasMarkAtStart (cs : List Char) : Bool :=
  match cs with
  | [] => false
  | c :: rest =>
    "#,[]\x7b\x7d&*!|>'\"%@`".toList.contains c ||
      ((c == '?' || c == ':' || c == '-') && isBlankOrEnd? rest.head?) ||
      cs.take 3 == ['-', '-', '-'] || cs.take 3 == ['.', '.', '.']

/-- Whether a colon before a blank or a number sign behind one stands in the text. -/
def hasMarkWithin (cs : List Char) : Bool :=
  match cs with
  | [] => false
  | _ :: rest =>
    anyPair (fun c => isBlankOrEnd? (some c)) (· == '#') cs ||
      anyPair (· == ':') (fun c => isBlankOrEnd? (some c)) rest || rest.getLast? == some ':'

def isMultiline (cs : List Char) : Bool := cs.any isBreak

def allowsPlain (cs : List Char) : Bool :=
  !cs.isEmpty && !isMultiline cs && !needsEscapes cs && !hasMarkAtStart cs && !hasMarkWithin cs &&
    !cs.head?.any isSpace && !cs.getLast?.any isSpace

def allowsSingleQuotes (cs : List Char) : Bool := !needsEscapes cs && !anyPair isBreak isSpace cs

def allowsBlock (cs : List Char) : Bool :=
  !cs.isEmpty && !needsEscapes cs && !cs.getLast?.any isSpace

/-! ## Forms -/

/-- A way to write a text. -/
inductive Form where
  /-- As it is. -/
  | plain
  | singleQuoted
  | doubleQuoted
  /-- As a block. -/
  | literal
deriving DecidableEq

/-- Between single quotes if they will do. -/
def quotedForm (cs : List Char) : Form :=
  if allowsSingleQuotes cs then .singleQuoted else .doubleQuoted

/-- The way in which a text is written. -/
def form (text : String) : Form :=
  let cs := text.toList
  if cs.contains '\n' then if allowsBlock cs then .literal else .doubleQuoted
  -- a text that would read back as something else, or that looks like an octal number
  else if Meaning.ofPlain text != .text text || hasLeadingZero cs then quotedForm cs
  else if allowsPlain cs then .plain
  else quotedForm cs

/-! ## Writing -/

/-- So many spaces. -/
def spaces (n : Nat) : List Char := List.replicate n ' '

def endsLine (cs : List Char) : Bool := cs.getLast?.any isBreak

/-- The marks behind the sign of a block: its indentation where the first line would not show it,
and what becomes of the line breaks at the end. -/
def blockMarks (cs : List Char) : List Char :=
  (if cs.head?.any (fun c => isSpace c || isBreak c) then ['2'] else []) ++
    match cs.reverse with
    | last :: before :: _ =>
      if !isBreak last then ['-'] else if isBreak before then ['+'] else []
    | [last] => if isBreak last then ['+'] else ['-']
    | [] => ['-']

/-- The lines of a block, each one indented. -/
def indentedLines (indent : Nat) (lineStart : Bool) : List Char → List Char
  | [] => []
  | c :: rest =>
    if isBreak c then c :: indentedLines indent true rest
    else (if lineStart then spaces indent else []) ++ c :: indentedLines indent false rest

/-- A text between single quotes, in which a quote is written twice and every line is indented. -/
def singleQuotedFrom (indent : Nat) (lineStart : Bool) : List Char → List Char
  | [] => (if lineStart then spaces indent else []) ++ ['\'']
  | c :: rest =>
    if isBreak c then c :: singleQuotedFrom indent true rest
    else if isSpace c then c :: singleQuotedFrom indent lineStart rest
    else
      (if lineStart then spaces indent else []) ++
        (if c == '\'' then ['\'', '\''] else [c]) ++ singleQuotedFrom indent false rest

/-- A number in so many upper-case hexadecimal digits. -/
def hexDigits (width n : Nat) : List Char :=
  let digits := (Nat.toDigits 16 n).map Char.toUpper
  List.replicate (width - digits.length) '0' ++ digits

/-- The escape of a character. -/
def escaped (c : Char) : List Char :=
  '\\' ::
    match c with
    | '\x00' => ['0']
    | '\x07' => ['a']
    | '\x08' => ['b']
    | '\t' => ['t']
    | '\n' => ['n']
    | '\x0b' => ['v']
    | '\x0c' => ['f']
    | '\r' => ['r']
    | '\x1b' => ['e']
    | '"' => ['"']
    | '\\' => ['\\']
    | '\u0085' => ['N']
    | '\u2028' => ['L']
    | '\u2029' => ['P']
    | c =>
      if c.toNat ≤ 0xFF then 'x' :: hexDigits 2 c.toNat
      else if c.toNat ≤ 0xFFFF then 'u' :: hexDigits 4 c.toNat
      else 'U' :: hexDigits 8 c.toNat

/-- A character between double quotes. -/
def doubleQuotedChar (c : Char) : List Char :=
  if !isPrintable c || isBreak c || c == '"' || c == '\\' then escaped c else [c]

/-- A text as a scalar whose lines are indented to a column, and whether its last line has ended. -/
def written (indent : Nat) (text : String) : String × Bool :=
  let cs := text.toList
  match form text with
  | .plain => (text, false)
  | .singleQuoted => (String.ofList ('\'' :: singleQuotedFrom indent false cs), false)
  | .doubleQuoted => (String.ofList ('"' :: cs.flatMap doubleQuotedChar ++ ['"']), false)
  | .literal =>
    (String.ofList ('|' :: blockMarks cs ++ '\n' :: indentedLines indent true cs), endsLine cs)

end CiWorkflow.Yaml.Scalar
