import CiWorkflow.Yaml.Token.Property
import CiWorkflow.Yaml.Token.Scalar
/-!
# Tokens of a text

A text is cut into tokens from left to right. That a scalar, a flow collection, an alias or a node
with properties was a key shows only when its colon comes, so the tokens behind a possible key wait
in a queue until the question is settled; a possible key is settled at the end of its line or a
thousand characters later. Indentation opens and closes block collections.

Main definitions:

- `Lexer.fetch`: reads one token more and puts it into the queue;
- `Token.ofText`: the tokens that leave the queue, and the problem that ends them, if any.
-/

namespace CiWorkflow.Yaml

/-- A place at which a key may have begun. -/
structure PossibleKey where
  /-- The number of its first token. -/
  tokenNumber : Nat
  /-- The place. -/
  mark : Mark
  /-- Whether the indentation demands that it is a key. -/
  required : Bool

/-- Whether a key that began there can no longer be one here: it has to end in its line, and within
1024 characters. -/
def PossibleKey.isOverdue (k : PossibleKey) (now : Mark) : Bool :=
  k.mark.line < now.line || k.mark.index + 1024 < now.index

/-- How far a text has been cut into tokens. -/
structure Lexer where
  /-- The tokens that have not left yet. -/
  queue : List PlacedToken
  /-- How many tokens have left. -/
  released : Nat
  /-- The column of the innermost block collection, or -1. -/
  indent : Int
  /-- The columns of those around it, innermost first. -/
  outer : List Int
  /-- The possible key of the innermost flow collection, or of the block collections. -/
  key : Option PossibleKey
  /-- The possible keys around it, one for every open flow collection, innermost first. -/
  outerKeys : List (Option PossibleKey)
  /-- Whether a key may begin here. -/
  keyAllowed : Bool
  /-- Whether the end of the text has been reached. -/
  ended : Bool

/-- A computation that cuts a text into tokens. -/
abbrev Lex := StateT Lexer Scan

namespace Lexer

def start : Lexer :=
  { queue := [⟨.streamStart, .start, .start⟩]
    released := 0
    indent := -1
    outer := []
    key := none
    outerKeys := []
    keyAllowed := true
    ended := false }

/-- Whether a flow collection is open. -/
def inFlow (l : Lexer) : Bool := !l.outerKeys.isEmpty

/-- Put a token at the end of the queue. -/
def push (token : PlacedToken) : Lex Unit := modify fun l => { l with queue := l.queue ++ [token] }

/-- Put tokens before the one of the given number. -/
def pushBefore (number : Nat) (tokens : List PlacedToken) : Lex Unit :=
  modify fun l =>
    let n := number - l.released
    { l with queue := l.queue.take n ++ tokens ++ l.queue.drop n }

/-- Say whether a key may begin behind what was just read. -/
def allowKey (allowed : Bool) : Lex Unit := modify fun l => { l with keyAllowed := allowed }

/-- Fail with a fault that showed here. -/
def failHere {α : Type} (fault : Fault) : Lex α := do
  throw (.malformed fault (← Scan.mark) none)

/-! ## Possible keys -/

/-- The possible keys, innermost first. -/
def possibleKeys (l : Lexer) : List PossibleKey := (l.key :: l.outerKeys).filterMap id

/-- Give up the possible keys that are overdue. -/
def settleKeys : Lex Unit := do
  let now ← Scan.mark
  let l ← get
  if (l.key :: l.outerKeys).any fun key => key.any (·.isOverdue now) then
    -- a key that the indentation demands must not be given up, and of two the outer one is told
    match (l.possibleKeys.filter fun k => k.required && k.isOverdue now).getLast? with
    | some k => throw (.malformed .missingColon now (some (.simpleKey, k.mark)))
    | none =>
      let settle := Option.filter fun (k : PossibleKey) => !k.isOverdue now
      set { l with key := settle l.key, outerKeys := l.outerKeys.map settle }

/-- Give up the innermost possible key. -/
def dropKey : Lex Unit := do
  match (← get).key with
  | some k =>
    if k.required then Scan.fail .missingColon .simpleKey k.mark
    modify fun l => { l with key := none }
  | none => pure ()

/-- Remember that a key may begin here. -/
def saveKey : Lex Unit := do
  let l ← get
  if l.keyAllowed then
    let mark ← Scan.mark
    dropKey
    let required := !l.inFlow && l.indent == mark.column
    modify fun l => { l with key := some ⟨l.released + l.queue.length, mark, required⟩ }

/-! ## Indentation -/

/-- Close the block collections that are indented further than a column. -/
def closeFrom (column : Int) (mark : Mark) (indent : Int) : List Int → Lex Int
  | [] => return indent
  | around :: outer => do
    if column < indent then
      push ⟨.blockEnd, mark, mark⟩
      modify fun l => { l with outer := outer }
      closeFrom column mark around outer
    else return indent

/-- Close the block collections that are indented further than a column. -/
def closeBlocks (column : Int) : Lex Unit := do
  let l ← get
  if !l.inFlow then
    let indent ← closeFrom column (← Scan.mark) l.indent l.outer
    modify fun l => { l with indent := indent }

/-- Open a block collection at the column of a place, unless one is open there already. Tells the
token that opens it. -/
def openBlock (mark : Mark) (token : Token) : Lex (List PlacedToken) := do
  let l ← get
  if !l.inFlow && l.indent < mark.column then
    set { l with indent := (mark.column : Int), outer := l.indent :: l.outer }
    return [⟨token, mark, mark⟩]
  else return []

/-- Open a block collection here. -/
def openBlockHere (token : Token) : Lex Unit := do
  for t in ← openBlock (← Scan.mark) token do push t

/-! ## Tokens -/

/-- Read a token of so many characters. -/
def fixed (token : Token) (length : Nat) : Lex Unit := do
  let start ← Scan.mark
  Scan.skipMany length
  push ⟨token, start, ← Scan.mark⟩

def fetchEnd : Lex Unit := do
  let m ← Scan.mark
  -- the last line ends even without a line break
  if m.column != 0 then
    modifyThe Cursor fun c => { c with mark := ⟨m.index, m.line + 1, 0⟩ }
  closeBlocks (-1)
  dropKey
  allowKey false
  let m ← Scan.mark
  push ⟨.streamEnd, m, m⟩
  modify fun l => { l with ended := true }

def fetchDirective : Lex Unit := do
  closeBlocks (-1)
  dropKey
  allowKey false
  push (← Property.directive)

def fetchMarker : Lex Unit := do
  closeBlocks (-1)
  dropKey
  allowKey false
  fixed (if ← Scan.isNext '-' then .documentStart else .documentEnd) 3

def fetchFlowStart (token : Token) : Lex Unit := do
  saveKey
  modify fun l => { l with key := none, outerKeys := l.key :: l.outerKeys }
  allowKey true
  fixed token 1

def fetchFlowEnd (token : Token) : Lex Unit := do
  dropKey
  modify fun l =>
    match l.outerKeys with
    | key :: outer => { l with key := key, outerKeys := outer }
    | [] => l
  allowKey false
  fixed token 1

/-- A comma. -/
def fetchFlowEntry : Lex Unit := do
  dropKey
  allowKey true
  fixed .flowEntry 1

/-- Open a block collection for an indicator, if one may stand here. -/
def indicatorBlock (token : Token) (fault : Fault) : Lex Unit := do
  let l ← get
  if !l.inFlow then
    if !l.keyAllowed then failHere fault
    openBlockHere token

/-- A dash. -/
def fetchBlockEntry : Lex Unit := do
  indicatorBlock .blockSequenceStart .entryNotAllowed
  dropKey
  allowKey true
  fixed .blockEntry 1

/-- A question mark. -/
def fetchKey : Lex Unit := do
  indicatorBlock .blockMappingStart .keyNotAllowed
  dropKey
  allowKey (!(← get).inFlow)
  fixed .key 1

/-- A colon. It makes a key of what stands before it, if that was possible. -/
def fetchValue : Lex Unit := do
  match (← get).key with
  | some k =>
    modify fun l => { l with key := none }
    let opening ← openBlock k.mark .blockMappingStart
    -- the tokens of the key still wait, and its marks go before them
    pushBefore k.tokenNumber (opening ++ [⟨.key, k.mark, k.mark⟩])
    allowKey false
  | none =>
    indicatorBlock .blockMappingStart .valueNotAllowed
    allowKey (!(← get).inFlow)
  fixed .value 1

/-- An alias, an anchor, a tag or a quoted scalar. -/
def fetchNodePart (read : Scan PlacedToken) : Lex Unit := do
  saveKey
  allowKey false
  push (← read)

def fetchBlockScalar (folded : Bool) : Lex Unit := do
  dropKey
  allowKey true
  push (← Scalar.block folded (← get).indent)

/-- A plain scalar. A key may begin behind it if its line has ended. -/
def fetchPlain : Lex Unit := do
  saveKey
  allowKey false
  let l ← get
  let (token, broken) ← Scalar.plain l.inFlow (l.indent + 1).toNat
  -- a scalar over several lines is no key itself, but the next line may begin one
  if broken then allowKey true
  push token

/-- Whether a plain scalar may begin with these characters. -/
def startsPlain (inFlow : Bool) (c : Char) (next : Option Char) : Bool :=
  !(isSpaceOrTab c || isBreak c || "-?:,[]\x7b\x7d#&*!|>'\"%@`".toList.contains c) ||
    (c == '-' && !next.any isSpaceOrTab) ||
    (!inFlow && (c == '?' || c == ':') && !isBlankOrEnd next)

/-- Skip what stands between tokens. Tabs may stand where no key can begin, and a byte order mark at
the beginning of any line, where it takes up a column. -/
def skipToToken (fuel : Nat) : Lex Unit := do
  match fuel with
  | 0 => return
  | fuel + 1 =>
    if (← Scan.mark).column == 0 && (← Scan.isNext '\ufeff') then Scan.skip
    let l ← get
    -- a tab must not pass for indentation where a key may begin
    let tabs := l.inFlow || !l.keyAllowed
    let _ ← Scan.span fun c => c == ' ' || (tabs && c == '\t')
    if ← Scan.isNext '#' then
      let _ ← Scan.span fun c => !isBreak c
    if (← Scan.peek 0).any isBreak then
      Scan.skipBreak
      if !l.inFlow then allowKey true
      skipToToken fuel

/-- Read the next token and put it into the queue. -/
def fetch : Lex Unit := do
  skipToToken ((← Scan.remaining) + 1)
  settleKeys
  let mark ← Scan.mark
  closeBlocks mark.column
  Scan.reach 4
  let inFlow := (← get).inFlow
  let next ← Scan.peek 1
  match ← Scan.peek 0 with
  | none => fetchEnd
  | some c =>
    if mark.column == 0 && c == '%' then fetchDirective
    else if (← getThe Cursor).atMarker then fetchMarker
    else if c == '[' then fetchFlowStart .flowSequenceStart
    else if c == '{' then fetchFlowStart .flowMappingStart
    else if c == ']' then fetchFlowEnd .flowSequenceEnd
    else if c == '}' then fetchFlowEnd .flowMappingEnd
    else if c == ',' then fetchFlowEntry
    else if c == '-' && isBlankOrEnd next then fetchBlockEntry
    else if c == '?' && (inFlow || isBlankOrEnd next) then fetchKey
    else if c == ':' && (inFlow || isBlankOrEnd next) then fetchValue
    else if c == '*' then fetchNodePart (Property.anchor true)
    else if c == '&' then fetchNodePart (Property.anchor false)
    else if c == '!' then fetchNodePart (Property.tag inFlow)
    else if c == '|' && !inFlow then fetchBlockScalar false
    else if c == '>' && !inFlow then fetchBlockScalar true
    else if c == '\'' || c == '"' then fetchNodePart (Scalar.quoted c)
    else if startsPlain inFlow c next then fetchPlain
    else Scan.fail .noTokenStart .token mark

/-! ## The stream of tokens -/

/-- Whether the first token of the queue may still turn out to begin a key. -/
def mustWait (l : Lexer) : Bool :=
  (l.key :: l.outerKeys).any fun k => k.any (·.tokenNumber == l.released)

/-- Let the first token leave, or read one more. -/
def advance : Lex (Option PlacedToken) := do
  match (← get).queue with
  | [] =>
    fetch
    return none
  | token :: rest =>
    settleKeys
    if (← get).mustWait then
      fetch
      return none
    else
      modify fun l => { l with queue := rest, released := l.released + 1 }
      return some token

/-- All tokens that leave, the last one first, before those given. -/
def run (fuel : Nat) (lexer : Lexer) (cursor : Cursor) (left : List PlacedToken) :
    List PlacedToken × Option Problem :=
  match fuel with
  | 0 => (left, none)
  | fuel + 1 =>
    if lexer.ended && lexer.queue.isEmpty then (left, none)
    else
      match (advance.run lexer).run cursor with
      | .error problem => (left, some problem)
      | .ok ((some token, lexer), cursor) => run fuel lexer cursor (token :: left)
      | .ok ((none, lexer), cursor) => run fuel lexer cursor left

end Lexer

/-- The tokens of a text in order, and the problem behind the last of them, if there is one. -/
def Token.ofText (text : String) : List PlacedToken × Option Problem :=
  let cursor := Cursor.ofText text
  let (tokens, problem) := Lexer.run (8 * cursor.rest.length + 64) .start cursor []
  (tokens.reverse, problem)

end CiWorkflow.Yaml
