import CiWorkflow.Yaml.Token
/-!
# YAML events

The structure of a YAML text as a list of events: scalars and aliases, and the beginnings and ends
of collections. `Stream.ofTokens` reads the events of the first document; when the text is broken,
those before the break are there all the same, because problems with their values come first.
-/

namespace CiWorkflow.Yaml

/-- An event, in which an alias refers to its anchor by a `ref`. -/
inductive Event (ref : Type) where
  | reference (target : ref)
  | scalar (tag : Option TagText) (text : String) (style : ScalarStyle)
  | sequenceStart (tag : Option TagText)
  | sequenceEnd
  | mappingStart (tag : Option TagText)
  | mappingEnd
  /-- The absence of any document. -/
  | absent
deriving Inhabited

/-- An event, its place, and the anchor before it. -/
structure PlacedEvent (ref : Type) where
  event : Event ref
  /-- Where it begins. -/
  mark : Mark
  /-- The name by which aliases refer to it. -/
  anchor : Option String
deriving Inhabited

/-- What a text has to tell: its first document, and what comes behind it. -/
structure Stream where
  /-- The events of the first document. -/
  events : List (PlacedEvent String)
  /-- Why the first document breaks off. -/
  problem : Option Problem
  /-- Whether there is anything but the end behind it. -/
  more : Bool

/-! ## Reading -/

/-- How far the tokens have been read. -/
structure Grammar where
  /-- The tokens to come. -/
  tokens : List PlacedToken
  /-- The problem behind them. -/
  problem : Option Problem
  /-- The tag handles that are declared. -/
  handles : List (String × TagText)
  /-- The events so far, the last one first. -/
  events : List (PlacedEvent String)

/-- A computation that turns tokens into events. Events that came before a problem stay. -/
abbrev Parse := ExceptT Problem (StateM Grammar)

namespace Grammar

/-- The handles that need no declaration. -/
def defaultHandles : List (String × TagText) :=
  [("!", ⟨"!", true⟩), ("!!", ⟨"tag:yaml.org,2002:", true⟩)]

/-- The next token. -/
def peek : Parse PlacedToken := do
  match (← get).tokens, (← get).problem with
  | token :: _, _ => return token
  | [], some problem => throw problem
  | [], none => throw .noValue

def advance : Parse Unit := modify fun g => { g with tokens := g.tokens.drop 1 }

/-- Put an event at the end. -/
def emit (event : Event String) (mark : Mark) (anchor : Option String := none) : Parse Unit :=
  modify fun g => { g with events := ⟨event, mark, anchor⟩ :: g.events }

/-- A scalar that is not written. -/
def emitEmpty (mark : Mark) : Parse Unit := emit (.scalar none "" .plain) mark

/-- Fail with a fault at a place. -/
def fail {α : Type} (fault : Fault) (at_ : Mark) (during : Option (Activity × Mark)) : Parse α :=
  throw (.malformed fault at_ during)

/-! ### Properties of nodes -/

/-- What a tag stands for. -/
def expandTag (handle : String) (name : TagText) (at_ since : Mark) : Parse TagText := do
  if handle.isEmpty then return name
  match (← get).handles.find? (·.1 == handle) with
  | some (_, expansion) =>
    return ⟨expansion.text ++ name.text, expansion.wellFormed && name.wellFormed⟩
  | none => fail .undefinedHandle at_ (some (.node, since))

def anchor? : Parse (Option String) := do
  match (← peek).token with
  | .anchor name =>
    advance
    return some name
  | _ => return none

/-- Read a tag, if there is one, by its parts and its place. -/
def tag? : Parse (Option (String × TagText × Mark)) := do
  let t ← peek
  match t.token with
  | .tag handle name =>
    advance
    return some (handle, name, t.start)
  | _ => return none

/-- Read an anchor and a tag in either order. Also tells where they begin. -/
def properties : Parse (Option String × Option TagText × Mark) := do
  let since := (← peek).start
  let before ← anchor?
  let tag ← tag?
  -- the anchor may stand on either side of the tag, but not on both
  let anchor ← if before.isNone && tag.isSome then anchor? else pure before
  -- what follows has to be a token before the handle is looked up
  let _ ← peek
  let tag ← tag.mapM fun (handle, name, at_) => expandTag handle name at_ since
  return (anchor, tag, since)

/-! ### Nodes -/

/-- Whether a token ends an entry without a node in an indentless sequence. -/
def endsIndentless : Token → Bool
  | .blockEntry | .key | .value | .blockEnd => true
  | _ => false

/-- Whether a token ends a key or a value without a node in a block mapping. -/
def endsBlockPair : Token → Bool
  | .key | .value | .blockEnd => true
  | _ => false

/-- Whether a token ends a key without a node in a pair within a flow sequence. -/
def endsSinglePair : Token → Bool
  | .value | .flowEntry | .flowSequenceEnd => true
  | _ => false

/-- Whether a token ends a key without a node in a flow mapping. -/
def endsFlowKey : Token → Bool
  | .value | .flowEntry | .flowMappingEnd => true
  | _ => false

mutual

/-- Read a node. Outside of flow collections it may be a block collection, and the value of a key
may be a sequence without indentation of its own. -/
def node (fuel : Nat) (block indentless : Bool) : Parse Unit := do
  match fuel with
  | 0 => return
  | fuel + 1 =>
    let t ← peek
    match t.token with
    | .reference name =>
      emit (.reference name) t.start
      advance
    | _ =>
      let (anchor, tag, since) ← properties
      let t ← peek
      match t.token, block with
      | .scalar text style, _ =>
        emit (.scalar tag text style) since anchor
        advance
      | .flowSequenceStart, _ =>
        emit (.sequenceStart tag) since anchor
        advance
        flowItems fuel true t.start
      | .flowMappingStart, _ =>
        emit (.mappingStart tag) since anchor
        advance
        flowPairs fuel true t.start
      | .blockSequenceStart, true =>
        emit (.sequenceStart tag) since anchor
        advance
        blockItems fuel t.start
      | .blockMappingStart, true =>
        emit (.mappingStart tag) since anchor
        advance
        blockPairs fuel t.start
      | token, _ =>
        if indentless && token == .blockEntry then
          emit (.sequenceStart tag) since anchor
          indentlessItems fuel
        -- properties alone make an empty scalar
        else if anchor.isSome || tag.isSome then emit (.scalar tag "" .plain) since anchor
        else fail .missingNode t.start (some (if block then .blockNode else .flowNode, since))

def blockItems (fuel : Nat) (since : Mark) : Parse Unit := do
  match fuel with
  | 0 => return
  | fuel + 1 =>
    let t ← peek
    match t.token with
    | .blockEntry =>
      advance
      match (← peek).token with
      | .blockEntry | .blockEnd => emitEmpty t.stop
      | _ => node fuel true false
      blockItems fuel since
    | .blockEnd =>
      emit .sequenceEnd t.start
      advance
    | _ => fail .missingEntry t.start (some (.blockSequence, since))

/-- Read the entries of a sequence that is indented like the mapping around it. -/
def indentlessItems (fuel : Nat) : Parse Unit := do
  match fuel with
  | 0 => return
  | fuel + 1 =>
    let t ← peek
    match t.token with
    | .blockEntry =>
      advance
      if endsIndentless (← peek).token then emitEmpty t.stop else node fuel true false
      indentlessItems fuel
    | _ => emit .sequenceEnd t.start

def blockPairs (fuel : Nat) (since : Mark) : Parse Unit := do
  match fuel with
  | 0 => return
  | fuel + 1 =>
    let t ← peek
    match t.token with
    | .key =>
      advance
      if endsBlockPair (← peek).token then emitEmpty t.stop else node fuel true true
      let t ← peek
      match t.token with
      | .value =>
        advance
        if endsBlockPair (← peek).token then emitEmpty t.stop else node fuel true true
      | _ => emitEmpty t.start
      blockPairs fuel since
    | .blockEnd =>
      emit .mappingEnd t.start
      advance
    | _ => fail .missingKey t.start (some (.blockMapping, since))

/-- Read the entries of a flow sequence, among which a single pair makes a mapping of its own. -/
def flowItems (fuel : Nat) (first : Bool) (since : Mark) : Parse Unit := do
  match fuel with
  | 0 => return
  | fuel + 1 =>
    let t ← peek
    if t.token != .flowSequenceEnd && !first then
      if t.token == .flowEntry then advance
      else fail .missingComma t.start (some (.flowSequence, since))
    let t ← peek
    match t.token with
    | .flowSequenceEnd =>
      emit .sequenceEnd t.start
      advance
    | .key =>
      -- a pair without braces becomes a mapping of its own
      emit (.mappingStart none) t.start
      advance
      let t ← peek
      -- a missing key takes the token behind it along, so a colon there is not seen again
      if endsSinglePair t.token then
        advance
        emitEmpty t.stop
      else node fuel false false
      let t ← peek
      match t.token with
      | .value =>
        advance
        let t ← peek
        match t.token with
        | .flowEntry | .flowSequenceEnd => emitEmpty t.start
        | _ => node fuel false false
      | _ => emitEmpty t.start
      emit .mappingEnd (← peek).start
      flowItems fuel false since
    | _ =>
      node fuel false false
      flowItems fuel false since

def flowPairs (fuel : Nat) (first : Bool) (since : Mark) : Parse Unit := do
  match fuel with
  | 0 => return
  | fuel + 1 =>
    let t ← peek
    if t.token != .flowMappingEnd && !first then
      if t.token == .flowEntry then advance
      else fail .missingMappingComma t.start (some (.flowMapping, since))
    let t ← peek
    match t.token with
    | .flowMappingEnd =>
      emit .mappingEnd t.start
      advance
    | .key =>
      advance
      let t ← peek
      if endsFlowKey t.token then emitEmpty t.start else node fuel false false
      let t ← peek
      match t.token with
      | .value =>
        advance
        let t ← peek
        match t.token with
        | .flowEntry | .flowMappingEnd => emitEmpty t.start
        | _ => node fuel false false
      | _ => emitEmpty t.start
      flowPairs fuel false since
    | _ =>
      node fuel false false
      emitEmpty (← peek).start
      flowPairs fuel false since

end

/-! ### Documents -/

/-- Read the directives before a document. -/
def directives (fuel : Nat) (versionSeen : Bool) (declared : List (String × TagText)) :
    Parse Unit := do
  match fuel with
  | 0 => return
  | fuel + 1 =>
    let t ← peek
    match t.token with
    | .versionDirective major minor =>
      if versionSeen then fail .secondVersion t.start none
      if major != 1 || (minor != 1 && minor != 2) then fail .unsupportedVersion t.start none
      advance
      directives fuel true declared
    | .tagDirective handle expansion =>
      if declared.any (·.1 == handle) then fail .secondHandle t.start none
      advance
      directives fuel versionSeen (declared ++ [(handle, expansion)])
    -- declared handles are found before those that need no declaration
    | _ => modify fun g => { g with handles := declared ++ defaultHandles }

/-- Whether a document without a node ends before this token. -/
def endsDocument : Token → Bool
  | .versionDirective _ _ | .tagDirective _ _ | .documentStart | .documentEnd | .streamEnd => true
  | _ => false

/-- Read the first document with all that belongs to it. -/
def firstDocument : Parse Unit := do
  let _ ← peek
  advance
  let fuel := 4 * (← get).tokens.length + 16
  let t ← peek
  match t.token with
  | .streamEnd => emit .absent t.start
  | .versionDirective _ _ | .tagDirective _ _ | .documentStart =>
    directives fuel false []
    let t ← peek
    if t.token != .documentStart then fail .missingDocumentStart t.start none
    advance
    let t ← peek
    if endsDocument t.token then emitEmpty t.start else node fuel true false
    endDocument
  | _ =>
    directives fuel false []
    node fuel true false
    endDocument
where
  /-- Pass over the marker after a document. -/
  endDocument : Parse Unit := do
    if (← peek).token == .documentEnd then advance

/-- Whether the text ends here, markers after documents apart. -/
def atEnd : Parse Bool := do
  modify fun g => { g with tokens := g.tokens.dropWhile (·.token == .documentEnd) }
  return (← peek).token == .streamEnd

end Grammar

/-- The structure of a list of tokens behind which there may be a problem. -/
def Stream.ofTokens (tokens : List PlacedToken) (problem : Option Problem) : Stream :=
  let (outcome, g) := Grammar.firstDocument.run.run ⟨tokens, problem, [], []⟩
  match outcome with
  | .error problem => ⟨g.events.reverse, some problem, false⟩
  | .ok _ =>
    match (Grammar.atEnd.run.run g).1 with
    | .ok true => ⟨g.events.reverse, none, false⟩
    | _ => ⟨g.events.reverse, none, true⟩

end CiWorkflow.Yaml
