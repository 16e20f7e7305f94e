import Flowgraph.Yaml.Token

namespace Flowgraph.Yaml

/-- A scalar of a document. -/
structure Scalar where
  style : Style
  tag : Option String
  text : String
deriving DecidableEq, Repr, Inhabited

/-- A step through a document. -/
inductive Event where
  | scalar (s : Scalar)
  /-- Points to an anchor by its number. -/
  | alias (anchor : Nat)
  | sequenceStart
  | sequenceEnd
  | mappingStart
  | mappingEnd
  /-- Stands for a text without a document. -/
  | void
deriving DecidableEq, Repr, Inhabited

/-- How far a document is read. -/
structure Reading where
  tokens : List Token
  /-- What is wrong with the text behind the tokens. -/
  fault : Fault
  /-- The events so far with their places, last first. -/
  events : List (Event × Mark) := []
  count : Nat := 0
  /-- The short names of tags and what they stand for. -/
  handles : List (String × String) := []
  /-- The number that each anchor stands for. An anchor takes the number of names before it, also
  where it takes its name from an earlier one. -/
  anchors : List (String × Nat) := []
  /-- The events that the numbers of anchors point to, last first. -/
  targets : List (Nat × Nat) := []

/-- Reads on in a document. What was read before a fault is kept. -/
abbrev Read := ExceptT Fault (StateM Reading)

namespace Read

def peek : Read Token := do
  let r ← get
  match r.tokens with
  | t :: _ => pure t
  | [] => throw r.fault

def skip : Read Unit := modify fun r => { r with tokens := r.tokens.drop 1 }

/-- Passes over a token and looks at the next one. -/
def skipPeek : Read Token := do
  skip
  peek

def emit (e : Event) (mark : Mark) : Read Unit :=
  modify fun r => { r with events := (e, mark) :: r.events, count := r.count + 1 }

/-- Adds an event under an anchor, if there is one. -/
def emitAt (anchor : Option String) (e : Event) (mark : Mark) : Read Unit := do
  match anchor with
  | none => emit e mark
  | some name =>
    modify fun r =>
      let n := r.anchors.length
      { r with
        anchors := (name, n) :: r.anchors.filter (·.1 ≠ name)
        targets := (n, r.count) :: r.targets }
    emit e mark

def emitEmpty (mark : Mark) : Read Unit := emit (.scalar ⟨.plain, none, ""⟩) mark

def emitAlias (name : String) (mark : Mark) : Read Unit := do
  match (← get).anchors.lookup name with
  | some n => emit (.alias n) mark
  | none => throw { problem := "unknown anchor", mark }

/-- A tag as written, with its place. -/
structure WrittenTag where
  handle : String
  suffix : String
  mark : Mark

/-- The anchor and the tag in front of a node, in either order. -/
def properties : Read (Option String × Option WrittenTag) := do
  let t ← peek
  match t.kind with
  | .anchor name =>
    let t ← skipPeek
    match t.kind with
    | .tag handle suffix =>
      skip
      pure (some name, some ⟨handle, suffix, t.start⟩)
    | _ => pure (some name, none)
  | .tag handle suffix =>
    let tag : WrittenTag := ⟨handle, suffix, t.start⟩
    match (← skipPeek).kind with
    | .anchor name =>
      skip
      pure (some name, some tag)
    | _ => pure (none, some tag)
  | _ => pure (none, none)

def resolve (start : Mark) (tag : WrittenTag) : Read String := do
  if tag.handle = "" then pure tag.suffix
  else match (← get).handles.lookup tag.handle with
    | some scope => pure (scope ++ tag.suffix)
    | none =>
      throw ⟨"found undefined tag handle", tag.mark, 0, some ("while parsing a node", start)⟩

/-- Whether a token ends a place where a node may be missing. -/
abbrev Ends := TokenKind → Bool

/-- What comes behind an item with a dash. -/
def endsItem : Ends
  | .blockEntry | .blockEnd => true
  | _ => false

/-- What comes behind an item with a dash in a sequence that is not indented. -/
def endsLooseItem : Ends
  | .blockEntry | .key | .value | .blockEnd => true
  | _ => false

/-- What comes behind a key or a value of a mapping. -/
def endsMember : Ends
  | .key | .value | .blockEnd => true
  | _ => false

/-- What comes behind a key in brackets. -/
def endsFlowKey : Ends
  | .value | .flowEntry | .flowSequenceEnd => true
  | _ => false

/-- What comes behind a value in brackets. -/
def endsFlowValue : Ends
  | .flowEntry | .flowSequenceEnd => true
  | _ => false

/-- What comes behind a key in braces. -/
def endsBraceKey : Ends
  | .value | .flowEntry | .flowMappingEnd => true
  | _ => false

/-- What comes behind a value in braces. -/
def endsBraceValue : Ends
  | .flowEntry | .flowMappingEnd => true
  | _ => false

/-- Passes over the comma between two items in brackets or braces, and looks at the next token. -/
def comma (first : Bool) (problem : String) (context : String × Mark) : Read Token := do
  let t ← peek
  if first then pure t
  else if t.kind = .flowEntry then skipPeek
  else throw ⟨problem, t.start, 0, some context⟩

mutual

/-- Reads a node. A sequence that is not indented may stand where a mapping's value is expected.
The fuel bounds the recursion. -/
def node (block loose : Bool) : Nat → Read Unit
  | 0 => pure ()
  | fuel + 1 => do
    let t ← peek
    match t.kind with
    | .alias name =>
      emitAlias name t.start
      skip
    | _ =>
      let start := t.start
      let (anchor, written) ← properties
      let t ← peek
      let tag ← written.mapM (resolve start)
      match t.kind with
      | .scalar style text =>
        emitAt anchor (.scalar ⟨style, tag.filter (· ≠ "!"), text⟩) start
        skip
      | .flowSequenceStart =>
        emitAt anchor .sequenceStart start
        skip
        flowItems t.start true fuel
      | .flowMappingStart =>
        emitAt anchor .mappingStart start
        skip
        flowMembers t.start true fuel
      | kind =>
        if loose ∧ kind = .blockEntry then
          emitAt anchor .sequenceStart start
          looseItems fuel
        else if block ∧ kind = .blockSequenceStart then
          emitAt anchor .sequenceStart start
          skip
          items t.start fuel
        else if block ∧ kind = .blockMappingStart then
          emitAt anchor .mappingStart start
          skip
          members t.start fuel
        else if anchor.isSome ∨ tag.isSome then
          emitAt anchor (.scalar ⟨.plain, tag, ""⟩) start
        else
          let what := if block then "while parsing a block node" else "while parsing a flow node"
          throw ⟨"did not find expected node content", t.start, 0, some (what, start)⟩

/-- Reads a node, or adds an empty scalar where it is missing. -/
def nodeOr (block loose : Bool) (ends : Ends) (missing : Mark) : Nat → Read Unit
  | 0 => pure ()
  | fuel + 1 => do
    if ends (← peek).kind then emitEmpty missing else node block loose fuel

def items (start : Mark) : Nat → Read Unit
  | 0 => pure ()
  | fuel + 1 => do
    let t ← peek
    match t.kind with
    | .blockEntry =>
      skip
      nodeOr true false endsItem t.stop fuel
      items start fuel
    | .blockEnd =>
      emit .sequenceEnd t.start
      skip
    | _ =>
      throw ⟨"did not find expected '-' indicator", t.start, 0,
        some ("while parsing a block collection", start)⟩

/-- Reads the items of a sequence with dashes that is not indented. -/
def looseItems : Nat → Read Unit
  | 0 => pure ()
  | fuel + 1 => do
    let t ← peek
    if t.kind = .blockEntry then
      skip
      nodeOr true false endsLooseItem t.stop fuel
      looseItems fuel
    else emit .sequenceEnd t.start

def members (start : Mark) : Nat → Read Unit
  | 0 => pure ()
  | fuel + 1 => do
    let t ← peek
    match t.kind with
    | .key =>
      skip
      nodeOr true true endsMember t.stop fuel
      memberValue fuel
      members start fuel
    | .blockEnd =>
      emit .mappingEnd t.start
      skip
    | _ =>
      throw ⟨"did not find expected key", t.start, 0, some ("while parsing a block mapping", start)⟩

def memberValue : Nat → Read Unit
  | 0 => pure ()
  | fuel + 1 => do
    let t ← peek
    if t.kind = .value then
      skip
      nodeOr true true endsMember t.stop fuel
    else emitEmpty t.start

def flowItems (start : Mark) (first : Bool) : Nat → Read Unit
  | 0 => pure ()
  | fuel + 1 => do
    let t ← peek
    if t.kind = .flowSequenceEnd then
      emit .sequenceEnd t.start
      skip
    else
      let context := ("while parsing a flow sequence", start)
      let t ← comma first "did not find expected ',' or ']'" context
      match t.kind with
      | .key =>
        emit .mappingStart t.start
        skip
        pair fuel
        flowItems start false fuel
      | .flowSequenceEnd =>
        emit .sequenceEnd t.start
        skip
      | _ =>
        node false false fuel
        flowItems start false fuel

/-- Reads a mapping of one member in brackets. Where its key is missing, so is the token behind. -/
def pair : Nat → Read Unit
  | 0 => pure ()
  | fuel + 1 => do
    let t ← peek
    if endsFlowKey t.kind then
      skip
      emitEmpty t.stop
    else node false false fuel
    let t ← peek
    if t.kind = .value then
      let t ← skipPeek
      nodeOr false false endsFlowValue t.start fuel
    else emitEmpty t.start
    let t ← peek
    emit .mappingEnd t.start

def flowMembers (start : Mark) (first : Bool) : Nat → Read Unit
  | 0 => pure ()
  | fuel + 1 => do
    let t ← peek
    if t.kind = .flowMappingEnd then
      emit .mappingEnd t.start
      skip
    else
      let t ← comma first "did not find expected ',' or '\x7d'"
        ("while parsing a flow mapping", start)
      match t.kind with
      | .key =>
        let t ← skipPeek
        nodeOr false false endsBraceKey t.start fuel
        let t ← peek
        if t.kind = .value then
          let t ← skipPeek
          nodeOr false false endsBraceValue t.start fuel
        else emitEmpty t.start
        flowMembers start false fuel
      | .flowMappingEnd =>
        emit .mappingEnd t.start
        skip
      | _ =>
        node false false fuel
        let t ← peek
        emitEmpty t.start
        flowMembers start false fuel

end

/-- The short names of tags that every document has. -/
def standardHandles : List (String × String) := [("!", "!"), ("!!", "tag:yaml.org,2002:")]

def directives (versioned : Bool) : Nat → Read Unit
  | 0 => pure ()
  | fuel + 1 => do
    let t ← peek
    match t.kind with
    | .directive (.version major minor) =>
      if versioned then throw { problem := "found duplicate %YAML directive", mark := t.start }
      if major ≠ 1 ∨ (minor ≠ 1 ∧ minor ≠ 2) then
        throw { problem := "found incompatible YAML document", mark := t.start }
      skip
      directives true fuel
    | .directive (.tags handle scope) =>
      if ((← get).handles.lookup handle).isSome then
        throw { problem := "found duplicate %TAG directive", mark := t.start }
      modify fun r => { r with handles := (handle, scope) :: r.handles }
      skip
      directives versioned fuel
    | _ => modify fun r => { r with handles := r.handles ++ standardHandles }

/-- Whether a token belongs to the start of a document. -/
def opensDocument : TokenKind → Bool
  | .directive _ | .documentStart => true
  | _ => false

def endsDocument : Ends
  | .directive _ | .documentStart | .documentEnd | .streamEnd => true
  | _ => false

def document (fuel : Nat) : Read Unit := do
  let t ← skipPeek
  if t.kind = .streamEnd then emit .void t.start
  else
    directives false fuel
    if opensDocument t.kind then
      let t ← peek
      if t.kind ≠ .documentStart then
        throw { problem := "did not find expected <document start>", mark := t.start }
      let t ← skipPeek
      nodeOr true false endsDocument t.start fuel
    else node true false fuel
    if (← peek).kind = .documentEnd then skip

end Read

/-- The first document of a text, as far as it can be read. -/
structure Document where
  events : Array (Event × Mark)
  /-- The events that the numbers of anchors point to. -/
  targets : List (Nat × Nat)
  fault : Option Fault
  /-- Whether the text ends behind the document. -/
  isLast : Bool

/-- Reads the first document of a text. A token takes at most four steps, which bounds the fuel. -/
def Document.ofText (s : String) : Document :=
  let (tokens, fault) := Token.ofText s
  let (result, r) :=
    (Read.document (4 * tokens.length + 4)).run.run { tokens, fault := fault.getD default }
  let next := r.tokens.dropWhile (·.kind = .documentEnd)
  { events := r.events.reverse.toArray
    targets := r.targets
    fault := match result with
      | .error f => some f
      | .ok () => none
    isLast := next.head?.any (·.kind = .streamEnd) }

end Flowgraph.Yaml
