import ElasticEndpoint.Yaml.Feed
import ElasticEndpoint.Yaml.Graph

/-!
Reading nodes. The tokens of a text come to the nodes of its document. An anchor names a node from
where the node begins, so that a collection can hold itself. A stream holds at most one document.
-/

namespace ElasticEndpoint.Yaml

/-- The state of reading nodes: the tokens left, the nodes and the anchors so far, the tag handles,
and how many collections are open. -/
structure Reading where
  feed : Feed
  nodes : Nodes := #[]
  anchors : List (List Char × NodeId) := []
  handles : List (List Char × List Char) := []
  depth : Nat := 0

abbrev NodeReader := StateT Reading (Except Fault)

namespace NodeReader

def peek : NodeReader Token := do
  match (← get).feed with
  | ⟨token :: _, _⟩ => return token
  | ⟨[], some fault⟩ => throw fault
  | ⟨[], none⟩ => return ⟨.streamEnd, ⟨0, 0, 0⟩, ⟨0, 0, 0⟩⟩

def next : NodeReader Token := do
  let token ← peek
  modify fun r => { r with feed := { r.feed with tokens := r.feed.tokens.drop 1 } }
  return token

def sees (test : TokenKind → Bool) : NodeReader Bool := do
  return test (← peek).kind

def parseFault {α : Type} (activity : Activity) (start : Place) (problem : Problem) (place : Place) : NodeReader α :=
  throw (.marked .parsing (some (activity, some start)) problem place)

def defaultHandles : List (List Char × List Char) :=
  [(['!'], ['!']), (['!', '!'], Tag.standard)]

/-- The full tag of a written one. -/
def resolveTag (name : TagName) (start tagStart : Place) : NodeReader (List Char) := do
  match name.handle with
  | none => return name.suffix
  | some handle =>
    match (← get).handles.lookup handle with
    | some text => return text ++ name.suffix
    | none => parseFault .node start (.undefinedHandle handle) tagStart

def add (node : Node) : NodeReader NodeId :=
  modifyGet fun r => (r.nodes.size, { r with nodes := r.nodes.push node })

/-- Adds a node that an anchor may stand before; an anchor is bound once in a document. -/
def addAnchored (anchor : Option (List Char)) (node : Node) : NodeReader NodeId := do
  match anchor with
  | none => add node
  | some name => do
    let bound := (← get).anchors.lookup name
    match bound with
    | some first =>
      let place := ((← get).nodes.get first).start
      throw (.marked .composing (some (.firstAnchor name, some place)) .secondAnchor node.start)
    | none => do
      let id ← add node
      modify fun r => { r with anchors := (name, id) :: r.anchors }
      return id

/-- The number of collections that may stand in one another. -/
def depthLimit : Nat := 488

def fill (id : NodeId) (content : NodeReader Content) : NodeReader NodeId := do
  if depthLimit ≤ (← get).depth then throw .tooDeep
  modify fun r => { r with depth := r.depth + 1 }
  let content ← content
  modify fun r => { r with depth := r.depth - 1, nodes := r.nodes.setContent id content }
  return id

structure Properties where
  anchor : Option (List Char) := none
  tag : Option (List Char) := none
  start : Option Place := none

/-- Reads the anchor and the tag before a node, in either order. -/
def properties : NodeReader Properties := do
  let first ← peek
  match first.kind with
  | .anchor name =>
    let _ ← next
    let second ← peek
    match second.kind with
    | .tag tag =>
      let _ ← next
      return ⟨some name, some (← resolveTag tag first.start second.start), some first.start⟩
    | _ => return ⟨some name, none, some first.start⟩
  | .tag tag =>
    let _ ← next
    let second ← peek
    match second.kind with
    | .anchor name =>
      let _ ← next
      return ⟨some name, some (← resolveTag tag first.start first.start), some first.start⟩
    | _ => return ⟨none, some (← resolveTag tag first.start first.start), some first.start⟩
  | _ => return {}

/-- The empty scalar that stands where a node is left out. -/
def omitted (start : Place) : NodeReader NodeId := add ⟨Tag.ofPlain [], .scalar ⟨[], []⟩, start⟩

/-- Where a node stands. -/
inductive Position where
  | block
  | blockOrIndentless
  | flow
  deriving DecidableEq

mutual

/-- The node at the next token. -/
def node (position : Position) : Nat → NodeReader NodeId
  | 0 => throw .tooDeep
  | fuel + 1 => do
    let first ← peek
    match first.kind with
    | .alias name =>
      let _ ← next
      match (← get).anchors.lookup name with
      | some id => return id
      | none => throw (.marked .composing none (.undefinedAlias name) first.start)
    | _ =>
      let properties ← properties
      let token ← peek
      let start := properties.start.getD token.start
      let tag := if properties.tag == some ['!'] then none else properties.tag
      let sequence (items : NodeReader (List NodeId)) : NodeReader NodeId := do
        let id ← addAnchored properties.anchor ⟨tag.elim .seq Tag.ofName, .sequence [], start⟩
        fill id (.sequence <$> items)
      let mapping (entries : NodeReader (List (NodeId × NodeId))) : NodeReader NodeId := do
        let id ← addAnchored properties.anchor ⟨tag.elim .map Tag.ofName, .mapping [], start⟩
        fill id (.mapping <$> entries)
      match token.kind with
      | .scalar plain content =>
        let _ ← next
        let resolved := match properties.tag with
          | none => if plain then Tag.ofPlain content.chars else .str
          | some ['!'] => Tag.ofPlain content.chars
          | some name => Tag.ofName name
        addAnchored properties.anchor ⟨resolved, .scalar content, start⟩
      | .flowSequenceStart => sequence do
        let opening ← next
        flowItems opening.start true fuel
      | .flowMappingStart => mapping do
        let opening ← next
        flowEntries opening.start true fuel
      | kind =>
        if kind == .blockEntry && position == .blockOrIndentless then sequence (indentlessItems fuel)
        else if kind == .blockSequenceStart && position != .flow then sequence do
          let opening ← next
          blockItems opening.start fuel
        else if kind == .blockMappingStart && position != .flow then mapping do
          let opening ← next
          blockEntries opening.start fuel
        else if properties.start.isSome then do
          let resolved := match tag with
            | none => Tag.ofPlain []
            | some name => Tag.ofName name
          addAnchored properties.anchor ⟨resolved, .scalar ⟨[], []⟩, start⟩
        else
          parseFault (if position == .flow then .flowNode else .blockNode) start
            (.expectedToken "the node content" kind) token.start

/-- A node, or the empty scalar where one of some tokens follows the given token at once. -/
def nodeUnless (position : Position) (ends : TokenKind → Bool) (after : Token) : Nat → NodeReader NodeId
  | 0 => throw .tooDeep
  | fuel + 1 => do
    if ← sees ends then omitted after.stop
    else node position fuel

def blockItems (opening : Place) : Nat → NodeReader (List NodeId)
  | 0 => return []
  | fuel + 1 => do
    let token ← next
    match token.kind with
    | .blockEntry =>
      let item ← nodeUnless .block (fun k => k == .blockEntry || k == .blockEnd) token fuel
      return item :: (← blockItems opening fuel)
    | .blockEnd => return []
    | kind => parseFault .blockCollection opening (.expectedToken "<block end>" kind) token.start

/-- The items of a block sequence that is indented like the mapping it stands in. -/
def indentlessItems : Nat → NodeReader (List NodeId)
  | 0 => return []
  | fuel + 1 => do
    if ← sees (· == .blockEntry) then
      let token ← next
      let item ← nodeUnless .block
        (fun k => k == .blockEntry || k == .key || k == .value || k == .blockEnd) token fuel
      return item :: (← indentlessItems fuel)
    else return []

def blockEntries (opening : Place) : Nat → NodeReader (List (NodeId × NodeId))
  | 0 => return []
  | fuel + 1 => do
    let ends := fun k => k == TokenKind.key || k == .value || k == .blockEnd
    let token ← peek
    match token.kind with
    | .key =>
      let _ ← next
      let key ← nodeUnless .blockOrIndentless ends token fuel
      let value ← blockValue ends fuel
      return (key, value) :: (← blockEntries opening fuel)
    | .blockEnd =>
      let _ ← next
      return []
    | kind => parseFault .blockMapping opening (.expectedToken "<block end>" kind) token.start

def blockValue (ends : TokenKind → Bool) : Nat → NodeReader NodeId
  | 0 => throw .tooDeep
  | fuel + 1 => do
    let token ← peek
    if token.kind == .value then
      let _ ← next
      nodeUnless .blockOrIndentless ends token fuel
    else omitted token.start

def flowItems (opening : Place) (first : Bool) : Nat → NodeReader (List NodeId)
  | 0 => return []
  | fuel + 1 => do
    if ← sees (· == .flowSequenceEnd) then
      let _ ← next
      return []
    else
      if !first then
        let token ← peek
        if token.kind == .flowEntry then
          let _ ← next
        else parseFault .flowSequence opening (.expectedFlow "',' or ']'" token.kind) token.start
      let token ← peek
      match token.kind with
      | .key =>
        let _ ← next
        let pair ← add ⟨.map, .mapping [], token.start⟩
        let item ← fill pair do
          let key ← nodeUnless .flow
            (fun k => k == .value || k == .flowEntry || k == .flowSequenceEnd) token fuel
          let value ← flowValue (fun k => k == .flowEntry || k == .flowSequenceEnd) fuel
          return .mapping [(key, value)]
        return item :: (← flowItems opening false fuel)
      | .flowSequenceEnd =>
        let _ ← next
        return []
      | _ =>
        let item ← node .flow fuel
        return item :: (← flowItems opening false fuel)

def flowEntries (opening : Place) (first : Bool) : Nat → NodeReader (List (NodeId × NodeId))
  | 0 => return []
  | fuel + 1 => do
    if ← sees (· == .flowMappingEnd) then
      let _ ← next
      return []
    else
      if !first then
        let token ← peek
        if token.kind == .flowEntry then
          let _ ← next
        else parseFault .flowMapping opening (.expectedFlow "',' or '\x7d'" token.kind) token.start
      let token ← peek
      match token.kind with
      | .key =>
        let _ ← next
        let key ← nodeUnless .flow
          (fun k => k == .value || k == .flowEntry || k == .flowMappingEnd) token fuel
        let value ← flowValue (fun k => k == .flowEntry || k == .flowMappingEnd) fuel
        return (key, value) :: (← flowEntries opening false fuel)
      | .flowMappingEnd =>
        let _ ← next
        return []
      | _ =>
        let key ← node .flow fuel
        let value ← omitted (← peek).start
        return (key, value) :: (← flowEntries opening false fuel)

def flowValue (ends : TokenKind → Bool) : Nat → NodeReader NodeId
  | 0 => throw .tooDeep
  | fuel + 1 => do
    let token ← peek
    if token.kind == .value then
      let _ ← next
      nodeUnless .flow ends token fuel
    else omitted token.start

end

/-- Skips the markers that end a document. -/
def skipEnds : Nat → NodeReader Unit
  | 0 => return
  | fuel + 1 => do
    if ← sees (· == .documentEnd) then
      let _ ← next
      skipEnds fuel

/-- The directives before a document: at most one version, and each tag handle once. -/
def directives : Nat → Bool → List (List Char × List Char) → NodeReader (List (List Char × List Char))
  | 0, _, handles => return handles
  | fuel + 1, versioned, handles => do
    let token ← peek
    match token.kind with
    | .directive d =>
      let _ ← next
      match d with
      | .version major _ =>
        if versioned then throw (.marked .parsing none .repeatedVersion token.start)
        else if major != 1 then throw (.marked .parsing none .incompatibleVersion token.start)
        else directives fuel true handles
      | .tag handle text =>
        if (handles.lookup handle).isSome then
          throw (.marked .parsing none (.repeatedHandle handle) token.start)
        else directives fuel versioned (handles ++ [(handle, text)])
      | .other => directives fuel versioned handles
    | _ => return handles

/-- The tokens that cannot begin the content of a document. -/
def endsDocument : TokenKind → Bool
  | .directive _ | .documentStart | .documentEnd | .streamEnd => true
  | _ => false

/-- The start of a document after the first: its directives and its marker, or the end of the
stream. -/
def explicitStart (fuel : Nat) : NodeReader (Option Place) := do
  skipEnds fuel
  let first ← peek
  if first.kind == .streamEnd then return none
  else
    let written ← directives fuel false []
    let token ← peek
    if token.kind != .documentStart then
      throw (.marked .parsing none (.expectedToken "'<document start>'" token.kind) token.start)
    let _ ← next
    modify fun r => { r with handles := written ++ defaultHandles }
    return some first.start

def explicitContent (fuel : Nat) : NodeReader NodeId := do
  let token ← peek
  if endsDocument token.kind then omitted token.start
  else node .block fuel

def document (fuel : Nat) : NodeReader (Option NodeId) := do
  let token ← peek
  let read : Option NodeId ← match token.kind with
    | .directive _ | .documentStart | .streamEnd => do
      match ← explicitStart fuel with
      | none => pure none
      | some _ => some <$> explicitContent fuel
    | _ => do
      modify fun r => { r with handles := defaultHandles }
      some <$> node .block fuel
  match read with
  | none => return none
  | some root =>
    if ← sees (· == .documentEnd) then
      let _ ← next
    match ← explicitStart fuel with
    | none => return some root
    | some other =>
      let start := ((← get).nodes.get root).start
      throw (.marked .composing (some (.onlyDocument, some start)) .anotherDocument other)

end NodeReader

/-- The document that a text holds, if it holds one. -/
def Graph.ofText (text : List Char) : Except Fault (Option Graph) := do
  let feed := Feed.ofText text
  let (root, reading) ← (NodeReader.document (4 * feed.tokens.length + 20)).run { feed := feed }
  return root.map fun id => ⟨reading.nodes, id⟩

end ElasticEndpoint.Yaml
