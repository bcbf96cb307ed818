import ElasticEndpoint.Yaml.Property
import ElasticEndpoint.Yaml.Scalar.Plain

/-!
The feed of tokens of a text. A token is released once it is certain that no mapping key has to be
put in front of it, which a colon further on the same line can still demand; so a fault further on
is met only when the tokens before it have been used up.
-/

namespace ElasticEndpoint.Yaml

/-- A place where a mapping key may have begun: the number of tokens before it, whether the
indentation demands a key there, and the place. -/
structure KeyPlace where
  token : Nat
  required : Bool
  place : Place

/-- The state of scanning: the text left, the depth of brackets, the tokens found and not yet
released, the number of tokens released, whether a key may begin here, the possible keys by depth
of brackets, and the indentations of the open block collections with the innermost first. -/
structure Scanner where
  cursor : Cursor
  flow : Nat := 0
  found : List Token := []
  released : Nat := 0
  keyAllowed : Bool := true
  keys : List (Nat × KeyPlace) := []
  indent : Int := -1
  outer : List Int := []
  done : Bool := false

namespace Scanner

def keyHere (s : Scanner) : Option KeyPlace := s.keys.lookup s.flow

def missingKey (s : Scanner) (key : KeyPlace) : Fault :=
  scanFault .simpleKey key.place .missingColon s.cursor.place

/-- A key ends on the line where it begins and spans at most 1024 characters. -/
def isStale (s : Scanner) (key : KeyPlace) : Bool :=
  key.place.line != s.cursor.place.line || 1024 < s.cursor.place.index - key.place.index

/-- Forgets the possible keys that have become too old; a demanded one among them is a fault. -/
def dropStaleKeys (s : Scanner) : Except Fault Scanner :=
  match s.keys.find? fun entry => s.isStale entry.2 && entry.2.required with
  | some entry => .error (s.missingKey entry.2)
  | none => .ok { s with keys := s.keys.filter fun entry => !s.isStale entry.2 }

/-- Forgets the possible key at the present depth; a demanded one is a fault. -/
def dropKey (s : Scanner) : Except Fault Scanner :=
  match s.keyHere with
  | none => .ok s
  | some key =>
    if key.required then .error (s.missingKey key)
    else .ok { s with keys := s.keys.filter fun entry => entry.1 != s.flow }

def noteKey (s : Scanner) : Except Fault Scanner :=
  if s.keyAllowed then do
    let required := s.flow == 0 && s.indent == s.cursor.place.column
    let s ← s.dropKey
    return { s with keys := s.keys ++ [(s.flow, ⟨s.released + s.found.length, required, s.cursor.place⟩)] }
  else .ok s

/-- Adds a token without extent. -/
def mark (s : Scanner) (kind : TokenKind) : Scanner :=
  { s with found := s.found ++ [⟨kind, s.cursor.place, s.cursor.place⟩] }

def take (s : Scanner) (kind : TokenKind) (next : Cursor) : Scanner :=
  { s with found := s.found ++ [⟨kind, s.cursor.place, next.place⟩], cursor := next }

/-- Closes the block collections indented deeper than a column. -/
def closeTo (column : Int) : List Int → Scanner → Scanner
  | outer, s =>
    if column < s.indent then
      match outer with
      | [] => s
      | indent :: rest => closeTo column rest { s.mark .blockEnd with indent := indent, outer := rest }
    else s

/-- Outside brackets, a line indented less than a block collection closes it. -/
def unwind (s : Scanner) (column : Int) : Scanner :=
  if s.flow == 0 then closeTo column s.outer s else s

/-- Opens a block collection at a column unless one is open there. -/
def openAt (s : Scanner) (column : Nat) : Bool × Scanner :=
  if s.indent < column then (true, { s with indent := column, outer := s.indent :: s.outer })
  else (false, s)

/-- Skips spaces, comments and line breaks before the next token; outside brackets a key may begin
on a new line. -/
def skipBlanks : Nat → Scanner → Scanner
  | 0, s => s
  | fuel + 1, s =>
    let cursor := s.cursor.skipWhile (· == ' ')
    let cursor := if cursor.peek == some '#' then cursor.skipWhile (!isBreak ·) else cursor
    if cursor.peek.any isBreak then
      skipBlanks fuel { s with cursor := cursor.lineBreak.2, keyAllowed := s.keyAllowed || s.flow == 0 }
    else { s with cursor := cursor }

def fetchEnd (s : Scanner) : Except Fault Scanner := do
  let s ← (s.unwind (-1)).dropKey
  return { s.mark .streamEnd with keyAllowed := false, keys := [], done := true }

def fetchDirective (s : Scanner) : Except Fault Scanner := do
  let s ← (s.unwind (-1)).dropKey
  let (content, stop, next) ← directive s.cursor
  return { s with
    found := s.found ++ [⟨.directive content, s.cursor.place, stop⟩], cursor := next, keyAllowed := false }

def fetchMarker (s : Scanner) (kind : TokenKind) : Except Fault Scanner := do
  let s ← (s.unwind (-1)).dropKey
  return { s.take kind (s.cursor.skip 3) with keyAllowed := false }

def fetchOpening (s : Scanner) (kind : TokenKind) : Except Fault Scanner := do
  let s ← s.noteKey
  return { s.take kind s.cursor.advance with flow := s.flow + 1, keyAllowed := true }

def fetchClosing (s : Scanner) (kind : TokenKind) : Except Fault Scanner := do
  let s ← s.dropKey
  return { s.take kind s.cursor.advance with flow := s.flow - 1, keyAllowed := false }

def fetchComma (s : Scanner) : Except Fault Scanner := do
  let s ← s.dropKey
  return { s.take .flowEntry s.cursor.advance with keyAllowed := true }

def fetchDash (s : Scanner) : Except Fault Scanner := do
  let s ←
    if s.flow != 0 then pure s
    else if !s.keyAllowed then throw (.marked .scanning none .entryNotAllowed s.cursor.place)
    else
      let (opened, next) := s.openAt s.cursor.place.column
      pure (if opened then next.mark .blockSequenceStart else next)
  let s ← s.dropKey
  return { s.take .blockEntry s.cursor.advance with keyAllowed := true }

def fetchKey (s : Scanner) : Except Fault Scanner := do
  let s ←
    if s.flow != 0 then pure s
    else if !s.keyAllowed then throw (.marked .scanning none .keyNotAllowed s.cursor.place)
    else
      let (opened, next) := s.openAt s.cursor.place.column
      pure (if opened then next.mark .blockMappingStart else next)
  let s ← s.dropKey
  return { s.take .key s.cursor.advance with keyAllowed := s.flow == 0 }

/-- Puts tokens in front of the one that a possible key begins with. -/
def insertBefore (s : Scanner) (key : KeyPlace) (kinds : List TokenKind) : Scanner :=
  let position := key.token - s.released
  { s with found := s.found.take position ++
      kinds.map (fun kind => ⟨kind, key.place, key.place⟩) ++ s.found.drop position }

/-- A colon before a value: it turns a possible key into a key, and otherwise needs a place where a
key could begin. -/
def fetchValue (s : Scanner) : Except Fault Scanner := do
  let s ← match s.keyHere with
    | some key =>
      let s := { s with keys := s.keys.filter fun entry => entry.1 != s.flow, keyAllowed := false }
      if s.flow != 0 then pure (s.insertBefore key [.key])
      else
        let (opened, next) := s.openAt key.place.column
        pure (next.insertBefore key (if opened then [.blockMappingStart, .key] else [.key]))
    | none =>
      let s ←
        if s.flow != 0 then pure s
        else if !s.keyAllowed then throw (.marked .scanning none .valueNotAllowed s.cursor.place)
        else
          let (opened, next) := s.openAt s.cursor.place.column
          pure (if opened then next.mark .blockMappingStart else next)
      dropKey { s with keyAllowed := s.flow == 0 }
  return s.take .value s.cursor.advance

/-- An alias or an anchor. -/
def fetchName (s : Scanner) (activity : Activity) (kind : List Char → TokenKind) : Except Fault Scanner := do
  let s ← s.noteKey
  let (name, next) ← anchorName activity s.cursor
  return { s.take (kind name) next with keyAllowed := false }

def fetchTag (s : Scanner) : Except Fault Scanner := do
  let s ← s.noteKey
  let (name, next) ← tagProperty s.cursor
  return { s.take (.tag name) next with keyAllowed := false }

/-- A block scalar; a key may begin behind it. -/
def fetchBlock (s : Scanner) (folded : Bool) : Except Fault Scanner := do
  let s ← s.dropKey
  let (text, next) ← blockScalar folded s.indent s.cursor
  return { s.take (.scalar false ⟨text, []⟩) next with keyAllowed := true }

def fetchQuoted (s : Scanner) (double : Bool) : Except Fault Scanner := do
  let s ← s.noteKey
  let (content, next) ← quotedScalar double s.cursor
  return { s.take (.scalar false content) next with keyAllowed := false }

/-- A plain scalar; a key may begin behind it when a line ended there. -/
def fetchPlain (s : Scanner) : Except Fault Scanner := do
  let s ← s.noteKey
  let text := plainScalar (s.flow != 0) (s.indent + 1) s.cursor
  return { s with
    found := s.found ++ [⟨.scalar true ⟨text.chars, []⟩, s.cursor.place, text.stop⟩],
    cursor := text.cursor,
    keyAllowed := text.crossed }

/-- The indicators that no plain scalar begins with, unless a character follows that is no blank
and the indicator is a dash, or outside brackets a question mark or a colon. -/
def startsPlain (s : Scanner) (c : Char) : Bool :=
  let reserved := ['-', '?', ':', ',', '[', ']', '\x7b', '\x7d', '#', '&', '*', '!', '|', '>', '\x27',
    '\x22', '%', '@', Char.ofNat 0x60]
  !(endsToken (some c) || reserved.contains c) ||
    (!endsToken (s.cursor.peekAt 1) && (c == '-' || (s.flow == 0 && (c == '?' || c == ':'))))

/-- Whether three equal characters at the first column mark a document. -/
def atMarker (s : Scanner) (c : Char) : Bool :=
  s.cursor.place.column == 0 && [c, c, c].isPrefixOf s.cursor.rest && endsToken (s.cursor.peekAt 3)

/-- Finds the next token, with the tokens that indentation puts before it. -/
def fetch (s : Scanner) : Except Fault Scanner := do
  let start :=
    if s.cursor.place.index == 0 && s.cursor.peek == some (Char.ofNat 0xFEFF) then s.cursor.advance else s.cursor
  let s ← (skipBlanks (start.rest.length + 1) { s with cursor := start }).dropStaleKeys
  let s := s.unwind s.cursor.place.column
  let blankFollows := endsToken (s.cursor.peekAt 1)
  match s.cursor.peek with
  | none => s.fetchEnd
  | some c =>
    if c == '%' && s.cursor.place.column == 0 then s.fetchDirective
    else if c == '-' && s.atMarker c then s.fetchMarker .documentStart
    else if c == '.' && s.atMarker c then s.fetchMarker .documentEnd
    else if c == '[' then s.fetchOpening .flowSequenceStart
    else if c == '\x7b' then s.fetchOpening .flowMappingStart
    else if c == ']' then s.fetchClosing .flowSequenceEnd
    else if c == '\x7d' then s.fetchClosing .flowMappingEnd
    else if c == ',' then s.fetchComma
    else if c == '-' && blankFollows then s.fetchDash
    else if c == '?' && (s.flow != 0 || blankFollows) then s.fetchKey
    else if c == ':' && (s.flow != 0 || blankFollows) then s.fetchValue
    else if c == '*' then s.fetchName .alias .alias
    else if c == '&' then s.fetchName .anchor .anchor
    else if c == '!' then s.fetchTag
    else if c == '|' && s.flow == 0 then s.fetchBlock false
    else if c == '>' && s.flow == 0 then s.fetchBlock true
    else if c == '\x27' then s.fetchQuoted false
    else if c == '\x22' then s.fetchQuoted true
    else if s.startsPlain c then s.fetchPlain
    else throw (.marked .scanning (some (.nextToken, none)) (.cannotStartToken (some c)) s.cursor.place)

/-- Whether the next token to release may still get a key in front of it. -/
def headMayBeKey (s : Scanner) : Bool :=
  s.keys.any fun entry => entry.2.token == s.released &&
    s.keys.all fun other => s.released ≤ other.2.token

end Scanner

/-- Tokens in order, and the fault that stands behind the last of them if the text is not read to
its end. -/
structure Feed where
  tokens : List Token
  fault : Option Fault

/-- The end of what has been read of a text, and the fault behind it. -/
structure Boundary where
  index : Nat
  fault : Fault

/-- Finds the next token before a boundary; whatever would need a character beyond it meets the fault
there. -/
def Scanner.fetchBefore (boundary : Option Boundary) (s : Scanner) : Except Fault Scanner :=
  match boundary, s.fetch with
  | none, outcome => outcome
  | some boundary, .ok next =>
    if next.cursor.place.index + 1 < boundary.index then .ok next else .error boundary.fault
  | some boundary, .error fault =>
    if fault.place?.all fun place => place.index + 1 < boundary.index then .error fault
    else .error boundary.fault

/-- Releases tokens as soon as they are certain, behind those already released, the last of which
comes first. -/
def Scanner.run (boundary : Option Boundary) : Nat → List Token → Scanner → Feed
  | 0, tokens, _ => ⟨tokens.reverse, none⟩
  | fuel + 1, tokens, s =>
    let waiting : Except Fault (Bool × Scanner) :=
      if s.done then .ok (false, s)
      else if s.found.isEmpty then .ok (true, s)
      else do
        let s ← s.dropStaleKeys
        return (s.headMayBeKey, s)
    match waiting with
    | .error fault => ⟨tokens.reverse, some fault⟩
    | .ok (true, s) => match s.fetchBefore boundary with
      | .error fault => ⟨tokens.reverse, some fault⟩
      | .ok s => run boundary fuel tokens s
    | .ok (false, s) => match s.found with
      | [] => ⟨tokens.reverse, none⟩
      | token :: rest => run boundary fuel (token :: tokens) { s with found := rest, released := s.released + 1 }

def isReadable (c : Char) : Bool :=
  let n := c.toNat
  n == 9 || n == 10 || n == 13 || (0x20 ≤ n && n ≤ 0x7E) || n == 0x85 || (0xA0 ≤ n && n ≤ 0xFFFD) || 0x10000 ≤ n

/-- The length of the pieces in which a text is read. -/
def pieceLength : Nat := 4096

/-- The start of the piece that holds a place; the first two pieces are read as one. -/
def pieceStart (index : Nat) : Nat := if index < 2 * pieceLength then 0 else index / pieceLength * pieceLength

/-- The feed of a text. A character that no text may hold is met when its piece is read, which is as
late as the tokens before it allow. -/
def Feed.ofText (text : List Char) : Feed :=
  let run := fun (boundary : Option Boundary) (text : List Char) =>
    Scanner.run boundary (10 * text.length + 20) [] { cursor := .ofText text, released := 1 }
  match text.findIdx? fun c => !isReadable c with
  | none => run none text
  | some index =>
    let fault := Fault.unreadable ((text[index]?).getD ' ') index
    let start := pieceStart index
    if start == 0 then ⟨[], some fault⟩ else run (some ⟨start, fault⟩) (text.take start)

end ElasticEndpoint.Yaml
