import ElasticEndpoint.Yaml.Scalar.Block
import ElasticEndpoint.Text.Utf8

/-!
Properties of nodes and of documents: anchors and aliases, tags, and the directives before a
document.
-/

namespace ElasticEndpoint.Yaml

/-- The characters of anchor names, directive names and tag handles. -/
def isNameChar (c : Char) : Bool := c.isAlphanum || c == '-' || c == '_'

def endsAnchor (next : Option Char) : Bool :=
  endsToken next || next.any fun c => ['?', ':', ',', ']', '\x7d', '%', '@', Char.ofNat 0x60].contains c

def anchorName (activity : Activity) (cursor : Cursor) : Except Fault (List Char × Cursor) :=
  let (name, next) := cursor.advance.span isNameChar
  if name.isEmpty || !endsAnchor next.peek then
    .error (scanFault activity cursor.place (.expected "alphabetic or numeric character" next.peek) next.place)
  else .ok (name, next)

/-- The activity that a report on a tag handle or a tag address names; directives have handles and
addresses too. -/
structure TagActivity where
  handle : Activity
  address : Activity

def TagActivity.ofNode : TagActivity := ⟨.tag, .tagAddress⟩

def TagActivity.ofDirective : TagActivity := ⟨.directive, .directiveAddress⟩

/-- A tag handle: one exclamation mark, or a name between two. -/
def tagHandle (activity : TagActivity) (start : Place) (cursor : Cursor) : Except Fault (List Char × Cursor) :=
  if cursor.peek != some '!' then
    .error (scanFault activity.handle start (.expected "'!'" cursor.peek) cursor.place)
  else
    let next := cursor.advance
    if next.peek == some ' ' then .ok (['!'], next)
    else
      let (name, last) := next.span isNameChar
      if last.peek == some '!' then .ok ('!' :: name ++ ['!'], last.advance)
      else .error (scanFault activity.handle start (.expected "'!'" last.peek) last.place)

/-- The characters of a tag address, with the percent sign that begins an escape. -/
def isAddressChar (c : Char) : Bool :=
  c.isAlphanum || ['-', ';', '/', '?', ':', '@', '&', '=', '+', '$', ',', '_', '.', '!', '~', '*',
    '\x27', '(', ')', '[', ']', '%'].contains c

/-- The bytes of a run of percent escapes. -/
def percentBytes (activity : Activity) (start : Place) : Nat → Cursor → Except Fault (List UInt8 × Cursor)
  | 0, cursor => .ok ([], cursor)
  | fuel + 1, cursor =>
    if cursor.peek == some '%' then
      let next := cursor.advance
      let expected := Problem.expected "URI escape sequence of 2 hexadecimal numbers"
      match next.peek, next.peekAt 1 with
      | some a, some b =>
        if (hexDigit? a).isNone then .error (scanFault activity start (expected (some a)) next.place)
        else if (hexDigit? b).isNone then .error (scanFault activity start (expected (some b)) next.place)
        else do
          let (more, last) ← percentBytes activity start fuel (next.skip 2)
          return (UInt8.ofNat (hexNumber [a, b]) :: more, last)
      | some a, none =>
        .error (scanFault activity start (expected (if (hexDigit? a).isNone then some a else none)) next.place)
      | none, _ => .error (scanFault activity start (expected none) next.place)
    else .ok ([], cursor)

/-- A tag address: address characters and percent escapes, at least one. -/
def tagAddress (activity : TagActivity) (start : Place) : Nat → Cursor → Except Fault (List Char × Cursor)
  | 0, cursor => .ok ([], cursor)
  | fuel + 1, cursor =>
    match cursor.peek with
    | some '%' => do
      let (bytes, next) ← percentBytes activity.handle start (cursor.rest.length + 1) cursor
      match Text.Utf8.illFormed? bytes with
      | some part =>
        let byte := (bytes[part.position]?).getD 0
        throw (scanFault activity.handle start (.illFormedAddress part byte) cursor.place)
      | none =>
        let (more, last) ← tagAddress activity start fuel next
        return ((Text.Utf8.decode bytes).toList ++ more, last)
    | some c =>
      if isAddressChar c then do
        let (more, last) ← tagAddress activity start fuel cursor.advance
        return (c :: more, last)
      else .ok ([], cursor)
    | none => .ok ([], cursor)

/-- A tag address that must not be empty. -/
def someTagAddress (activity : TagActivity) (start : Place) (cursor : Cursor) :
    Except Fault (List Char × Cursor) := do
  let (text, last) ← tagAddress activity start (cursor.rest.length + 1) cursor
  if last.place.index == cursor.place.index then
    throw (scanFault activity.address start (.expected "URI" last.peek) last.place)
  else return (text, last)

/-- The tag at the cursor: between angle brackets, alone, or a suffix with or without a handle. -/
def tagProperty (cursor : Cursor) : Except Fault (TagName × Cursor) := do
  let start := cursor.place
  let (name, last) ← match cursor.peekAt 1 with
    | some '<' => do
      let (text, next) ← someTagAddress .ofNode start (cursor.skip 2)
      if next.peek == some '>' then pure (TagName.mk none text, next.advance)
      else throw (scanFault .tagAddress start (.expected "'>'" next.peek) next.place)
    | next =>
      if endsToken next then pure (TagName.mk none ['!'], cursor.advance)
      else do
        let word := (cursor.rest.drop 1).takeWhile fun c => !endsWord (some c)
        let (handle, next) ←
          if word.contains '!' then tagHandle .ofNode start cursor else pure (['!'], cursor.advance)
        let (suffix, last) ← someTagAddress .ofNode start next
        pure (TagName.mk (some handle) suffix, last)
  if endsWord last.peek then return (name, last)
  else throw (scanFault .tag start (.expected "' '" last.peek) last.place)

def versionNumber (start : Place) (cursor : Cursor) : Except Fault (Nat × Cursor) :=
  let (digits, next) := cursor.span Char.isDigit
  if digits.isEmpty then .error (scanFault .directive start (.expected "a digit" cursor.peek) cursor.place)
  else .ok (digits.foldl (fun value c => 10 * value + (c.toNat - 48)) 0, next)

/-- The directive at the cursor, with the rest of its line, and where its content stops. -/
def directive (cursor : Cursor) : Except Fault (Directive × Place × Cursor) := do
  let start := cursor.place
  let (name, next) := cursor.advance.span isNameChar
  if name.isEmpty || !endsWord next.peek then
    throw (scanFault .directive start (.expected "alphabetic or numeric character" next.peek) next.place)
  let (content, stop, next) ← match String.ofList name with
    | "YAML" => do
      let (major, next) ← versionNumber start (next.skipWhile (· == ' '))
      if next.peek != some '.' then
        throw (scanFault .directive start (.expected "a digit or '.'" next.peek) next.place)
      let (minor, next) ← versionNumber start next.advance
      if !endsWord next.peek then
        throw (scanFault .directive start (.expected "a digit or ' '" next.peek) next.place)
      pure (Directive.version major minor, next.place, next)
    | "TAG" => do
      let (handle, next) ← tagHandle .ofDirective start (next.skipWhile (· == ' '))
      if next.peek != some ' ' then
        throw (scanFault .directive start (.expected "' '" next.peek) next.place)
      let (text, next) ← someTagAddress .ofDirective start (next.skipWhile (· == ' '))
      if !endsWord next.peek then
        throw (scanFault .directive start (.expected "' '" next.peek) next.place)
      pure (Directive.tag handle text, next.place, next)
    | _ => pure (Directive.other, next.place, next.skipWhile (!isBreak ·))
  let next ← ignoredLine .directive start next
  return (content, stop, next)

end ElasticEndpoint.Yaml
