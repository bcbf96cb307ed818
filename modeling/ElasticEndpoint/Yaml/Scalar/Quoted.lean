import ElasticEndpoint.Yaml.Fault

/-!
Quoted scalars. Between apostrophes every character stands for itself and a doubled apostrophe for
one; between double quotes a backslash begins an escape. Line breaks are folded in both.
-/

namespace ElasticEndpoint.Yaml

def scanFault (activity : Activity) (start : Place) (problem : Problem) (place : Place) : Fault :=
  .marked .scanning (some (activity, some start)) problem place

def namedEscape? : Char → Option Char
  | '0' => some (Char.ofNat 0)
  | 'a' => some (Char.ofNat 7)
  | 'b' => some (Char.ofNat 8)
  | 't' => some '\t'
  | '\t' => some '\t'
  | 'n' => some '\n'
  | 'v' => some (Char.ofNat 11)
  | 'f' => some (Char.ofNat 12)
  | 'r' => some '\r'
  | 'e' => some (Char.ofNat 27)
  | ' ' => some ' '
  | '\x22' => some '\x22'
  | '\\' => some '\\'
  | '/' => some '/'
  | 'N' => some (Char.ofNat 0x85)
  | '_' => some (Char.ofNat 0xA0)
  | 'L' => some (Char.ofNat 0x2028)
  | 'P' => some (Char.ofNat 0x2029)
  | _ => none

/-- The number of hexadecimal digits after an escape letter. -/
def escapeLength? : Char → Option Nat
  | 'x' => some 2
  | 'u' => some 4
  | 'U' => some 8
  | _ => none

def hexDigit? (c : Char) : Option Nat :=
  if c.isDigit then some (c.toNat - 48)
  else if 'a' ≤ c && c ≤ 'f' then some (c.toNat - 87)
  else if 'A' ≤ c && c ≤ 'F' then some (c.toNat - 55)
  else none

def hexNumber (digits : List Char) : Nat :=
  digits.foldl (fun value c => 16 * value + (hexDigit? c).getD 0) 0

/-- The text of one code point. A number beyond the last code point is none. -/
def codePoint (n : Nat) : Except Fault ScalarText :=
  if 0x80000000 ≤ n then .error (.conversion .codePointOverflow)
  else if 0x110000 ≤ n then .error (.conversion .codePointRange)
  else .ok ⟨[Text.pointChar n], if Text.isHalf n then [(0, n)] else []⟩

def ScalarText.append (a b : ScalarText) : ScalarText :=
  ⟨a.chars ++ b.chars, a.halves ++ b.halves.map fun half => (half.1 + a.chars.length, half.2)⟩

/-- The further line breaks after a first one in a quoted scalar, with the blanks around them
dropped; a document marker cannot stand there. -/
def quotedBreaks (start : Place) : Nat → Cursor → Except Fault (List Char × Cursor)
  | 0, cursor => .ok ([], cursor)
  | fuel + 1, cursor =>
    if cursor.atDocumentMarker then .error (scanFault .quotedScalar start .documentSeparator cursor.place)
    else
      let next := cursor.skipWhile fun c => c == ' ' || c == '\t'
      if next.peek.any isBreak then do
        let (text, after) := next.lineBreak
        let (more, last) ← quotedBreaks start fuel after
        return (text ++ more, last)
      else .ok ([], next)

/-- The escape at the cursor, which stands behind the backslash. -/
def escaped (start : Place) (cursor : Cursor) : Except Fault (ScalarText × Cursor) :=
  match cursor.peek with
  | none => .error (scanFault .doubleQuoted start (.unknownEscape none) cursor.place)
  | some c =>
    match namedEscape? c, escapeLength? c with
    | some d, _ => .ok (⟨[d], []⟩, cursor.advance)
    | none, some length =>
      let next := cursor.advance
      let digits := next.rest.take length
      match digits.find? fun d => (hexDigit? d).isNone with
      | some d => .error (scanFault .doubleQuoted start
          (.expected s!"escape sequence of {length} hexadecimal numbers" (some d)) next.place)
      | none =>
        if digits.length < length then .error (scanFault .doubleQuoted start
          (.expected s!"escape sequence of {length} hexadecimal numbers" none) next.place)
        else do
          let text ← codePoint (hexNumber digits)
          return (text, next.skip length)
    | none, none =>
      if isBreak c then do
        let after := cursor.lineBreak.2
        let (breaks, last) ← quotedBreaks start (after.rest.length + 1) after
        return (⟨breaks, []⟩, last)
      else .error (scanFault .doubleQuoted start (.unknownEscape (some c)) cursor.place)

inductive QuotedPiece where
  | finished
  | blank
  | backslash
  | chars (text : List Char) (length : Nat)

/-- The next piece of a quoted scalar: an escape, a character for itself, a doubled apostrophe, or
a place where the run of text ends. -/
def quotedPiece (double : Bool) : List Char → QuotedPiece
  | [] => .finished
  | '\x27' :: rest =>
    if double then .chars ['\x27'] 1
    else if rest.head? == some '\x27' then .chars ['\x27'] 2
    else .finished
  | '\x22' :: _ => if double then .finished else .chars ['\x22'] 1
  | '\\' :: _ => if double then .backslash else .chars ['\\'] 1
  | c :: _ => if c == ' ' || c == '\t' || isBreak c then .blank else .chars [c] 1

/-- The blanks at the cursor of a quoted scalar: kept inside a line and folded at its end. -/
def quotedSpaces (start : Place) (cursor : Cursor) : Except Fault (List Char × Cursor) :=
  let (blanks, next) := cursor.span fun c => c == ' ' || c == '\t'
  match next.peek with
  | none => .error (scanFault .quotedScalar start .endOfStream next.place)
  | some c =>
    if isBreak c then do
      let (text, after) := next.lineBreak
      let (breaks, last) ← quotedBreaks start (after.rest.length + 1) after
      return ((if text != ['\n'] then text else if breaks.isEmpty then [' '] else []) ++ breaks, last)
    else .ok (blanks, next)

/-- The content of a quoted scalar up to its closing quote. -/
def quotedFrom (double : Bool) (start : Place) : Nat → Cursor → Except Fault (ScalarText × Cursor)
  | 0, cursor => .error (scanFault .quotedScalar start .endOfStream cursor.place)
  | fuel + 1, cursor =>
    match quotedPiece double cursor.rest with
    | .finished =>
      if cursor.rest.isEmpty then .error (scanFault .quotedScalar start .endOfStream cursor.place)
      else .ok (⟨[], []⟩, cursor)
    | .blank => do
      let (text, next) ← quotedSpaces start cursor
      let (more, last) ← quotedFrom double start fuel next
      return (ScalarText.append ⟨text, []⟩ more, last)
    | .backslash => do
      let (text, next) ← escaped start cursor.advance
      let (more, last) ← quotedFrom double start fuel next
      return (text.append more, last)
    | .chars text length => do
      let (more, last) ← quotedFrom double start fuel (cursor.skip length)
      return (ScalarText.append ⟨text, []⟩ more, last)

/-- The quoted scalar at the cursor, which stands at its opening quote. -/
def quotedScalar (double : Bool) (cursor : Cursor) : Except Fault (ScalarText × Cursor) := do
  let (content, last) ← quotedFrom double cursor.place (cursor.rest.length + 1) cursor.advance
  return (content, last.advance)

end ElasticEndpoint.Yaml
