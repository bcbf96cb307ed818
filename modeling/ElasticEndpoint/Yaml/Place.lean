/-!
Places in a text. A cursor is the text that is left to read together with the place where it
begins; reading a character moves the place by one column, or to the next line after a line break.
-/

namespace ElasticEndpoint.Yaml

/-- A place: the number of characters, line breaks and columns before it. -/
structure Place where
  index : Nat
  line : Nat
  column : Nat
  deriving DecidableEq, Inhabited

def isBreak (c : Char) : Bool :=
  c == '\n' || c == '\r' || c == Char.ofNat 0x85 || c == Char.ofNat 0x2028 || c == Char.ofNat 0x2029

/-- The place after one character; a byte order mark takes no column. -/
def Place.after (place : Place) (c : Char) : Place :=
  if isBreak c then ⟨place.index + 1, place.line + 1, 0⟩
  else if c == Char.ofNat 0xFEFF then ⟨place.index + 1, place.line, place.column⟩
  else ⟨place.index + 1, place.line, place.column + 1⟩

def Place.shown (name : String) (place : Place) : String :=
  s!"  in \"{name}\", line {place.line + 1}, column {place.column + 1}"

/-- What is left to read and where it begins. -/
structure Cursor where
  rest : List Char
  place : Place

namespace Cursor

def ofText (text : List Char) : Cursor := ⟨text, ⟨0, 0, 0⟩⟩

def peek (cursor : Cursor) : Option Char := cursor.rest.head?

def peekAt (cursor : Cursor) (n : Nat) : Option Char := cursor.rest[n]?

def advance (cursor : Cursor) : Cursor :=
  match cursor.rest with
  | [] => cursor
  | c :: rest => ⟨rest, cursor.place.after c⟩

def skip (cursor : Cursor) (n : Nat) : Cursor :=
  ⟨cursor.rest.drop n, (cursor.rest.take n).foldl Place.after cursor.place⟩

/-- The run of characters of a class, and the cursor after it. -/
def span (cursor : Cursor) (belongs : Char → Bool) : List Char × Cursor :=
  let run := cursor.rest.takeWhile belongs
  (run, cursor.skip run.length)

/-- The cursor after a run of characters of a class. -/
def skipWhile (cursor : Cursor) (belongs : Char → Bool) : Cursor := (cursor.span belongs).2

end Cursor

/-- At the end of the text, and at every line break. -/
def endsLine : Option Char → Bool
  | none => true
  | some c => isBreak c

def endsWord : Option Char → Bool
  | none => true
  | some c => isBreak c || c == ' '

/-- At the end of a line, and at a space or a tab. -/
def endsToken : Option Char → Bool
  | none => true
  | some c => isBreak c || c == ' ' || c == '\t'

/-- Reads a line break, as the text it stands for: the two Unicode separators stand for themselves
and every other break for a line feed. Without a break there is no text and no move. -/
def Cursor.lineBreak (cursor : Cursor) : List Char × Cursor :=
  match cursor.rest with
  | '\r' :: '\n' :: _ => (['\n'], cursor.skip 2)
  | c :: _ =>
    if isBreak c then
      ([if c == Char.ofNat 0x2028 || c == Char.ofNat 0x2029 then c else '\n'], cursor.advance)
    else ([], cursor)
  | [] => ([], cursor)

/-- Whether a document marker stands at the cursor: three dashes or three dots before a blank. -/
def Cursor.atDocumentMarker (cursor : Cursor) : Bool :=
  (['-', '-', '-'].isPrefixOf cursor.rest || ['.', '.', '.'].isPrefixOf cursor.rest) &&
    endsToken (cursor.peekAt 3)

end ElasticEndpoint.Yaml
