import ElasticEndpoint.Yaml.Place

/-!
Plain scalars: text without quotes. A plain scalar ends before a colon that a blank follows, before
a comment, and, inside brackets, before the characters that separate items. Line breaks inside it
are folded: one becomes a space, and each further one a line feed.
-/

namespace ElasticEndpoint.Yaml

def endsPlain (flow : Bool) (c : Char) (next : Option Char) : Bool :=
  endsToken (some c) ||
    (c == ':' && (endsToken next || (flow && next.any fun d => [',', '[', ']', '\x7b', '\x7d'].contains d))) ||
    (flow && [',', '?', '[', ']', '\x7b', '\x7d'].contains c)

/-- The longest piece of a plain scalar without blanks. -/
def plainWord (flow : Bool) : List Char → List Char
  | [] => []
  | c :: rest => if endsPlain flow c rest.head? then [] else c :: plainWord flow rest

/-- The line breaks and spaces after a first line break: the breaks as text, or `none` where a
document marker ends the scalar. -/
def plainBreaks : Nat → Cursor → Option (List Char) × Cursor
  | 0, cursor => (some [], cursor)
  | fuel + 1, cursor =>
    if cursor.peek == some ' ' then plainBreaks fuel cursor.advance
    else if cursor.peek.any isBreak then
      let (text, next) := cursor.lineBreak
      if next.atDocumentMarker then (none, next)
      else
        let (more, last) := plainBreaks fuel next
        (more.map (text ++ ·), last)
    else (some [], cursor)

/-- What separates two pieces of a plain scalar: the folded text, the cursor after it, and whether
a line ended in between. Nothing separates them where the scalar ends. -/
def plainSpaces (cursor : Cursor) : List Char × Cursor × Bool :=
  let (blanks, next) := cursor.span (· == ' ')
  if next.peek.any isBreak then
    let (text, next) := next.lineBreak
    if next.atDocumentMarker then ([], next, true)
    else
      let (breaks, last) := plainBreaks next.rest.length next
      match breaks with
      | none => ([], last, true)
      | some breaks =>
        ((if text != ['\n'] then text else if breaks.isEmpty then [' '] else []) ++ breaks, last, true)
  else (blanks, next, false)

/-- A plain scalar as read: its text, where it stops, the cursor after the blanks behind it, and
whether a line ended there. -/
structure PlainText where
  chars : List Char
  stop : Place
  cursor : Cursor
  crossed : Bool

/-- The rest of a plain scalar, given what separates it from the piece before. In block context a
line indented less than the collection ends the scalar. -/
def plainFrom (flow : Bool) (indent : Int) : Nat → List Char → Place → Bool → Cursor → PlainText
  | 0, _, stop, crossed, cursor => ⟨[], stop, cursor, crossed⟩
  | fuel + 1, separator, stop, crossed, cursor =>
    let word := if cursor.peek == some '#' then [] else plainWord flow cursor.rest
    if word.isEmpty then ⟨[], stop, cursor, crossed⟩
    else
      let next := cursor.skip word.length
      let (spaces, after, crossed) := plainSpaces next
      if spaces.isEmpty || after.peek == some '#' || (!flow && after.place.column < indent) then
        ⟨separator ++ word, next.place, after, crossed⟩
      else
        let more := plainFrom flow indent fuel spaces next.place crossed after
        { more with chars := separator ++ word ++ more.chars }

def plainScalar (flow : Bool) (indent : Int) (cursor : Cursor) : PlainText :=
  plainFrom flow indent (cursor.rest.length + 1) [] cursor.place false cursor

end ElasticEndpoint.Yaml
