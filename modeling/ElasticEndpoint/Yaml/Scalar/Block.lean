import ElasticEndpoint.Yaml.Scalar.Quoted

/-!
Block scalars: indented lines below a header. The literal style keeps line breaks, the folded style
joins lines that begin with text; the header may fix the indentation and decide what becomes of the
line breaks at the end.
-/

namespace ElasticEndpoint.Yaml

/-- What becomes of the line breaks at the end of a block scalar. -/
inductive Chomping where
  | strip
  | clip
  | keep
  deriving DecidableEq

def chomping? : Char → Option Chomping
  | '+' => some .keep
  | '-' => some .strip
  | _ => none

/-- An indentation digit of a header; zero is no indentation. -/
def indentDigit (start : Place) (cursor : Cursor) : Except Fault (Option Nat × Cursor) :=
  match cursor.peek with
  | some c =>
    if c == '0' then .error (scanFault .blockScalar start .zeroIndentation cursor.place)
    else if c.isDigit then .ok (some (c.toNat - 48), cursor.advance)
    else .ok (none, cursor)
  | none => .ok (none, cursor)

def blockHeader (start : Place) (cursor : Cursor) : Except Fault (Chomping × Option Nat × Cursor) := do
  let (chomping, digit, last) ← match cursor.peek.bind chomping? with
    | some chomping => do
      let (digit, next) ← indentDigit start cursor.advance
      pure (chomping, digit, next)
    | none => do
      let (digit, next) ← indentDigit start cursor
      match digit, next.peek.bind chomping? with
      | some _, some chomping => pure (chomping, digit, next.advance)
      | _, _ => pure (Chomping.clip, digit, next)
  if endsWord last.peek then return (chomping, digit, last)
  else throw (scanFault .blockScalar start (.expected "chomping or indentation indicators" last.peek) last.place)

/-- The rest of a line that may hold nothing but a comment, with the break at its end. -/
def ignoredLine (activity : Activity) (start : Place) (cursor : Cursor) : Except Fault Cursor :=
  let next := cursor.skipWhile (· == ' ')
  let next := if next.peek == some '#' then next.skipWhile (!isBreak ·) else next
  if endsLine next.peek then .ok next.lineBreak.2
  else .error (scanFault activity start (.expected "a comment or a line break" next.peek) next.place)

/-- The empty lines before the first text of a block scalar, with the deepest indentation seen. -/
def leadingBreaks : Nat → Nat → Cursor → List Char × Nat × Cursor
  | 0, deepest, cursor => ([], deepest, cursor)
  | fuel + 1, deepest, cursor =>
    if cursor.peek == some ' ' then
      let next := cursor.advance
      leadingBreaks fuel (max deepest next.place.column) next
    else if cursor.peek.any isBreak then
      let (text, next) := cursor.lineBreak
      let (more, deepest, last) := leadingBreaks fuel deepest next
      (text ++ more, deepest, last)
    else ([], deepest, cursor)

def skipIndent (indent : Nat) (cursor : Cursor) : Cursor :=
  cursor.skip ((cursor.rest.take (indent - cursor.place.column)).takeWhile (· == ' ')).length

/-- The empty lines between two lines of a block scalar; every line break is kept. -/
def blockBreaks (indent : Nat) : Nat → Cursor → List Char × Cursor
  | 0, cursor => ([], cursor)
  | fuel + 1, cursor =>
    let next := skipIndent indent cursor
    if next.peek.any isBreak then
      let (text, after) := next.lineBreak
      let (more, last) := blockBreaks indent fuel after
      (text ++ more, last)
    else ([], next)

/-- The lines of a block scalar from one at the indentation on: the text so far, then the break
after the last line and the breaks behind it. -/
def blockLines (folded : Bool) (indent : Nat) : Nat → Cursor → List Char × List Char × List Char × Cursor
  | 0, cursor => ([], [], [], cursor)
  | fuel + 1, cursor =>
    let startsWithText := !cursor.peek.any fun c => c == ' ' || c == '\t'
    let (line, next) := cursor.span (!isBreak ·)
    let (lineEnd, next) := next.lineBreak
    let (breaks, next) := blockBreaks indent (next.rest.length + 1) next
    if next.place.column == indent && !next.rest.isEmpty then
      let joined := folded && lineEnd == ['\n'] && startsWithText &&
        !next.peek.any fun c => c == ' ' || c == '\t'
      let glue := if joined then (if breaks.isEmpty then [' '] else []) else lineEnd
      let (more, lastEnd, tail, last) := blockLines folded indent fuel next
      (line ++ glue ++ breaks ++ more, lastEnd, tail, last)
    else (line, lineEnd, breaks, next)

/-- The block scalar at the cursor, which stands at its indicator, inside a collection at an
indentation. -/
def blockScalar (folded : Bool) (parent : Int) (cursor : Cursor) : Except Fault (List Char × Cursor) := do
  let start := cursor.place
  let (chomping, digit, next) ← blockHeader start cursor.advance
  let next ← ignoredLine .blockScalar start next
  let least := (max (parent + 1) 1).toNat
  let (breaks, indent, next) := match digit with
    | none =>
      let (breaks, deepest, next) := leadingBreaks (next.rest.length + 1) 0 next
      (breaks, max least deepest, next)
    | some digit =>
      let indent := least + digit - 1
      let (breaks, next) := blockBreaks indent (next.rest.length + 1) next
      (breaks, indent, next)
  let (text, lineEnd, tail, last) :=
    if next.place.column == indent && !next.rest.isEmpty then
      let (text, lineEnd, tail, last) := blockLines folded indent (next.rest.length + 1) next
      (breaks ++ text, lineEnd, tail, last)
    else ([], [], breaks, next)
  return (text ++ (if chomping == .strip then [] else lineEnd) ++ (if chomping == .keep then tail else []), last)

end ElasticEndpoint.Yaml
