import ElasticEndpoint.Console.Markup
import ElasticEndpoint.Text.Width

/-!
Lines of limited width. A text falls into lines where it says so, and where its next word does not
fit any more. A word that fits on no line is cut into pieces, or stands on a line of its own that is
cut short. Tabs lead to the next column that is a multiple of eight.
-/

namespace ElasticEndpoint.Console

def blanks (count : Nat) : List Char := List.replicate count ' '

def fillCells (width : Nat) (text : List Char) : List Char := text ++ blanks (width - Text.cells text)

/-- The beginning of a row of clusters that fills a number of cells; a blank stands for half of a wide
character. -/
def takeCells (width : Nat) : List Text.Cluster → List Char
  | [] => blanks width
  | cluster :: rest =>
    if width == 0 then []
    else if width < cluster.cells then [' ']
    else cluster.text ++ takeCells (width - cluster.cells) rest

def cropCells (width : Nat) (text : List Char) : List Char :=
  if Text.cells text ≤ width then text else takeCells width (Text.clusters text)

/-- The pieces of a text of which each fills at most so many cells, behind a piece that has been begun
and fills some. -/
def chopFrom (width : Nat) (piece : List Char) (used : Nat) : List Text.Cluster → List (List Char)
  | [] => if used == 0 then [] else [piece]
  | cluster :: rest =>
    if width < used + cluster.cells then piece :: chopFrom width cluster.text cluster.cells rest
    else chopFrom width (piece ++ cluster.text) (used + cluster.cells) rest

/-- The pieces of a text of which each fills at most so many cells. -/
def chopCells (width : Nat) (text : List Char) : List (List Char) := chopFrom width [] 0 (Text.clusters text)

/-- What becomes of text that is too wide: a long word is cut into pieces, or a line that is too long
ends in an ellipsis. -/
inductive Overflow where
  | fold
  | ellipsis
  deriving DecidableEq

def Overflow.truncate (overflow : Overflow) (width : Nat) (line : List Char) : List Char :=
  if Text.cells line ≤ width then line
  else match overflow with
    | .fold => cropCells width line
    | .ellipsis => cropCells (width - 1) line ++ ['…']

/-- The words of a text, each with the blanks behind it and the first one with those before it too; at
most so many of them. -/
def wordsWithin : Nat → List Char → List (List Char)
  | 0, _ => []
  | fuel + 1, text =>
    let before := text.takeWhile Text.isBlank
    let rest := text.drop before.length
    if rest.isEmpty then []
    else
      let word := rest.takeWhile fun c => !Text.isBlank c
      let behind := rest.drop word.length
      let blanks := behind.takeWhile Text.isBlank
      (before ++ word ++ blanks) :: wordsWithin fuel (behind.drop blanks.length)

/-- A line that is being filled: the place of the next word, the cells used so far, and the places
where lines begin. -/
structure Filling where
  place : Nat := 0
  used : Nat := 0
  breaks : List Nat := []

/-- A filling with lines that begin at some places; the text itself needs no beginning. -/
def Filling.breakAt (filling : Filling) (places : List Nat) : Filling :=
  { filling with breaks := filling.breaks ++ places.filter (0 < ·) }

def placesOf (place : Nat) : List (List Char) → List Nat
  | [] => []
  | piece :: rest => place :: placesOf (place + piece.length) rest

def Filling.add (overflow : Overflow) (width : Nat) (filling : Filling) (word : List Char) : Filling :=
  let length := Text.cells (Text.trimEnd Text.isBlank word)
  let behind := filling.place + word.length
  if filling.used + length ≤ width then
    { filling with place := behind, used := filling.used + Text.cells word }
  else if width < length && overflow == .fold then
    let pieces := chopCells width word
    { filling.breakAt (placesOf filling.place pieces) with
      place := behind, used := Text.cells (pieces.getLastD []) }
  else { filling.breakAt [filling.place] with place := behind, used := Text.cells word }

def cutAt (place : Nat) (text : List Char) : List Nat → List (List Char)
  | [] => [text]
  | next :: rest => text.take (next - place) :: cutAt next (text.drop (next - place)) rest

/-- A line without the blanks at its end as far as they stand out. -/
def trimOverhang (width : Nat) (line : List Char) : List Char :=
  let blanks := (line.reverse.takeWhile Text.isBlank).length
  line.take (line.length - min blanks (line.length - width))

def fillLines (overflow : Overflow) (width : Nat) (text : List Char) : List (List Char) :=
  let filling := (wordsWithin (text.length + 1) text).foldl (Filling.add overflow width) {}
  (cutAt 0 text filling.breaks).map fun line => overflow.truncate width (trimOverhang width line)

/-- Parts between tabs joined, each tab led to the next column that is a multiple of eight, from a
column on. -/
def joinColumns (column : Nat) : List (List Char) → List Char
  | [] => []
  | [part] => part
  | part :: rest =>
    let behind := column + Text.cells part
    let gap := 8 - behind % 8
    part ++ blanks gap ++ joinColumns (behind + gap) rest

/-- A line with its tabs led to the next column that is a multiple of eight. -/
def expandTabs (line : List Char) : List Char := joinColumns 0 (Text.splitOn '\t' line)

def wrap (overflow : Overflow) (width : Nat) (text : List Char) : List (List Char) :=
  (Text.splitOn '\n' text).flatMap fun line => fillLines overflow width (expandTabs line)

def Span.isOnLine (span : Span) (text : List Char) : Bool :=
  ((text.drop span.first).take (span.behind - span.first)).any (· != '\n')

/-- The lines of what text with markup shows. The style of every span is read for it; a span without
text is forgotten where the text falls into parts. -/
def Shown.lines (shown : Shown) (overflow : Overflow) (width : Nat) : Except MarkupFault (List (List Char)) :=
  let lines := wrap overflow width shown.text
  let isWhole := lines.length == 1 && !shown.text.contains '\t'
  match shown.spans.find? fun span => (isWhole || span.isOnLine shown.text) &&
      readStyle span.style matches .error .unreadableNumber with
  | some span => .error (.unreadableColor (String.ofList span.style))
  | none => .ok lines

end ElasticEndpoint.Console
