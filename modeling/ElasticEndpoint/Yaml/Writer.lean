import ElasticEndpoint.Yaml.Kind
import ElasticEndpoint.Decimal.Shortest

/-!
Writing flat mappings as YAML. Each entry is one line, or several when its text is long or has line
breaks. A text is written plain when it reads back as text that way, otherwise between apostrophes,
and between double quotes when it holds characters that only an escape can write.
-/

namespace ElasticEndpoint.Yaml

open Decimal (Binary64)

inductive Plain where
  | null
  | int (n : Int)
  | real (x : Binary64)
  | text (s : String)
  deriving DecidableEq

/-- Lines are folded behind this column where a space allows it. -/
def lineWidth : Nat := 80

def foldIndent : List Char := [' ', ' ']

inductive Style where
  | plain
  | single
  | double
  deriving DecidableEq

/-- A blank or the end, as the place before or behind an indicator. -/
def blankOrEnd (c : Option Char) : Bool :=
  c.all fun c => c == Char.ofNat 0 || c == ' ' || c == '\t' || isBreak c

/-- An indicator at the beginning of a text that has to be quoted. -/
def startsIndicator (c : Char) (next : Option Char) : Bool :=
  ['#', ',', '[', ']', '\x7b', '\x7d', '&', '*', '!', '|', '>', '\x27', '\x22', '%', '@',
    Char.ofNat 0x60].contains c || (['?', ':', '-'].contains c && blankOrEnd next)

/-- An indicator inside a text that has to be quoted: a colon before a blank, a comment after one. -/
def holdsIndicator : List Char → Bool
  | c :: d :: rest =>
    (d == ':' && blankOrEnd rest.head?) || (d == '#' && blankOrEnd (some c)) || holdsIndicator (d :: rest)
  | _ => false

def hasNeighbours (first second : Char → Bool) : List Char → Bool
  | c :: d :: rest => (first c && second d) || hasNeighbours first second (d :: rest)
  | _ => false

/-- A character that is written without an escape: printable ASCII or a line feed. -/
def isOrdinary (c : Char) : Bool := c == '\n' || (0x20 ≤ c.toNat && c.toNat ≤ 0x7E)

/-- The quotation of a text: the first of plain, single and double that can hold it. -/
def styleOf (text : List Char) : Style :=
  let plain := Tag.ofPlain text == .str && !text.isEmpty
  let edges := [text.head?, text.getLast?].any fun c => c.any fun c => c == ' ' || isBreak c
  let marker := ['-', '-', '-'].isPrefixOf text || ['.', '.', '.'].isPrefixOf text
  let indicators := marker || holdsIndicator text || match text with
    | c :: rest => startsIndicator c rest.head?
    | [] => false
  let breaks := text.any isBreak
  let breakSpace := hasNeighbours isBreak (· == ' ') text
  let spaceBreak := hasNeighbours (· == ' ') isBreak text
  let special := !text.all isOrdinary
  if plain && !edges && !breakSpace && !spaceBreak && !special && !breaks && !indicators then .plain
  else if !breakSpace && !spaceBreak && !special then .single
  else .double

def escapeLetter? (c : Char) : Option Char :=
  [(0, '0'), (7, 'a'), (8, 'b'), (9, 't'), (10, 'n'), (11, 'v'), (12, 'f'), (13, 'r'), (27, 'e'),
    (0x22, '\x22'), (0x5C, '\\'), (0x85, 'N'), (0xA0, '_'), (0x2028, 'L'), (0x2029, 'P')].lookup c.toNat

def upperHex (width n : Nat) : List Char := (Text.hexadecimal width n).map Char.toUpper

def escape? (c : Char) : Option (List Char) :=
  let n := c.toNat
  if 0x20 ≤ n && n ≤ 0x7E && c != '\x22' && c != '\\' then none
  else some <| '\\' :: match escapeLetter? c with
    | some letter => [letter]
    | none =>
      if n ≤ 0xFF then 'x' :: upperHex 2 n
      else if n ≤ 0xFFFF then 'u' :: upperHex 4 n
      else 'U' :: upperHex 8 n

/-- A new line inside a double-quoted text; a backslash keeps a space at its beginning. -/
def doubleFold (next : Option Char) : List Char :=
  '\\' :: '\n' :: foldIndent ++ if next == some ' ' then ['\\'] else []

/-- The column after a new line inside a double-quoted text. -/
def doubleFoldColumn (next : Option Char) : Nat := if next == some ' ' then 3 else 2

/-- A double-quoted text from a column on. A line beyond the width is folded before a space, and
before and behind an escape, but neither at the first character nor at the last. -/
def doubleFrom (first fresh : Bool) (column : Nat) : List Char → List Char
  | [] => []
  | c :: rest =>
    let inner := !first && !rest.isEmpty
    match escape? c with
    | some escape =>
      let reached := column + escape.length
      if inner && lineWidth < reached - 1 then
        escape ++ doubleFold rest.head? ++ doubleFrom false true (doubleFoldColumn rest.head?) rest
      else escape ++ doubleFrom false true reached rest
    | none =>
      if inner && (c == ' ' || fresh) && lineWidth < column then
        doubleFold (some c) ++ c :: doubleFrom false false (doubleFoldColumn (some c) + 1) rest
      else c :: doubleFrom false false (column + 1) rest

/-- A run of characters of one class: spaces, line breaks, or everything else. -/
inductive Run where
  | spaces (count : Nat)
  | breaks (text : List Char)
  | solid (text : List Char)

def Run.cons (c : Char) (runs : List Run) : List Run :=
  if c == ' ' then match runs with
    | .spaces count :: rest => .spaces (count + 1) :: rest
    | rest => .spaces 1 :: rest
  else if isBreak c then match runs with
    | .breaks text :: rest => .breaks (c :: text) :: rest
    | rest => .breaks [c] :: rest
  else match runs with
    | .solid text :: rest => .solid (c :: text) :: rest
    | rest => .solid [c] :: rest

def Run.ofText (text : List Char) : List Run := text.foldr Run.cons []

/-- Line breaks in a quoted text: a line feed more than they stand for, when the first is one. -/
def writtenBreaks (text : List Char) : List Char :=
  (if text.head? == some '\n' then ['\n'] else []) ++ text ++ foldIndent

/-- Runs from a column on, with `solid` as the writing of the characters that are no blanks. A
single space between two runs becomes a line break when the line is beyond the width. -/
def writeRuns (solid : List Char → List Char) (first : Bool) (column : Nat) : List Run → List Char
  | [] => []
  | .solid text :: rest => solid text ++ writeRuns solid false (column + (solid text).length) rest
  | .breaks text :: rest => writtenBreaks text ++ writeRuns solid false 2 rest
  | .spaces count :: rest =>
    if count == 1 && lineWidth < column && !first && !rest.isEmpty then
      '\n' :: foldIndent ++ writeRuns solid false 2 rest
    else List.replicate count ' ' ++ writeRuns solid false (column + count) rest

def doubleApostrophes (text : List Char) : List Char :=
  text.flatMap fun c => if c == '\x27' then [c, c] else [c]

def writeText (column : Nat) (text : List Char) : List Char :=
  match styleOf text with
  | .plain => writeRuns id true column (Run.ofText text)
  | .single => '\x27' :: writeRuns doubleApostrophes true (column + 1) (Run.ofText text) ++ ['\x27']
  | .double => '\x22' :: doubleFrom true true (column + 1) text ++ ['\x22']

/-- A number as written: a point is put before an exponent that has none. -/
def writeReal (x : Binary64) : List Char :=
  match x with
  | .infinite negative => if negative then "-.inf".toList else ".inf".toList
  | .nan => ".nan".toList
  | _ =>
    let text := x.shortest.toList
    if text.contains '.' then text
    else text.flatMap fun c => if c == 'e' then ['.', '0', 'e'] else [c]

/-- A value as written after a key that ends at a column. -/
def writePlain (column : Nat) : Plain → List Char
  | .null => "null".toList
  | .int n => (toString n).toList
  | .real x => writeReal x
  | .text s => writeText column s.toList

/-- A flat mapping as written, for keys that are plain words. -/
def write (entries : List (String × Plain)) : String :=
  String.ofList <| entries.flatMap fun entry =>
    let key := entry.1.toList ++ [':', ' ']
    key ++ writePlain key.length entry.2 ++ ['\n']

end ElasticEndpoint.Yaml
