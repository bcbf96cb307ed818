import ElasticEndpoint.Console.Lines

/-!
The screen. Text with markup is shown line by line. Tables are drawn with a heavy head and light
rows; every column is as wide as its widest line, with one blank on either side, and the title stands
centred above. What is too wide for the screen is taken from the widest column.
-/

namespace ElasticEndpoint.Console

def screenWidth : Nat := 400

def printed (text : String) : Except MarkupFault String := do
  let lines ← (← Markup.read text).lines .fold screenWidth
  return "\n".intercalate (lines.map String.ofList) ++ "\n"

structure Table where
  title : String
  head : List String
  rows : List (List String)

namespace Table

abbrev Cell := List (List Char)

def widest (text : List Char) : Nat := ((Text.lines text).map Text.cells).foldl max 0

/-- What a table needs for its columns besides their inner widths: two blanks each, and the lines
between them and at the ends. -/
def frameWidth (columns : Nat) : Nat := 3 * columns + 1

/-- The inner widths of columns as they would like to be, given the rows of what cells show. -/
def wishedWidths (rows : List (List Shown)) : List Nat :=
  rows.foldl (fun widths row => List.zipWith max widths (row.map fun shown => widest shown.text))
    (List.replicate ((rows.map List.length).foldl max 0) 0)

def reduceWidest (excess : Nat) (widths : List Nat) : List Nat :=
  let greatest := widths.foldl max 0
  widths.map fun width => if width == greatest then width - excess else width

def widths (rows : List (List Shown)) : List Nat :=
  let wished := wishedWidths rows
  let most := screenWidth - 1 - wished.length - 2
  let bounded := wished.map (min most)
  reduceWidest (bounded.foldl (· + ·) 0 + frameWidth wished.length - screenWidth) bounded

def rowLines (bar : String) (widths : List Nat) (row : List Cell) : List String :=
  let height := (row.map List.length).foldl max 0
  (List.range height).map fun n =>
    let parts := List.zipWith (fun width (cell : Cell) =>
      " " ++ String.ofList (fillCells width ((cell[n]?).getD [])) ++ " ") widths row
    bar ++ bar.intercalate parts ++ bar

def rule (left : String) (stroke : Char) (crossing right : String) (widths : List Nat) : String :=
  left ++ crossing.intercalate (widths.map fun width => String.ofList (List.replicate (width + 2) stroke)) ++ right

/-- The title in the middle of a width; where it cannot be, it is nearer to the left. -/
def centred (width : Nat) (title : String) : String :=
  let left := (width - Text.cells title.toList) / 2
  String.ofList (fillCells width (blanks left ++ title.toList))

/-- The lines of a table with columns of some inner widths, whose cells are given by their lines. -/
def draw (title : String) (widths : List Nat) (head : List Cell) (rows : List (List Cell)) : List String :=
  [centred (widths.foldl (· + ·) 0 + frameWidth widths.length) title, rule "┏" '━' "┳" "┓" widths] ++
    rowLines "┃" widths head ++ [rule "┡" '━' "╇" "┩" widths] ++ rows.flatMap (rowLines "│" widths) ++
    [rule "└" '─' "┴" "┘" widths]

def linesOfRow (widths : List Nat) (row : List Shown) : Except MarkupFault (List Cell) :=
  (List.zip widths row).mapM fun (width, shown) => shown.lines .ellipsis width

def printed (table : Table) : Except MarkupFault String := do
  let head ← table.head.mapM Markup.read
  let rows ← table.rows.mapM fun row => row.mapM Markup.read
  let widths := widths (head :: rows)
  let lines := draw table.title widths (← linesOfRow widths head) (← rows.mapM (linesOfRow widths))
  return String.join (lines.map fun line => line ++ "\n")

end Table

end ElasticEndpoint.Console
