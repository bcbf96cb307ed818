import ElasticEndpoint.Console.Emoji
import ElasticEndpoint.Console.Literal
import ElasticEndpoint.Console.Style
import ElasticEndpoint.Text.Word

/-!
Markup. A tag stands in brackets and begins with a small letter, a number sign, a slash or an at
sign; it opens a style, or closes one that is open when it begins with a slash. Tags do not show. A
backslash takes the meaning from a tag, and every pair of backslashes before a tag stands for one.
-/

namespace ElasticEndpoint.Console

/-- A piece of text with markup: plain text or a tag, which may have parameters. -/
inductive Piece where
  | plain (text : List Char)
  | tag (name : List Char) (parameters : Option (List Char))
  deriving DecidableEq

/-- Text with markup that cannot be shown: a tag closes what is not open, the parameters of an action
cannot be read, or a color has a number that cannot be read. -/
inductive MarkupFault where
  | notOpen (tag : String)
  | unreadableAction (parameters : String)
  | unreadableColor (style : String)
  deriving DecidableEq

/-- The part of a text that a style is for: from a place on and up to another one. -/
structure Span where
  first : Nat
  behind : Nat
  style : List Char
  deriving DecidableEq

/-- Text as it is shown, with the styles that it is shown in. -/
structure Shown where
  text : List Char
  spans : List Span
  deriving DecidableEq

namespace Markup

def beginsTag (c : Char) : Bool := ('a' ≤ c && c ≤ 'z') || c == '#' || c == '/' || c == '@'

/-- The tag that the text behind an opening bracket begins with, and what is behind the tag. -/
def tagOf? : List Char → Option (List Char × List Char)
  | [] => none
  | c :: rest =>
    if beginsTag c && rest.contains ']' then
      some (c :: rest.takeWhile (· != ']'), (rest.dropWhile (· != ']')).drop 1)
    else none

/-- A tag with its parameters, which stand behind the first equals sign. -/
def Piece.ofTag (tag : List Char) : Piece :=
  .tag (tag.takeWhile (· != '=')) (if tag.contains '=' then some ((tag.dropWhile (· != '=')).drop 1) else none)

/-- Plain text as a piece, unless there is none. -/
def plain (text : List Char) : List Piece := if text.isEmpty then [] else [.plain text]

def slashesAtEnd (text : List Char) : Nat := (text.reverse.takeWhile (· == '\\')).length

/-- The pieces of a text whose parts between opening brackets are given, behind plain text that is
not yet in a piece. -/
def piecesBehind (pending : List Char) : List (List Char) → List Piece
  | [] => plain pending
  | part :: rest =>
    match tagOf? part with
    | none => piecesBehind (pending ++ '[' :: part) rest
    | some (tag, after) =>
      let slashes := slashesAtEnd pending
      plain (pending.take (pending.length - slashes)) ++ plain (List.replicate (slashes / 2) '\\') ++
        (if slashes % 2 == 1 then [.plain ('[' :: tag ++ [']'])] else [Piece.ofTag tag]) ++
        piecesBehind after rest

def pieces (text : List Char) : List Piece :=
  match Text.splitOn '[' text with
  | [] => []
  | first :: rest => piecesBehind first rest

/-- Plain text without the backslashes before opening brackets. -/
def unescape : List Char → List Char
  | '\\' :: '[' :: rest => '[' :: unescape rest
  | c :: rest => c :: unescape rest
  | [] => []

/-- The control characters that are not shown: bell, backspace, and three that move the cursor. -/
def isDropped (c : Char) : Bool :=
  c == '\x07' || c == '\x08' || c == '\x0b' || c == '\x0c' || c == '\r'

def shownPlain (text : List Char) : List Char :=
  (Emoji.replace (unescape text)).filter fun c => !isDropped c

/-- A style that is open, by its normal form, with the parameters of its tag and the place from which
on it is for the text. -/
structure OpenStyle where
  name : String
  parameters : Option (List Char)
  first : Nat
  deriving DecidableEq

def OpenStyle.span (style : OpenStyle) (behind : Nat) : Span :=
  ⟨style.first, behind, style.name.toList ++ style.parameters.elim [] (' ' :: ·)⟩

/-- Closes an open style: the innermost one, or the innermost one of a normal form. -/
def close (name : Option String) : List OpenStyle → Option (OpenStyle × List OpenStyle)
  | [] => none
  | style :: rest =>
    if name.all (style.name == ·) then some (style, rest)
    else (close name rest).map fun (closed, rest) => (closed, style :: rest)

/-- Whether the parameters of an action can be read: a name, maybe with arguments in parentheses, or
else a literal. -/
def isAction (parameters : List Char) : Bool :=
  let parameters := Text.trim Text.isBlank parameters
  let arguments := parameters.dropWhile fun c => Text.isWordCharacter c || c == '.'
  let isCall := arguments.head? == some '(' && arguments.getLast? == some ')' && !arguments.contains '\n'
  arguments.isEmpty || Literal.isLiteral (if isCall then arguments else parameters)

/-- Whether a style is an action, which is written with an at sign. -/
def OpenStyle.isAction (style : OpenStyle) : Bool := style.name.startsWith "@"

/-- The spans that closing a style at a place gives. An action gives none, and only when it is closed
are its parameters read. -/
def OpenStyle.closed (style : OpenStyle) (behind : Nat) : Except MarkupFault (List Span) :=
  if !style.isAction then .ok [style.span behind]
  else match style.parameters with
    | none => .ok []
    | some parameters =>
      if parameters.isEmpty || Markup.isAction parameters then .ok []
      else .error (.unreadableAction (String.ofList parameters))

def normalForm (style : List Char) : Except MarkupFault String :=
  match normalStyle? style with
  | some name => .ok name
  | none => .error (.unreadableColor (String.ofList style))

def showPieces (place : Nat) (styles : List OpenStyle) : List Piece → Except MarkupFault Shown
  | [] => .ok ⟨[], (styles.map fun style => style.span place).filter fun span => !span.style.isEmpty⟩
  | .plain text :: rest => do
    let shown := shownPlain text
    let further ← showPieces (place + shown.length) styles rest
    return { further with text := shown ++ further.text }
  | .tag name parameters :: rest =>
    match name with
    | '/' :: closing => do
      let closing := Text.trim Text.isBlank closing
      let wanted ← if closing.isEmpty then pure none else some <$> normalForm closing
      match close wanted styles with
      | none => .error (.notOpen (String.ofList name))
      | some (style, styles) => do
        let spans ← style.closed place
        let further ← showPieces place styles rest
        return { further with spans := spans ++ further.spans }
    | _ => do
      showPieces place (⟨← normalForm name, parameters, place⟩ :: styles) rest

def read (text : String) : Except MarkupFault Shown := showPieces 0 [] (pieces text.toList)

end Markup

end ElasticEndpoint.Console
