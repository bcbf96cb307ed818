import ElasticEndpoint.Decimal.Binary64
import ElasticEndpoint.Decimal.Reading
import ElasticEndpoint.Text.Digit
import ElasticEndpoint.Text.Split

/-!
Literals. The arguments of an action are written as a literal: a number, a text, bytes, one of three
constants, an ellipsis, or a tuple, a set or a mapping of literals. A sign stands before one number,
and a number may have an imaginary part added to it. Nothing is kept of what a literal denotes but
what decides whether a longer text is a literal.
-/

namespace ElasticEndpoint.Console.Literal

/-- A number without its sign: an integer, a number with a point or an exponent, or an imaginary
one. -/
inductive Part where
  | whole (n : Nat)
  | real
  | imaginary

inductive Token where
  | number (part : Part)
  | text
  | bytes
  | word (name : List Char)
  | mark (c : Char)
  | ellipsis
  | lineEnd

/-! Numbers -/

def isNameChar (c : Char) : Bool := c.isAlphanum || c == '_' || 128 ≤ c.toNat

/-- The digits that a text begins with, without the single underscores between them, and what is
behind them; `none` when an underscore is not followed by a digit. -/
def digitRun? (isDigit : Char → Bool) : List Char → Option (List Char × List Char)
  | [] => some ([], [])
  | c :: rest =>
    if isDigit c then (digitRun? isDigit rest).map fun (digits, behind) => (c :: digits, behind)
    else if c == '_' then
      if rest.head?.any isDigit then digitRun? isDigit rest else none
    else some ([], c :: rest)

def isDigitIn (base : Nat) (c : Char) : Bool :=
  if base == 16 then c.isDigit || ('a' ≤ c.toLower && c.toLower ≤ 'f')
  else c.isDigit && c.toNat < 48 + base

def baseOf? (letter : Char) : Option Nat :=
  [('x', 16), ('o', 8), ('b', 2)].lookup letter.toLower

/-- The value of a digit up to the hexadecimal ones. -/
def valueOf (c : Char) : Nat := if c.isDigit then c.toNat - 48 else c.toLower.toNat - 87

/-- What is behind a number, which must not be a part of a name. -/
def ended (part : Part) (behind : List Char) : Option (Part × List Char) :=
  if behind.head?.any isNameChar then none else some (part, behind)

def basedNumber? (base : Nat) (text : List Char) : Option (Part × List Char) := do
  let text := if text.head? == some '_' then text.drop 1 else text
  let (digits, behind) ← digitRun? (isDigitIn base) text
  if digits.isEmpty then none
  else ended (.whole (digits.foldl (fun value digit => base * value + valueOf digit) 0)) behind

/-- What is behind the fraction that a text begins with, and whether there is one. -/
def fraction? : List Char → Option (Bool × List Char)
  | '.' :: rest =>
    if rest.head?.any Char.isDigit then (digitRun? Char.isDigit rest).map fun (_, behind) => (true, behind)
    else some (true, rest)
  | rest => some (false, rest)

/-- What is behind the exponent that a text begins with, and whether there is one. -/
def exponent? (text : List Char) : Option (Bool × List Char) :=
  match text with
  | c :: rest =>
    if c == 'e' || c == 'E' then
      let digits := match rest with
        | sign :: more => if sign == '+' || sign == '-' then more else rest
        | [] => []
      if digits.head?.any Char.isDigit then
        (digitRun? Char.isDigit digits).map fun (_, behind) => (true, behind)
      else none
    else some (false, text)
  | [] => some (false, [])

/-- Whether digits are an integer: there are not too many of them, and none but zeros behind a
zero. -/
def isWhole (digits : List Char) : Bool :=
  digits.length ≤ Text.digitLimit && (digits.head? != some '0' || digits.all (· == '0'))

def decimalNumber? (text : List Char) : Option (Part × List Char) := do
  let (digits, behind) ← digitRun? Char.isDigit text
  let (hasFraction, behind) ← fraction? behind
  let (hasExponent, behind) ← exponent? behind
  match behind with
  | c :: rest =>
    if c == 'j' || c == 'J' then ended .imaginary rest
    else if hasFraction || hasExponent then ended .real behind
    else if isWhole digits then ended (.whole (Decimal.naturalOf digits)) behind
    else none
  | [] =>
    if hasFraction || hasExponent then some (.real, [])
    else if isWhole digits then some (.whole (Decimal.naturalOf digits), [])
    else none

def number? (text : List Char) : Option (Part × List Char) :=
  match text with
  | '0' :: letter :: rest =>
    match baseOf? letter with
    | some base => basedNumber? base rest
    | none => decimalNumber? text
  | _ => decimalNumber? text

/-! Texts -/

/-- The inside of a quoted text and what is behind its end. A long one ends with three quotes and may
hold line ends. -/
def inside? (quote : Char) (isLong : Bool) : List Char → Option (List Char × List Char)
  | [] => none
  | '\\' :: c :: rest => (inside? quote isLong rest).map fun (text, behind) => ('\\' :: c :: text, behind)
  | c :: rest =>
    let further := (inside? quote isLong rest).map fun (text, behind) => (c :: text, behind)
    if c == quote then
      if !isLong then some ([], rest)
      else if rest.take 2 == [quote, quote] then some ([], rest.drop 2)
      else further
    else if c == '\n' && !isLong then none
    else further

/-- Whether a text begins with hexadecimal digits, so many of them. -/
def hasHex (count : Nat) (text : List Char) : Bool :=
  count ≤ text.length && (text.take count).all (isDigitIn 16)

/-- Whether a text begins with a name of a character in braces. -/
def hasCharacterName : List Char → Bool
  | '\x7b' :: rest =>
    let name := rest.takeWhile (· != '\x7d')
    !name.isEmpty && name.length < rest.length && name.all fun c => c.isAlphanum || c == ' ' || c == '-'
  | _ => false

/-- Whether every escape in a text, or in bytes, can be read. -/
def areEscapesRead (isText : Bool) : List Char → Bool
  | [] => true
  | '\\' :: c :: rest =>
    (match c with
      | 'x' => hasHex 2 rest
      | 'u' => !isText || hasHex 4 rest
      | 'U' => !isText || (hasHex 8 rest &&
          (rest.take 8).foldl (fun value digit => 16 * value + valueOf digit) 0 < 0x110000)
      | 'N' => !isText || hasCharacterName rest
      | _ => true) && areEscapesRead isText rest
  | _ :: rest => areEscapesRead isText rest

/-- The letters that may stand before a quote: what they are for, bytes or text, and whether escapes
are left unread. -/
def quotations : List (String × Bool × Bool) := [
  ("", true, false), ("u", true, false), ("r", true, true), ("b", false, false), ("br", false, true),
  ("rb", false, true)]

/-- A quoted text or quoted bytes, given what stands before the quote and the text from the quote
on. -/
def quotation? (before text : List Char) : Option (Token × List Char) := do
  let (isText, isRaw) ← quotations.lookup (String.ofList (before.map Char.toLower))
  match text with
  | quote :: rest => do
    let isLong := rest.take 2 == [quote, quote]
    let (held, behind) ← inside? quote isLong (if isLong then rest.drop 2 else rest)
    if (!isRaw && !areEscapesRead isText held) || (!isText && held.any fun c => 128 ≤ c.toNat) then none
    else some (if isText then .text else .bytes, behind)
  | [] => none

/-- Whether a character begins and ends quoted texts. -/
def isQuote (c : Char) : Bool := c == '\x27' || c == '\x22'

/-! Tokens -/

def marks : List Char := ['(', ')', '\x7b', '\x7d', ',', ':', '+', '-']

def token? (text : List Char) : Option (Token × List Char) :=
  match text with
  | [] => none
  | c :: rest =>
    if c == '.' && rest.take 2 == ['.', '.'] then some (.ellipsis, rest.drop 2)
    else if c.isDigit || (c == '.' && rest.head?.any Char.isDigit) then
      (number? text).map fun (part, behind) => (.number part, behind)
    else if isQuote c then quotation? [] text
    else if isNameChar c then
      let name := text.takeWhile isNameChar
      let behind := text.dropWhile isNameChar
      if behind.head?.any isQuote then quotation? name behind else some (.word name, behind)
    else if marks.contains c then some (.mark c, rest)
    else none

def nestingLimit : Nat := 200

def depthBehind (depth : Nat) : Token → Nat
  | .mark c => if c == '(' || c == '\x7b' then depth + 1 else if c == ')' || c == '\x7d' then depth - 1 else depth
  | _ => depth

/-- The tokens of a text that is so deep in brackets. A line end counts only outside of them. -/
def tokensFrom? : Nat → Nat → List Char → Option (List Token)
  | 0, _, _ => none
  | _ + 1, _, [] => some []
  | fuel + 1, depth, c :: rest =>
    if c == ' ' || c == '\t' || c == '\x0c' then tokensFrom? fuel depth rest
    else if c == '\\' && rest.head? == some '\n' && 1 < rest.length then tokensFrom? fuel depth (rest.drop 1)
    else if c == '#' then tokensFrom? fuel depth (rest.dropWhile (· != '\n'))
    else if c == '\n' then
      if depth == 0 then (tokensFrom? fuel depth rest).map (.lineEnd :: ·) else tokensFrom? fuel depth rest
    else
      match token? (c :: rest) with
      | none => none
      | some (token, behind) =>
        let depth := depthBehind depth token
        if nestingLimit < depth then none else (tokensFrom? fuel depth behind).map (token :: ·)

def tokens? (text : List Char) : Option (List Token) :=
  if text.contains '\x00' then none else tokensFrom? (text.length + 1) 0 text

/-! Literals -/

/-- What a literal is, as far as it matters in a larger one: a number, with a sign or without, and
else whether it can be a member of a set. -/
inductive Shape where
  | number (part : Part) (isSigned : Bool)
  | hashable
  | unhashable

/-- Whether a literal can be a member of a set and a key of a mapping. -/
def Shape.isMember : Shape → Bool
  | .unhashable => false
  | _ => true

def Shape.takesImaginary : Shape → Bool
  | .number (.whole n) _ => (Decimal.Binary64.ofInt n).isFinite
  | .number .real _ => true
  | _ => false

def constants : List (List Char) := ["True".toList, "False".toList, "None".toList]

/-- What is behind the texts, or the bytes, that are joined to the one before them. -/
def behindJoined? (isText : Bool) : List Token → Option (List Token)
  | .text :: rest => if isText then behindJoined? isText rest else none
  | .bytes :: rest => if isText then none else behindJoined? isText rest
  | rest => some rest

mutual

def atom? : Nat → List Token → Option (Shape × List Token)
  | 0, _ => none
  | fuel + 1, tokens =>
    match tokens with
    | .number part :: rest => some (.number part false, rest)
    | .text :: rest => (behindJoined? true rest).map fun rest => (.hashable, rest)
    | .bytes :: rest => (behindJoined? false rest).map fun rest => (.hashable, rest)
    | .ellipsis :: rest => some (.hashable, rest)
    | .word name :: rest =>
      if constants.contains name then some (.hashable, rest)
      else if name == "set".toList then
        match rest with
        | .mark '(' :: .mark ')' :: rest => some (.unhashable, rest)
        | _ => none
      else none
    | .mark '(' :: .mark ')' :: rest => some (.hashable, rest)
    | .mark '(' :: rest =>
      match sum? fuel rest with
      | some (first, .mark ')' :: rest) => some (first, rest)
      | some (first, rest) =>
        (items? fuel ')' first.isMember rest).map fun (areMembers, rest) =>
          (if areMembers then .hashable else .unhashable, rest)
      | none => none
    | .mark '\x7b' :: .mark '\x7d' :: rest => some (.unhashable, rest)
    | .mark '\x7b' :: rest =>
      match sum? fuel rest with
      | some (first, .mark ':' :: rest) =>
        if first.isMember then
          match sum? fuel rest with
          | some (_, rest) => (entries? fuel rest).map fun rest => (.unhashable, rest)
          | none => none
        else none
      | some (first, rest) =>
        match items? fuel '\x7d' first.isMember rest with
        | some (true, rest) => some (.unhashable, rest)
        | _ => none
      | none => none
    | _ => none

def signed? : Nat → List Token → Option (Shape × List Token)
  | 0, _ => none
  | fuel + 1, tokens =>
    let unsigned := fun rest =>
      match atom? fuel rest with
      | some (.number part false, rest) => some (Shape.number part true, rest)
      | _ => none
    match tokens with
    | .mark '+' :: rest => unsigned rest
    | .mark '-' :: rest => unsigned rest
    | _ => atom? fuel tokens

/-- A literal, maybe with an imaginary part added to it. -/
def sum? : Nat → List Token → Option (Shape × List Token)
  | 0, _ => none
  | fuel + 1, tokens =>
    let added := fun (left : Shape) rest =>
      match atom? fuel rest with
      | some (.number .imaginary false, rest) => if left.takesImaginary then some (Shape.hashable, rest) else none
      | _ => none
    match signed? fuel tokens with
    | some (left, .mark '+' :: rest) => added left rest
    | some (left, .mark '-' :: rest) => added left rest
    | outcome => outcome

/-- The further items of a collection up to its closing bracket, and whether all of its items can be
members of a set, given that of the items before. -/
def items? : Nat → Char → Bool → List Token → Option (Bool × List Token)
  | 0, _, _, _ => none
  | fuel + 1, closing, areMembers, tokens =>
    match tokens with
    | .mark c :: rest =>
      if c == closing then some (areMembers, rest)
      else if c == ',' then
        match rest with
        | .mark d :: more => if d == closing then some (areMembers, more) else nextItem? fuel closing areMembers rest
        | _ => nextItem? fuel closing areMembers rest
      else none
    | _ => none

def nextItem? : Nat → Char → Bool → List Token → Option (Bool × List Token)
  | 0, _, _, _ => none
  | fuel + 1, closing, areMembers, tokens =>
    match sum? fuel tokens with
    | some (item, rest) => items? fuel closing (areMembers && item.isMember) rest
    | none => none

/-- What is behind the further entries of a mapping and its closing bracket. -/
def entries? : Nat → List Token → Option (List Token)
  | 0, _ => none
  | fuel + 1, tokens =>
    match tokens with
    | .mark '\x7d' :: rest => some rest
    | .mark ',' :: .mark '\x7d' :: rest => some rest
    | .mark ',' :: rest =>
      match sum? fuel rest with
      | some (key, .mark ':' :: rest) =>
        if key.isMember then
          match sum? fuel rest with
          | some (_, rest) => entries? fuel rest
          | none => none
        else none
      | _ => none
    | _ => none

end

def dropLineEnds : List Token → List Token
  | .lineEnd :: rest => dropLineEnds rest
  | rest => rest

/-- Whether tokens are a literal, or several with commas between them and maybe one at the end. -/
def areLiterals : Nat → List Token → Bool
  | 0, _ => false
  | fuel + 1, tokens =>
    match sum? fuel tokens with
    | some (_, .mark ',' :: rest) => (dropLineEnds rest).isEmpty || areLiterals fuel rest
    | some (_, rest) => (dropLineEnds rest).isEmpty
    | none => false

def isLiteral (text : List Char) : Bool :=
  match tokens? (Text.unifyLineEnds text) with
  | some tokens => areLiterals (6 * tokens.length + 6) (dropLineEnds tokens)
  | none => false

end ElasticEndpoint.Console.Literal
