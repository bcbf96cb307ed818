import ElasticEndpoint.Value.Basic
import ElasticEndpoint.Decimal.Reading
import ElasticEndpoint.Text.Digit

/-!
JSON texts. The reader takes the whole text or names the first place where it stops being JSON,
with the reason, the line and the column. Besides the standard's grammar it accepts the three words
for numbers that are not finite. The last of several equal keys of an object gives its value.
-/

namespace ElasticEndpoint.Json

open Decimal (Binary64)

inductive Reason where
  | byteOrderMark
  | missingValue
  | missingKey
  | missingColon
  | missingComma
  | extraData
  | openString
  | controlCharacter
  | badEscape
  | badUnicodeEscape
  deriving DecidableEq

def Reason.message : Reason → String
  | .byteOrderMark => "Unexpected UTF-8 BOM (decode using utf-8-sig)"
  | .missingValue => "Expecting value"
  | .missingKey => "Expecting property name enclosed in double quotes"
  | .missingColon => "Expecting ':' delimiter"
  | .missingComma => "Expecting ',' delimiter"
  | .extraData => "Extra data"
  | .openString => "Unterminated string starting at"
  | .controlCharacter => "Invalid control character at"
  | .badEscape => "Invalid \\escape"
  | .badUnicodeEscape => "Invalid \\uXXXX escape"

/-- How reading fails: the text is malformed where `rest` begins, an integer is longer than the
conversion limit, or collections are nested beyond the depth limit. -/
inductive Fault where
  | malformed (reason : Reason) (rest : List Char)
  | tooManyDigits (count : Nat)
  | tooDeep

def nestingLimit : Nat := 980

/-- The blanks allowed between the parts of a JSON text. -/
def isSpace (c : Char) : Bool := c == ' ' || c == '\t' || c == '\n' || c == '\r'

def skipSpace (text : List Char) : List Char := text.dropWhile isSpace

def hexValue? (c : Char) : Option Nat :=
  if c.isDigit then some (c.toNat - 48)
  else if 'a' ≤ c && c ≤ 'f' then some (c.toNat - 87)
  else if 'A' ≤ c && c ≤ 'F' then some (c.toNat - 55)
  else none

/-- The value of four hexadecimal digits that are followed by at least one more character. -/
def unit? : List Char → Option (Nat × List Char)
  | a :: b :: c :: d :: next :: rest => do
    let value := 4096 * (← hexValue? a) + 256 * (← hexValue? b) + 16 * (← hexValue? c) + (← hexValue? d)
    return (value, next :: rest)
  | _ => none

def shortEscape? : Char → Option Char
  | '\x22' => some '\x22'
  | '\\' => some '\\'
  | '/' => some '/'
  | 'b' => some '\x08'
  | 'f' => some '\x0c'
  | 'n' => some '\n'
  | 'r' => some '\r'
  | 't' => some '\t'
  | _ => none

/-- A code unit is a high half, a low half or a character of its own. -/
def isHighHalf (n : Nat) : Bool := 0xD800 ≤ n && n < 0xDC00

def isLowHalf (n : Nat) : Bool := 0xDC00 ≤ n && n < 0xE000

/-- The escape after `\u`, given from the `u` on: a code unit, joined with a second escaped one when
the two form a pair. -/
def unicodeEscape (fromU : List Char) : Except Fault (Nat × List Char) :=
  match unit? (fromU.drop 1) with
  | none => .error (.malformed .badUnicodeEscape fromU)
  | some (high, rest) =>
    match rest with
    | '\\' :: 'u' :: after =>
      if isHighHalf high && 4 < after.length then
        match unit? after with
        | none => .error (.malformed .badUnicodeEscape ('u' :: after))
        | some (low, last) =>
          if isLowHalf low then
            .ok (0x10000 + (high - 0xD800) * 0x400 + (low - 0xDC00), last)
          else .ok (high, rest)
      else .ok (high, rest)
    | _ => .ok (high, rest)

/-- The characters up to the closing quote; `opening` is the text from the opening quote on. -/
def string (opening : List Char) : Nat → List Nat → List Char → Except Fault (Value × List Char)
  | 0, _, _ => .error (.malformed .openString opening)
  | fuel + 1, done, text =>
    match text with
    | [] => .error (.malformed .openString opening)
    | '\x22' :: rest => .ok (.ofPoints done.reverse, rest)
    | '\\' :: rest =>
      match rest with
      | [] => .error (.malformed .openString opening)
      | 'u' :: _ => do
        let (point, last) ← unicodeEscape rest
        string opening fuel (point :: done) last
      | c :: last =>
        match shortEscape? c with
        | some escaped => string opening fuel (escaped.toNat :: done) last
        | none => .error (.malformed .badEscape text)
    | c :: rest =>
      if c.toNat < 0x20 then .error (.malformed .controlCharacter text)
      else string opening fuel (c.toNat :: done) rest

/-- The integer digits at the head of a number: a zero alone, or digits that begin with another. -/
def integerDigits? (text : List Char) : Option (List Char × List Char) :=
  match text with
  | '0' :: rest => some (['0'], rest)
  | c :: _ => if c.isDigit then some (text.takeWhile Char.isDigit, text.dropWhile Char.isDigit) else none
  | [] => none

/-- The point and digits after it, if a digit follows the point. -/
def fractionDigits (text : List Char) : List Char × List Char :=
  match text with
  | '.' :: c :: rest =>
    if c.isDigit then
      let digits := c :: rest
      (digits.takeWhile Char.isDigit, digits.dropWhile Char.isDigit)
    else ([], text)
  | _ => ([], text)

def exponentPart (text : List Char) : Option Int × List Char :=
  match text with
  | mark :: after =>
    if mark == 'e' || mark == 'E' then
      let (negative, digits) := Decimal.takeSign after
      let size := digits.takeWhile Char.isDigit
      if size.isEmpty then (none, text)
      else
        let value : Int := Decimal.naturalOf size
        (some (if negative then -value else value), digits.dropWhile Char.isDigit)
    else (none, text)
  | [] => (none, text)

/-- A number: an integer unless it has a fraction or an exponent. -/
def number (text : List Char) : Except Fault (Value × List Char) :=
  let (negative, body) := match text with
    | '-' :: rest => (true, rest)
    | _ => (false, text)
  match integerDigits? body with
  | none => .error (.malformed .missingValue text)
  | some (whole, rest) =>
    let (fraction, rest) := fractionDigits rest
    let (exponent?, rest) := exponentPart rest
    if fraction.isEmpty && exponent?.isNone then
      if Text.digitLimit < whole.length then .error (.tooManyDigits whole.length)
      else
        let value : Int := Decimal.naturalOf whole
        .ok (.int (if negative then -value else value), rest)
    else
      let digits := Decimal.naturalOf (whole ++ fraction)
      let scale := exponent?.getD 0 - fraction.length
      .ok (.real (Binary64.ofDecimal negative digits scale), rest)

/-- Drops a word from the head of a text. -/
def word? (word : String) (text : List Char) : Option (List Char) :=
  if word.toList.isPrefixOf text then some (text.drop word.length) else none

def scalar (text : List Char) : Except Fault (Value × List Char) :=
  let words : List (String × Value) := [("null", .null), ("true", .bool true), ("false", .bool false),
    ("NaN", .real .nan), ("Infinity", .real (.infinite false)), ("-Infinity", .real (.infinite true))]
  match words.findSome? fun entry => (word? entry.1 text).map fun rest => (entry.2, rest) with
  | some found => .ok found
  | none => number text

mutual

/-- A value from its first character on, at most `depth` levels of collections deep. -/
def value (depth : Nat) : Nat → List Char → Except Fault (Value × List Char)
  | 0, text => .error (.malformed .missingValue text)
  | fuel + 1, text =>
    match text with
    | '\x22' :: rest =>
      string text (rest.length + 1) [] rest
    | '\x7b' :: rest =>
      if depth == 0 then .error .tooDeep
      else match skipSpace rest with
        | '\x7d' :: rest' => .ok (.map [], rest')
        | rest' => entries (depth - 1) fuel [] rest'
    | '[' :: rest =>
      if depth == 0 then .error .tooDeep
      else match skipSpace rest with
        | ']' :: rest' => .ok (.list [], rest')
        | rest' => items (depth - 1) fuel [] rest'
    | _ => scalar text

/-- The items of a list from the next one on, the latest first in `done`. -/
def items (depth : Nat) : Nat → List Value → List Char → Except Fault (Value × List Char)
  | 0, _, text => .error (.malformed .missingValue text)
  | fuel + 1, done, text => do
    let (item, rest) ← value depth fuel text
    match skipSpace rest with
    | ']' :: rest' => return (.list (item :: done).reverse, rest')
    | ',' :: rest' => items depth fuel (item :: done) (skipSpace rest')
    | rest' => throw (.malformed .missingComma rest')

def entries (depth : Nat) : Nat → List (Value × Value) → List Char → Except Fault (Value × List Char)
  | 0, _, text => .error (.malformed .missingKey text)
  | fuel + 1, done, text =>
    match text with
    | '\x22' :: afterQuote => do
      let (key, rest) ← string text (afterQuote.length + 1) [] afterQuote
      match skipSpace rest with
      | ':' :: rest' =>
        let (entry, rest) ← value depth fuel (skipSpace rest')
        let done := Value.insert done key entry
        match skipSpace rest with
        | '\x7d' :: rest' => return (.map done, rest')
        | ',' :: rest' => entries depth fuel done (skipSpace rest')
        | rest' => throw (.malformed .missingComma rest')
      | rest' => throw (.malformed .missingColon rest')
    | _ => .error (.malformed .missingKey text)

end

def parse (text : List Char) : Except Fault Value :=
  if text.head? == some (Char.ofNat 0xFEFF) then .error (.malformed .byteOrderMark text)
  else do
    let (found, rest) ← value nestingLimit (2 * text.length + 2) (skipSpace text)
    match skipSpace rest with
    | [] => return found
    | rest' => throw (.malformed .extraData rest')

/-- A fault as text: a malformed place is given as line, column and character number. -/
def Fault.message (text : List Char) : Fault → String
  | .malformed reason rest =>
    let before := text.take (text.length - rest.length)
    let line := before.count '\n' + 1
    let column := (before.reverse.takeWhile (· != '\n')).length + 1
    s!"{reason.message}: line {line} column {column} (char {before.length})"
  | .tooManyDigits count =>
    s!"Exceeds the limit ({Text.digitLimit} digits) for integer string conversion: value has {count} digits; " ++
      "use sys.set_int_max_str_digits() to increase the limit"
  | .tooDeep => "maximum recursion depth exceeded while decoding a JSON document"

end ElasticEndpoint.Json
