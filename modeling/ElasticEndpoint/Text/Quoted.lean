import ElasticEndpoint.Text.Half
import ElasticEndpoint.Text.Printable

/-!
Quoted text. A text is shown between apostrophes, or between double quotes when it holds an
apostrophe and no double quote; the enclosing quote, the backslash and everything unprintable are
escaped. Bytes are shown the same way after a leading `b`, with every byte outside printable ASCII
escaped.
-/

namespace ElasticEndpoint.Text

/-- The lower-case hexadecimal digits of a number, padded with zeros to a width. -/
def hexadecimal (width n : Nat) : List Char :=
  let digits := Nat.toDigits 16 n
  List.replicate (width - digits.length) '0' ++ digits

/-- The enclosing quote is the apostrophe unless only it occurs in the text. -/
def enclosingQuote (text : List Char) : Char :=
  if text.contains '\x27' && !text.contains '\x22' then '\x22' else '\x27'

/-- The escape shared by every quoted form: quote, backslash, and the three named controls. -/
def namedEscape? (quote c : Char) : Option (List Char) :=
  if c == quote || c == '\\' then some ['\\', c]
  else if c == '\n' then some ['\\', 'n']
  else if c == '\r' then some ['\\', 'r']
  else if c == '\t' then some ['\\', 't']
  else none

/-- The shortest hexadecimal escape that can hold a code point. -/
def hexEscape (n : Nat) : List Char :=
  if n < 0x100 then '\\' :: 'x' :: hexadecimal 2 n
  else if n < 0x10000 then '\\' :: 'u' :: hexadecimal 4 n
  else '\\' :: 'U' :: hexadecimal 8 n

/-- A character of a quoted text: escaped by name, itself when printable, else in hexadecimal. -/
def quotedChar (quote c : Char) : List Char :=
  (namedEscape? quote c).getD (if isPrintable c then [c] else hexEscape c.toNat)

def quoted (text : String) : String :=
  let quote := enclosingQuote text.toList
  String.ofList (quote :: text.toList.flatMap (quotedChar quote) ++ [quote])

/-- A code point of a quoted text: as its character, or half of a pair in hexadecimal. -/
def quotedPoint (quote : Char) (n : Nat) : List Char :=
  if isHalf n then hexEscape n else quotedChar quote (Char.ofNat n)

def quotedPoints (points : List Nat) : String :=
  let quote := enclosingQuote (points.map pointChar)
  String.ofList (quote :: points.flatMap (quotedPoint quote) ++ [quote])

/-- A byte of quoted bytes: escaped by name, itself when printable ASCII, else in hexadecimal. -/
def quotedByte (quote : Char) (b : UInt8) : List Char :=
  let c := Char.ofNat b.toNat
  (namedEscape? quote c).getD (if 0x20 ≤ b && b < 0x7F then [c] else hexEscape b.toNat)

def quotedBytes (bytes : List UInt8) : String :=
  let quote := enclosingQuote (bytes.map fun b => Char.ofNat b.toNat)
  String.ofList ('b' :: quote :: bytes.flatMap (quotedByte quote) ++ [quote])

end ElasticEndpoint.Text
