import ElasticEndpoint.Text.Digit
import ElasticEndpoint.Text.Blank

/-!
Integers as text in a base. Blanks around the number, a sign, single underscores between digits and
decimal digits of any script are accepted; in base 2, 8 and 16 a zero and the letter of the base may
stand in front of the digits.
-/

namespace ElasticEndpoint.Text

def digitValue? (base : Nat) (c : Char) : Option Nat :=
  let value? := (decimalValue? c).or <|
    if 'a' ≤ c && c ≤ 'z' then some (c.toNat - 87)
    else if 'A' ≤ c && c ≤ 'Z' then some (c.toNat - 55)
    else none
  value?.filter (· < base)

/-- Digits without the underscores between them; `none` when an underscore does not stand between
two digits or no digit is there. -/
def joinDigits : List Char → Option (List Char)
  | [] => none
  | '_' :: _ => none
  | [c] => some [c]
  | c :: '_' :: rest => (joinDigits rest).map (c :: ·)
  | c :: rest => (joinDigits rest).map (c :: ·)

def digitsNumber? (base : Nat) (digits : List Char) : Option Nat :=
  digits.foldl (fun value? c => do return base * (← value?) + (← digitValue? base c)) (some 0)

def baseLetter? : Nat → Option Char
  | 2 => some 'b'
  | 8 => some 'o'
  | 16 => some 'x'
  | _ => none

/-- Digits without the mark of their base; an underscore may follow the mark. -/
def dropBaseMark (base : Nat) (digits : List Char) : List Char :=
  match digits with
  | '0' :: letter :: rest =>
    if baseLetter? base == some letter.toLower then
      match rest with
      | '_' :: more => more
      | _ => rest
    else digits
  | _ => digits

/-- A number's text without blanks around it, as its sign and its digits. -/
def signedDigits? (base : Nat) (text : List Char) : Option (Bool × List Char) :=
  let (negative, body) := match trim isBlank text with
    | '-' :: rest => (true, rest)
    | '+' :: rest => (false, rest)
    | rest => (false, rest)
  (joinDigits (dropBaseMark base body)).map fun digits => (negative, digits)

def readInteger? (base : Nat) (text : List Char) : Option Int := do
  let (negative, digits) ← signedDigits? base text
  let magnitude ← digitsNumber? base digits
  return if negative then -(magnitude : Int) else magnitude

end ElasticEndpoint.Text
