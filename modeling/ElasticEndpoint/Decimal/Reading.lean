import ElasticEndpoint.Decimal.Binary64

/-!
Decimal numbers as text: an optional sign, digits with an optional point among them, and an
optional exponent. A reading is the exact scaled integer, rounded once to a binary number.
-/

namespace ElasticEndpoint.Decimal

def naturalOf (digits : List Char) : Nat :=
  digits.foldl (fun value c => 10 * value + (c.toNat - '0'.toNat)) 0

/-- A leading sign, and what follows it. -/
def takeSign : List Char → Bool × List Char
  | '-' :: rest => (true, rest)
  | '+' :: rest => (false, rest)
  | rest => (false, rest)

/-- An exponent mark with its signed digits; `none` when the text is no exponent. -/
def exponent? : List Char → Option Int
  | [] => some 0
  | mark :: rest =>
    let (negative, digits) := takeSign rest
    if (mark == 'e' || mark == 'E') && !digits.isEmpty && digits.all Char.isDigit then
      let size : Int := naturalOf digits
      some (if negative then -size else size)
    else none

/-- An unsigned decimal with a digit on at least one side of its point, as digits, scale and what
follows. -/
def decimalPart? (text : List Char) : Option (Nat × Int × List Char) :=
  let whole := text.takeWhile Char.isDigit
  let rest := text.dropWhile Char.isDigit
  let (fraction, rest) := match rest with
    | '.' :: after => (after.takeWhile Char.isDigit, after.dropWhile Char.isDigit)
    | _ => ([], rest)
  if whole.isEmpty && fraction.isEmpty then none
  else some (naturalOf (whole ++ fraction), -(fraction.length : Int), rest)

/-- The number a signed decimal text denotes, with an exponent allowed. -/
def readDecimal? (text : List Char) : Option Binary64 := do
  let (negative, body) := takeSign text
  let (digits, scale, rest) ← decimalPart? body
  return Binary64.ofDecimal negative digits (scale + (← exponent? rest))

/-- The words for the values that are not finite, in any case. -/
def readSpecial? (text : List Char) : Option Binary64 :=
  let (negative, body) := takeSign text
  let word := String.ofList (body.map Char.toLower)
  if word == "inf" || word == "infinity" then some (.infinite negative)
  else if word == "nan" then some .nan
  else none

/-- A number as text: a decimal or one of the words. -/
def readNumber? (text : List Char) : Option Binary64 :=
  (readSpecial? text).or (readDecimal? text)

end ElasticEndpoint.Decimal
