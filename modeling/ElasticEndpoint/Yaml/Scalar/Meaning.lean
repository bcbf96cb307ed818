import ElasticEndpoint.Decimal.Reading
import ElasticEndpoint.Text.Base64
import ElasticEndpoint.Text.Case
import ElasticEndpoint.Text.Integer
import ElasticEndpoint.Text.Split
import ElasticEndpoint.Value.Display
import ElasticEndpoint.Yaml.Kind

/-!
Meanings of scalars. Under each of the scalar tags a text is converted by rules of its own, which may
take more forms than those by which a text without a tag is told to be of the kind.
-/

namespace ElasticEndpoint.Yaml

open Decimal (Binary64)

/-- What a scalar comes to: a value, or the reason why its text has none. -/
abbrev Converted := Except ConversionFault Value

def integerIn (base : Nat) (text : List Char) : Except ConversionFault Int :=
  match Text.readInteger? base text with
  | some n =>
    let digits := (text.filter fun c => (Text.decimalValue? c).isSome).length
    if base == 10 && Text.digitLimit < digits then .error (.tooManyDigits digits) else .ok n
  | none => .error (.notInteger base text)

def unsignedText (text : List Char) : Except ConversionFault (Bool × List Char) :=
  match text.filter (· != '_') with
  | [] => .error .noCharacters
  | '-' :: rest => .ok (true, rest)
  | '+' :: rest => .ok (false, rest)
  | rest => .ok (false, rest)

/-- An integer with its base told by its first characters; colons separate digits in base 60. -/
def toInteger (text : List Char) : Except ConversionFault Int := do
  let (negative, body) ← unsignedText text
  let magnitude ← match body with
    | [] => throw .noCharacters
    | ['0'] => pure 0
    | '0' :: 'b' :: rest => integerIn 2 rest
    | '0' :: 'x' :: rest => integerIn 16 rest
    | '0' :: _ => integerIn 8 body
    | _ =>
      if body.contains ':' then do
        let digits ← (Text.splitOn ':' body).mapM (integerIn 10)
        pure (digits.foldl (fun value digit => 60 * value + digit) 0)
      else integerIn 10 body
  return if negative then -magnitude else magnitude

/-- A decimal number, in digits of every script and with blanks around it allowed. -/
def toNumber (text : List Char) : Except ConversionFault Binary64 :=
  match Text.joinDigits ((Text.trim Text.isBlank text).map Text.plainDigit) with
  | some trimmed => match Decimal.readNumber? trimmed with
    | some x => .ok x
    | none => .error (.notNumber text)
  | none => .error (.notNumber text)

def noNumberWord : List Char := ".nan".toList

/-- Digits in base 60, summed from the last, as long as the weights of the digits are numbers. -/
def sumSixties (digits : List Binary64) : Except ConversionFault Binary64 :=
  let weight := fun place : Nat => Binary64.ofInt (Int.ofNat (Nat.pow 60 place))
  if (weight (digits.length - 1)).isFinite then
    .ok ((digits.reverse.zipIdx.map fun entry => entry.1.mul (weight entry.2)).foldl Binary64.add
      (Binary64.zero false))
  else .error .baseTooLarge

/-- A number with a point; colons separate digits in base 60. -/
def toReal (text : List Char) : Except ConversionFault Binary64 := do
  let (negative, body) ← unsignedText (Text.toLower text)
  let magnitude ←
    if body == ".inf".toList then pure (.infinite false)
    else if body == noNumberWord then pure .nan
    else if body.contains ':' then do sumSixties (← (Text.splitOn ':' body).mapM toNumber)
    else toNumber body
  return if negative then magnitude.negate else magnitude

/-- Whether a text under the tag of numbers with a point is the word for a number that is none. -/
def isNoNumberWord (text : List Char) : Bool :=
  match unsignedText (Text.toLower text) with
  | .ok (_, body) => body == noNumberWord
  | .error _ => false

def toTruth (text : List Char) : Except ConversionFault Bool :=
  let lower := Text.toLower text
  let word := String.ofList lower
  if ["yes", "true", "on"].contains word then .ok true
  else if ["no", "false", "off"].contains word then .ok false
  else .error (.notBoolean lower)

/-- A day that is in the calendar. -/
def toDate (moment : MomentText) : Except ConversionFault Date :=
  if moment.year == 0 then .error (.yearRange moment.year)
  else if moment.month == 0 || 12 < moment.month then .error .monthRange
  else if moment.day == 0 || Date.daysIn moment.year moment.month < moment.day then .error .dayRange
  else .ok ⟨moment.year, moment.month, moment.day⟩

def spanShown (seconds : Int) : String :=
  let days := Int.fdiv seconds 86400
  let rest := seconds - 86400 * days
  let parts := (if days == 0 then [] else [s!"days={days}"]) ++ (if rest == 0 then [] else [s!"seconds={rest}"])
  "datetime.timedelta(" ++ ", ".intercalate parts ++ ")"

/-- The first six digits of a fraction of a second, as microseconds. -/
def microseconds (fraction : List Char) : Nat :=
  let digits := fraction.take 6
  Decimal.naturalOf (digits ++ List.replicate (6 - digits.length) '0')

/-- A day, or a time that exists on it. -/
def toMoment (text : List Char) : Converted := do
  match momentText? (if text.getLast? == some '\n' then text.dropLast else text) with
  | none => throw .notMoment
  | some moment =>
    match moment.clock with
    | none => return .date (← toDate moment)
    | some clock =>
      match clock.offset with
      | some offset => if 86400 ≤ offset.natAbs then throw (.offsetRange (spanShown offset))
      | none => pure ()
      let date ← toDate moment
      if 23 < clock.hour then throw .hourRange
      if 59 < clock.minute then throw .minuteRange
      if 59 < clock.second then throw .secondRange
      return .moment ⟨date, clock.hour, clock.minute, clock.second, microseconds clock.fraction, clock.offset⟩

/-- The value of a text under a scalar tag; `none` for the other tags. -/
def scalarValue? (tag : Tag) (content : ScalarText) : Option Converted :=
  match tag with
  | .null => some (.ok .null)
  | .bool => some (Value.bool <$> toTruth content.chars)
  | .int => some (Value.int <$> toInteger content.chars)
  | .float => some (Value.real <$> toReal content.chars)
  | .timestamp => some (toMoment content.chars)
  | .str => some (.ok (.ofPoints content.points))
  | _ => none

def binaryValue (content : ScalarText) (start : Place) : Except Fault Value :=
  match content.chars.findIdx? fun c => 0x80 ≤ c.toNat with
  | some position =>
    let rest := content.chars.drop position
    let run := rest.takeWhile fun c => 0x80 ≤ c.toNat
    .error (.marked .constructing none (.notAscii position run.length (rest.head?.getD ' ')) start)
  | none => match Text.Base64.decode content.chars with
    | .ok bytes => .ok (.bytes bytes)
    | .error reason => .error (.marked .constructing none (.badBase64 reason) start)

end ElasticEndpoint.Yaml
