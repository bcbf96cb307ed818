import ElasticEndpoint.Yaml.Fault

/-!
Kinds of scalars. A plain scalar without a tag is a number, a truth value, a time, nothing, or one
of two marks of mappings when its text has the form of one; every other scalar is text.
-/

namespace ElasticEndpoint.Yaml

/-- The tags of the standard kinds, and every other tag by its full name. -/
inductive Tag where
  | null
  | bool
  | int
  | float
  | str
  | seq
  | map
  | set
  | omap
  | pairs
  | binary
  | timestamp
  | merge
  | defaultKey
  | other (name : List Char)
  deriving DecidableEq

namespace Tag

/-- What the full names of the standard tags begin with. -/
def standard : List Char := "tag:yaml.org,2002:".toList

def names : List (String × Tag) :=
  [("null", .null), ("bool", .bool), ("int", .int), ("float", .float), ("str", .str), ("seq", .seq),
    ("map", .map), ("set", .set), ("omap", .omap), ("pairs", .pairs), ("binary", .binary),
    ("timestamp", .timestamp), ("merge", .merge), ("value", .defaultKey)]

def ofName (name : List Char) : Tag :=
  if standard.isPrefixOf name then
    (names.lookup (String.ofList (name.drop standard.length))).getD (.other name)
  else .other name

def name : Tag → List Char
  | .other name => name
  | tag => standard ++ ((names.find? fun entry => entry.2 == tag).map (·.1.toList)).getD []

end Tag

def isNumeralChar (c : Char) : Bool := c.isDigit || c == '_'

def dropSign : List Char → List Char
  | '-' :: rest => rest
  | '+' :: rest => rest
  | rest => rest

/-- Groups of a colon and a number below sixty, up to the end or a point: what is left then, and
whether there was a group. -/
def dropSixties : Nat → List Char → Option (List Char)
  | 0, _ => none
  | fuel + 1, text =>
    match text with
    | ':' :: rest =>
      let digits := rest.takeWhile Char.isDigit
      let below := match digits with
        | [_] => true
        | [tens, _] => tens ≤ '5'
        | _ => false
      let after := rest.drop digits.length
      if !below then none
      else if after.head? == some ':' then dropSixties fuel after
      else some after
    | _ => none

/-- A text is an integer in base 2, 8, 10, 16 or 60. -/
def isIntegerText (text : List Char) : Bool :=
  match dropSign text with
  | ['0'] => true
  | '0' :: 'b' :: c :: rest => (c :: rest).all fun d => d == '0' || d == '1' || d == '_'
  | '0' :: 'x' :: c :: rest => (c :: rest).all fun d => (hexLike d)
  | '0' :: rest => rest.all fun d => ('0' ≤ d && d ≤ '7') || d == '_'
  | c :: rest =>
    c.isDigit && (
      let after := rest.dropWhile isNumeralChar
      after.isEmpty || dropSixties after.length after == some [])
  | [] => false
where
  /-- Hexadecimal digits and underscores. -/
  hexLike (c : Char) : Bool :=
    c.isDigit || ('a' ≤ c && c ≤ 'f') || ('A' ≤ c && c ≤ 'F') || c == '_'

/-- An exponent with a sign and digits, or nothing. -/
def isSignedExponent : List Char → Bool
  | [] => true
  | mark :: sign :: c :: rest =>
    (mark == 'e' || mark == 'E') && (sign == '-' || sign == '+') && (c :: rest).all Char.isDigit
  | _ => false

/-- A text is a number with a point, in base 10 or 60, or one of the words for infinity and for no
number. -/
def isFloatText (text : List Char) : Bool :=
  let unsigned := dropSign text
  let special := [".inf", ".Inf", ".INF"].any (·.toList == unsigned) ||
    [".nan", ".NaN", ".NAN"].any (·.toList == text)
  let fractional := match text with
    | '.' :: c :: rest => c.isDigit && isSignedExponent (rest.dropWhile isNumeralChar)
    | _ => false
  let decimal := match unsigned with
    | c :: rest =>
      c.isDigit && (match rest.dropWhile isNumeralChar with
        | '.' :: fraction => isSignedExponent (fraction.dropWhile isNumeralChar)
        | after => match dropSixties after.length after with
          | some ('.' :: fraction) => fraction.all isNumeralChar
          | _ => false)
    | [] => false
  special || fractional || decimal

/-- A time of day as written, with the digits of its fraction and its offset. -/
structure ClockText where
  hour : Nat
  minute : Nat
  second : Nat
  fraction : List Char
  offset : Option Int
  deriving DecidableEq

/-- A day as written, with its time if it has one. -/
structure MomentText where
  year : Nat
  month : Nat
  day : Nat
  clock : Option ClockText
  deriving DecidableEq

def digitRun (least most : Nat) (text : List Char) : Option (Nat × List Char) :=
  let digits := (text.take most).takeWhile Char.isDigit
  if digits.length < least then none
  else some (digits.foldl (fun value c => 10 * value + (c.toNat - 48)) 0, text.drop digits.length)

def dropChar (c : Char) : List Char → Option (List Char)
  | d :: rest => if c == d then some rest else none
  | [] => none

/-- The offset at the end of a time: a letter for universal time, or signed hours with optional
minutes. -/
def offsetText (text : List Char) : Option (Option Int) :=
  match text with
  | [] => some none
  | _ => match text.dropWhile fun c => c == ' ' || c == '\t' with
    | ['Z'] => some (some 0)
    | sign :: rest => do
      guard (sign == '+' || sign == '-')
      let (hours, rest) ← digitRun 1 2 rest
      let minutes ← match rest with
        | [] => some 0
        | _ => do
          let (minutes, rest) ← digitRun 2 2 (← dropChar ':' rest)
          guard rest.isEmpty
          some minutes
      let seconds : Int := 3600 * hours + 60 * minutes
      some (some (if sign == '-' then -seconds else seconds))
    | [] => none

def clockText (text : List Char) : Option ClockText := do
  let rest ← match text with
    | 'T' :: rest => some rest
    | 't' :: rest => some rest
    | c :: rest =>
      if c == ' ' || c == '\t' then some (rest.dropWhile fun d => d == ' ' || d == '\t') else none
    | [] => none
  let (hour, rest) ← digitRun 1 2 rest
  let (minute, rest) ← digitRun 2 2 (← dropChar ':' rest)
  let (second, rest) ← digitRun 2 2 (← dropChar ':' rest)
  let (fraction, rest) := match rest with
    | '.' :: after => (after.takeWhile Char.isDigit, after.dropWhile Char.isDigit)
    | _ => ([], rest)
  let offset ← offsetText rest
  return ⟨hour, minute, second, fraction, offset⟩

def momentText? (text : List Char) : Option MomentText := do
  let (year, rest) ← digitRun 4 4 text
  let (month, rest) ← digitRun 1 2 (← dropChar '-' rest)
  let (day, rest) ← digitRun 1 2 (← dropChar '-' rest)
  match rest with
  | [] => return ⟨year, month, day, none⟩
  | _ => return ⟨year, month, day, some (← clockText rest)⟩

/-- A plain text is a day when its month and day have two digits each, and a time in any form. -/
def isMomentText (text : List Char) : Bool :=
  match momentText? text with
  | some moment => moment.clock.isSome || text.length == 10
  | none => false

def truthWords : List String :=
  ["yes", "Yes", "YES", "no", "No", "NO", "true", "True", "TRUE", "false", "False", "FALSE",
    "on", "On", "ON", "off", "Off", "OFF"]

def nullWords : List String := ["", "~", "null", "Null", "NULL"]

/-- The tag of a scalar that is written without quotes and without a tag. A line feed at its end
does not count. -/
def Tag.ofPlain (chars : List Char) : Tag :=
  let text := if chars.getLast? == some '\n' && 1 < chars.length then chars.dropLast else chars
  let word := String.ofList text
  if truthWords.contains word then .bool
  else if isFloatText text then .float
  else if isIntegerText text then .int
  else if word == "<<" then .merge
  else if nullWords.contains word then .null
  else if isMomentText text then .timestamp
  else if word == "=" then .defaultKey
  else if word == "!" || word == "&" || word == "*" then .other (Tag.standard ++ "yaml".toList)
  else .str

end ElasticEndpoint.Yaml
