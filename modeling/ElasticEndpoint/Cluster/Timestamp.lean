import ElasticEndpoint.Calendar
import ElasticEndpoint.Text.Blank
import ElasticEndpoint.Text.Word

/-!
Timestamps. A timestamp is read from text in whatever order its parts stand: numbers with dashes,
slashes or points between them are parts of a day, numbers with colons or with the name of a unit
behind them are parts of a time, and a sign behind a time begins an offset. Which part of a day a
number is, is settled by its size and its place once all of them are known.
-/

namespace ElasticEndpoint.Cluster.Timestamp

/-- Why a text gives no timestamp: it cannot be read, or a number in it is too large. -/
inductive Fault where
  | unreadable
  | tooLarge
  deriving DecidableEq

/-- A token: a word, a number, a blank, or a single other character. -/
abbrev Token := List Char

/-! Tokens -/

def isLetter (c : Char) : Bool := Text.isWordCharacter c && c != '_' && !Text.isDigitLike c

/-- What a token that is being read is so far: a word or a number, without or with points. -/
inductive Phase where
  | word
  | number
  | dottedWord
  | dottedNumber
  deriving DecidableEq

/-- A token that is being read, last character first. Whether it has letters is known only from what
comes behind them. -/
structure Reading where
  phase : Phase
  reversed : List Char
  hasLetters : Bool := false

/-- The reading with one more character, or `none` when the character is not part of the token. -/
def Reading.add? (reading : Reading) (c : Char) : Option Reading :=
  let goOn := fun phase => some { reading with phase := phase, reversed := c :: reading.reversed }
  let isBehindPoint := reading.reversed.head? == some '.'
  match reading.phase with
  | .word => if isLetter c then goOn .word else if c == '.' then goOn .dottedWord else none
  | .number =>
    if Text.isDigitLike c then goOn .number
    else if c == '.' || (c == ',' && 2 ≤ reading.reversed.length) then goOn .dottedNumber
    else none
  | .dottedWord =>
    if c == '.' || isLetter c then goOn .dottedWord
    else if Text.isDigitLike c && isBehindPoint then goOn .dottedNumber
    else none
  | .dottedNumber =>
    if c == '.' || Text.isDigitLike c then goOn .dottedNumber
    else if isLetter c && isBehindPoint then goOn .dottedWord
    else none

def Phase.isWord (phase : Phase) : Bool := phase == .word || phase == .dottedWord

def Reading.finish (reading : Reading) : List Char → Reading × List Char
  | [] => (reading, [])
  | c :: rest =>
    let reading := { reading with hasLetters := reading.hasLetters || reading.phase.isWord }
    match reading.add? c with
    | some longer => longer.finish rest
    | none => (reading, c :: rest)

/-- A text cut before and behind every point and comma. -/
def splitPoints : List Char → List Token
  | [] => []
  | c :: rest =>
    if c == '.' || c == ',' then [c] :: splitPoints rest
    else match splitPoints rest with
      | [] => [[c]]
      | part :: parts => if part == ['.'] || part == [','] then [c] :: part :: parts else (c :: part) :: parts

/-- The tokens that a reading comes to: one number with a point, or the parts between points. -/
def Reading.tokens (reading : Reading) : List Token :=
  let token := reading.reversed.reverse
  let isDotted := reading.phase == .dottedWord || reading.phase == .dottedNumber
  let endsInPoint := reading.reversed.head?.any fun c => c == '.' || c == ','
  if isDotted && (reading.hasLetters || 1 < token.count '.' || endsInPoint) then splitPoints token
  else if reading.phase == .dottedNumber && !token.contains '.' then
    [token.map fun c => if c == ',' then '.' else c]
  else [token]

/-- The tokens of a text, at most so many. -/
def tokensWithin : Nat → List Char → List Token
  | 0, _ => []
  | _, [] => []
  | fuel + 1, c :: rest =>
    if isLetter c || Text.isDigitLike c then
      let (reading, behind) := Reading.finish ⟨if isLetter c then .word else .number, [c], false⟩ rest
      reading.tokens ++ tokensWithin fuel behind
    else (if Text.isBlank c then [' '] else [c]) :: tokensWithin fuel rest

def tokens (text : List Char) : Array Token :=
  let text := text.filter (· != '\x00')
  (tokensWithin text.length text).toArray

/-! Words -/

/-- The place of the group of words that a word belongs to, in whichever case it is written. -/
def placeIn? (groups : List (List String)) (token : Token) : Option Nat :=
  let word := String.ofList (token.map Char.toLower)
  groups.findIdx? (·.contains word)

def months : List (List String) := [
  ["jan", "january"], ["feb", "february"], ["mar", "march"], ["apr", "april"], ["may"], ["jun", "june"],
  ["jul", "july"], ["aug", "august"], ["sep", "sept", "september"], ["oct", "october"],
  ["nov", "november"], ["dec", "december"]]

def weekdays : List (List String) := [
  ["mon", "monday"], ["tue", "tuesday"], ["wed", "wednesday"], ["thu", "thursday"], ["fri", "friday"],
  ["sat", "saturday"], ["sun", "sunday"]]

def units : List (List String) := [
  ["h", "hour", "hours"], ["m", "minute", "minutes"], ["s", "second", "seconds"]]

def halves : List (List String) := [["am", "a"], ["pm", "p"]]

def fillers : List String := [
  " ", ".", ",", ";", "-", "/", "'", "at", "on", "and", "ad", "m", "t", "of", "st", "nd", "rd", "th"]

/-- The names of universal time, as they may be written. -/
def universalNames : List String := ["UTC", "GMT", "Z", "z"]

def month? (token : Token) : Option Nat := (placeIn? months token).map (· + 1)

def unit? (token : Token) : Option Nat := placeIn? units token

def half? (token : Token) : Option Nat := placeIn? halves token

def isFiller (token : Token) : Bool := (placeIn? [fillers] token).isSome

def isUniversal (token : Token) : Bool := (placeIn? [["utc", "gmt", "z"]] token).isSome

/-! Numbers -/

def natural? (digits : Token) : Option Nat := if digits.isEmpty then none else Text.decimalNumber? digits

/-- A number with a fraction: the whole part, and the digits of the fraction. -/
structure Amount where
  whole : Nat
  fraction : Nat := 0
  unit : Nat := 1

def amount? (token : Token) : Option Amount :=
  let whole := token.takeWhile (· != '.')
  match token.drop whole.length with
  | [] => (natural? whole).map fun n => ⟨n, 0, 1⟩
  | _ :: digits => do return ⟨← natural? whole, ← natural? digits, Nat.pow 10 digits.length⟩

def Amount.sixtieths? (amount : Amount) : Option Nat :=
  if amount.fraction == 0 then none else some (60 * amount.fraction / amount.unit)

/-- Seconds and microseconds, of which the first six digits count. -/
def seconds? (token : Token) : Option (Nat × Nat) :=
  let whole := token.takeWhile (· != '.')
  match token.drop whole.length with
  | [] => (natural? whole).map fun n => (n, 0)
  | _ :: digits => do
    let six := (digits ++ List.replicate (6 - digits.length) '0').take 6
    return (← natural? whole, ← natural? six)

/-! Drafts -/

/-- Which part of a day a number is known to be. -/
inductive Label where
  | year
  | month
  | day
  deriving DecidableEq

/-- What has been read of a timestamp: the numbers of its day with what is known about them, and the
parts of its time. -/
structure Draft where
  day : List (Nat × Option Label) := []
  hasCentury : Bool := false
  hasWeekday : Bool := false
  hour : Option Nat := none
  minute : Option Nat := none
  second : Option Nat := none
  microsecond : Option Nat := none
  zone : Option Token := none
  offset : Option Int := none

/-- The number of a day that is known to be one part of it. -/
def Draft.labelled? (draft : Draft) (label : Label) : Option Nat :=
  (draft.day.find? fun part => part.2 == some label).map (·.1)

/-- A draft with one more number of the day. No two numbers are the same part. -/
def Draft.addLabelled (draft : Draft) (n : Nat) (label : Option Label) : Option Draft :=
  if label.any fun known => (draft.labelled? known).isSome then none
  else some { draft with day := draft.day ++ [(n, label)] }

/-- A draft with one more number of the day; one above a hundred is the year. -/
def Draft.addNumber (draft : Draft) (n : Nat) (isLarge : Bool) (label : Option Label) : Option Draft :=
  if isLarge then
    if label.all (· == .year) then { draft with hasCentury := true }.addLabelled n (some .year) else none
  else draft.addLabelled n label

/-- A draft with digits as one more number of the day; more than two digits are the year. -/
def Draft.addDigits (draft : Draft) (digits : Token) (label : Option Label) : Option Draft := do
  draft.addNumber (← natural? digits) (2 < digits.length) label

def Draft.addAmount (draft : Draft) (amount : Amount) : Option Draft :=
  draft.addNumber amount.whole (100 < amount.whole || (amount.whole == 100 && amount.fraction != 0)) none

def Draft.couldBeDay (draft : Draft) (amount : Amount) : Bool :=
  let most := match draft.labelled? .month, draft.labelled? .year with
    | none, _ => 31
    | some month, none => Date.daysIn 2000 month
    | some month, some year => Date.daysIn year month
  (draft.labelled? .day).isNone && 1 ≤ amount.whole &&
    (amount.whole < most || (amount.whole == most && amount.fraction == 0))

/-- An hour of one half of a day as an hour of the day. -/
def adjusted (hour half : Nat) : Nat :=
  if hour < 12 && half == 1 then hour + 12 else if hour == 12 && half == 0 then 0 else hour

/-- Where the name of the unit for the number at a place stands. -/
def unitPlace? (tokens : Array Token) (i : Nat) : Option Nat :=
  let isUnit := fun (place : Nat) => (tokens[place]?.bind unit?).isSome
  let isBlank := fun (place : Nat) => tokens[place]? == some [' ']
  if isUnit (i + 1) then some (i + 1)
  else if isBlank (i + 1) && isUnit (i + 2) then some (i + 2)
  else if 0 < i && isUnit (i - 1) then some (i - 1)
  else if 1 < i && i + 1 == tokens.size && isBlank (i - 1) && isUnit (i - 2) then some (i - 2)
  else none

def Draft.setUnit (draft : Draft) (token : Token) (amount : Amount) (unit : Nat) : Option Draft :=
  match unit with
  | 0 => some { draft with hour := some amount.whole, minute := amount.sixtieths?.or draft.minute }
  | 1 => some { draft with minute := some amount.whole, second := amount.sixtieths? }
  | 2 => do
    let (second, microsecond) ← seconds? token
    return { draft with second := some second, microsecond := some microsecond }
  | _ => some draft

/-- Reads the number at a place, and gives the place of the last token that belongs to it. -/
def readNumber (tokens : Array Token) (i : Nat) (token : Token) (amount : Amount) (draft : Draft) :
    Option (Nat × Draft) :=
  let length := token.length
  let next := tokens[i + 1]?
  let point := token.idxOf? '.'
  if draft.day.length == 3 && (length == 2 || length == 4) && draft.hour.isNone &&
      next.all (fun next => next != [':'] && (unit? next).isNone) then do
    let hour ← natural? (token.take 2)
    if length == 4 then return (i, { draft with hour := some hour, minute := some (← natural? (token.drop 2)) })
    else return (i, { draft with hour := some hour })
  else if length == 6 || (6 < length && point == some 6) then
    if draft.day.isEmpty && point.isNone then do
      let draft ← draft.addDigits (token.take 2) none
      let draft ← draft.addDigits ((token.drop 2).take 2) none
      return (i, ← draft.addDigits (token.drop 4) none)
    else do
      let (second, microsecond) ← seconds? (token.drop 4)
      return (i, { draft with
        hour := some (← natural? (token.take 2)), minute := some (← natural? ((token.drop 2).take 2)),
        second := some second, microsecond := some microsecond })
  else if length == 8 || length == 12 || length == 14 then do
    let draft ← draft.addDigits (token.take 4) (some .year)
    let draft ← draft.addDigits ((token.drop 4).take 2) none
    let draft ← draft.addDigits ((token.drop 6).take 2) none
    if length == 8 then return (i, draft)
    else
      let draft := { draft with
        hour := some (← natural? ((token.drop 8).take 2)), minute := some (← natural? ((token.drop 10).take 2)) }
      if length == 12 then return (i, draft)
      else return (i, { draft with second := some (← natural? (token.drop 12)) })
  else match unitPlace? tokens i with
  | some place => do
    let unit ← tokens[place]?.bind unit?
    if i < place then return (place, ← draft.setUnit token amount unit)
    else return (i, ← draft.setUnit token amount (unit + 1))
  | none =>
    if next == some [':'] && i + 2 < tokens.size then do
      let minutes ← tokens[i + 2]?.bind amount?
      let draft := { draft with
        hour := some amount.whole, minute := some minutes.whole, second := minutes.sixtieths? }
      match tokens[i + 3]?, tokens[i + 4]? with
      | some [':'], some rest => do
        let (second, microsecond) ← seconds? rest
        return (i + 4, { draft with second := some second, microsecond := some microsecond })
      | _, _ => return (i + 2, draft)
    else if next.any fun next => next == ['-'] || next == ['/'] || next == ['.'] then do
      let draft ← draft.addDigits token none
      match tokens[i + 2]? with
      | none => return (i + 1, draft)
      | some second =>
        if isFiller second then return (i + 1, draft)
        else
          let draft ←
            if second.all Text.isDigitLike then draft.addDigits second none
            else draft.addLabelled (← month? second) (some .month)
          if tokens[i + 3]? == next then
            let third ← tokens[i + 4]?
            let draft ← match month? third with
              | some month => draft.addLabelled month (some .month)
              | none => draft.addDigits third none
            return (i + 4, draft)
          else return (i + 2, draft)
    else if next.all isFiller then
      match tokens[i + 2]?.bind half? with
      | some half => return (i + 2, { draft with hour := some (adjusted amount.whole half) })
      | none => do return (i + 1, ← draft.addAmount amount)
    else match next.bind half? with
    | some half =>
      if amount.whole < 24 then return (i + 1, { draft with hour := some (adjusted amount.whole half) })
      else if draft.couldBeDay amount then do return (i, ← draft.addAmount amount)
      else none
    | none => if draft.couldBeDay amount then do return (i, ← draft.addAmount amount) else none

/-- The year that is present when timestamps are read. Years of two digits lie within fifty years of
it. -/
def presentYear : Nat := 2026

/-- A year of one or two digits in its century. -/
def fullYear (year : Nat) : Nat :=
  if 100 ≤ year then year
  else
    let full := year + presentYear / 100 * 100
    if presentYear + 50 ≤ full then full - 100 else if full < presentYear - 50 then full + 100 else full

def readMonth (tokens : Array Token) (i month : Nat) (draft : Draft) : Option (Nat × Draft) := do
  let draft ← draft.addLabelled month (some .month)
  match tokens[i + 1]? with
  | none => return (i, draft)
  | some next =>
    if next == ['-'] || next == ['/'] then
      let draft ← draft.addDigits (← tokens[i + 2]?) none
      if tokens[i + 3]? == some next then
        return (i + 4, ← draft.addDigits (← tokens[i + 4]?) none)
      else return (i + 2, draft)
    else if next == [' '] && tokens[i + 3]? == some [' '] && (tokens[i + 2]?.bind (placeIn? [["of"]])).isSome then
      match tokens[i + 4]? with
      | none => return (i, draft)
      | some year =>
        if year.all Text.isDigitLike then
          let full := fullYear (← natural? year)
          return (i + 4, ← draft.addNumber full (100 ≤ full) (some .year))
        else return (i + 4, draft)
    else return (i, draft)

def Draft.couldBeZone (draft : Draft) (hasOffset : Bool) (token : Token) : Bool :=
  draft.hour.isSome && draft.zone.isNone && !hasOffset && token.length ≤ 5 &&
    (token.all (fun c => 'A' ≤ c && c ≤ 'Z') || universalNames.contains (String.ofList token))

def readOffset (tokens : Array Token) (i : Nat) (isEast : Bool) (draft : Draft) : Option (Nat × Draft) := do
  let digits ← tokens[i + 1]?
  let (hours, minutes, last) ←
    if digits.length == 4 then some (← natural? (digits.take 2), ← natural? (digits.drop 2), i)
    else if tokens[i + 2]? == some [':'] then
      some (← natural? digits, ← natural? (← tokens[i + 3]?), i + 2)
    else if digits.length ≤ 2 then some (← natural? digits, 0, i)
    else none
  let seconds : Int := hours * 3600 + minutes * 60
  let draft := { draft with offset := some (if isEast then seconds else -seconds) }
  match tokens[last + 2]?, tokens[last + 3]?, tokens[last + 4]?, tokens[last + 5]? with
  | some filler, some ['('], some zone, some [')'] =>
    if isFiller filler && 3 ≤ zone.length && draft.couldBeZone false zone then
      return (last + 5, { draft with zone := some zone })
    else return (last + 1, draft)
  | _, _, _, _ => return (last + 1, draft)

def isUnboundedWord (token : Token) : Bool := (placeIn? [["nan", "inf", "infinity"]] token).isSome

/-- Reads tokens from a place on. The sign behind the name of a zone counts the other way round. -/
def readFrom : Nat → Array Token → Nat → Draft → Option Draft
  | 0, _, _, _ => none
  | fuel + 1, tokens, i, draft =>
    match tokens[i]? with
    | none => some draft
    | some token =>
      let goOn := fun (outcome : Option (Nat × Draft)) => outcome.bind fun (last, draft) =>
        readFrom fuel tokens (last + 1) draft
      match amount? token with
      | some amount => goOn (readNumber tokens i token amount draft)
      | none =>
        if isUnboundedWord token then none
        else if (placeIn? weekdays token).isSome then goOn (some (i, { draft with hasWeekday := true }))
        else match month? token with
        | some month => goOn (readMonth tokens i month draft)
        | none =>
          match half? token with
          | some half =>
            match draft.hour with
            | some hour =>
              if hour ≤ 12 then goOn (some (i, { draft with hour := some (adjusted hour half) })) else none
            | none => none
          | none =>
            if draft.couldBeZone draft.offset.isSome token then
              let isSigned := tokens[i + 1]? == some ['+'] || tokens[i + 1]? == some ['-']
              if isSigned then
                let flipped := if tokens[i + 1]? == some ['+'] then ['-'] else ['+']
                readFrom fuel (tokens.setIfInBounds (i + 1) flipped) (i + 1)
                  { draft with zone := if isUniversal token then none else some token }
              else
                goOn (some (i, { draft with
                  zone := some token, offset := if token == ['z'] then some 0 else none }))
            else if draft.hour.isSome && (token == ['+'] || token == ['-']) then
              goOn (readOffset tokens i (token == ['+']) draft)
            else if isFiller token then goOn (some (i, draft))
            else none

/-! Days -/

structure DayParts where
  year : Option Nat := none
  month : Option Nat := none
  day : Option Nat := none

/-- The parts of a day whose numbers are all labelled, but for one at most. -/
def DayParts.ofLabels (numbers : List (Nat × Option Label)) : DayParts :=
  let labels : List Label := [.year, .month, .day]
  let missing := labels.find? fun label => numbers.all fun number => number.2 != some label
  let part := fun (label : Label) => (numbers.find? fun number =>
    number.2 == some label || (number.2.isNone && missing == some label)).map (·.1)
  ⟨part .year, part .month, part .day⟩

/-- Settles which parts of a day its numbers are. Three labelled numbers, or two of three, leave no
choice; else a number above 31 is a year, one above 12 is no month, and a month comes before its
day. -/
def resolveDay (numbers : List (Nat × Option Label)) : Option DayParts :=
  let labelled := (numbers.filter (·.2.isSome)).length
  let monthAt := numbers.findIdx? (·.2 == some .month)
  let yearAt := numbers.findIdx? (·.2 == some .year)
  if (labelled == numbers.length && 0 < labelled) || (numbers.length == 3 && labelled == 2) then
    some (DayParts.ofLabels numbers)
  else match numbers.map (·.1) with
  | [] => some {}
  | [a] => some (if 31 < a then { year := some a } else { day := some a })
  | [a, b] =>
    match monthAt with
    | some place =>
      let (month, other) := if place == 0 then (a, b) else (b, a)
      some (if 31 < other then { year := some other, month := some month }
        else { month := some month, day := some other })
    | none =>
      some (if 31 < a then { year := some a, month := some b }
        else if 31 < b then { month := some a, year := some b }
        else { month := some a, day := some b })
  | [a, b, c] =>
    some <| match monthAt with
      | some 0 => if 31 < b then ⟨some b, some a, some c⟩ else ⟨some c, some a, some b⟩
      | some 1 => if 31 < a then ⟨some a, some b, some c⟩ else ⟨some c, some b, some a⟩
      | some _ => if 31 < b then ⟨some b, some c, some a⟩ else ⟨some a, some c, some b⟩
      | none =>
        if 31 < a || yearAt == some 0 then ⟨some a, some b, some c⟩
        else if 12 < a then ⟨some c, some b, some a⟩
        else ⟨some c, some a, some b⟩
  | _ => none

def Draft.isEmpty (draft : Draft) : Bool :=
  draft.day.isEmpty && !draft.hasWeekday && draft.hour.isNone && draft.minute.isNone &&
    draft.second.isNone && draft.microsecond.isNone && draft.zone.isNone && draft.offset.isNone

/-- The offset that a draft comes to. A zone that is no name of universal time says nothing by
itself. -/
def Draft.zoneOffset (draft : Draft) : Option Int :=
  match draft.zone with
  | none => draft.offset
  | some zone => if isUniversal zone then some 0 else draft.offset

/-- The number from which on a part of a timestamp is too large: two to the 31st. -/
def partLimit : Nat := 2147483648

/-- The moment that a draft comes to; what it does not say is taken from the start of the present
year. -/
def Draft.moment (draft : Draft) : Except Fault Moment :=
  match resolveDay draft.day with
  | none => .error .unreadable
  | some parts =>
    let year := match parts.year with
      | some year => if draft.hasCentury then year else fullYear year
      | none => presentYear
    let month := parts.month.getD 1
    let day := parts.day.getD 1
    let hour := draft.hour.getD 0
    let minute := draft.minute.getD 0
    let second := draft.second.getD 0
    if draft.isEmpty then .error .unreadable
    else if [year, month, day, hour, minute, second].any (partLimit ≤ ·) then .error .tooLarge
    else if year == 0 || 9999 < year || month == 0 || 12 < month || day == 0 || Date.daysIn year month < day ||
        23 < hour || 59 < minute || 59 < second then .error .unreadable
    else .ok ⟨⟨year, month, day⟩, hour, minute, second, draft.microsecond.getD 0, draft.zoneOffset⟩

def read (text : List Char) : Except Fault Moment :=
  let tokens := tokens text
  match readFrom (tokens.size + 1) tokens 0 {} with
  | some draft => draft.moment
  | none => .error .unreadable

end ElasticEndpoint.Cluster.Timestamp
