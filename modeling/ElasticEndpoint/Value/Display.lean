import ElasticEndpoint.Value.Basic
import ElasticEndpoint.Decimal.Shortest
import ElasticEndpoint.Text.Digit
import ElasticEndpoint.Text.Quoted

/-!
Values as shown in messages. A text alone is shown as it is; everything else, and a text inside a
collection, is shown in the quoted form that tells the kinds of values apart.
-/

namespace ElasticEndpoint

open Decimal (Binary64)

def Date.shown (d : Date) : String := s!"datetime.date({d.year}, {d.month}, {d.day})"

/-- An offset from universal time as shown in messages: whole days below and seconds above. -/
def offsetShown (offset : Int) : String :=
  if offset == 0 then "datetime.timezone.utc"
  else
    let days := Int.fdiv offset 86400
    let seconds := offset - 86400 * days
    let parts := (if days == 0 then [] else [s!"days={days}"]) ++
      (if seconds == 0 then [] else [s!"seconds={seconds}"])
    "datetime.timezone(datetime.timedelta(" ++ ", ".intercalate parts ++ "))"

/-- A time as shown in messages; seconds and microseconds are left out while they are zero. -/
def Moment.shown (m : Moment) : String :=
  let small :=
    if m.microsecond != 0 then [toString m.second, toString m.microsecond]
    else if m.second != 0 then [toString m.second]
    else []
  let zone := match m.offset with
    | none => []
    | some offset => ["tzinfo=" ++ offsetShown offset]
  let parts := [toString m.date.year, toString m.date.month, toString m.date.day,
    toString m.hour, toString m.minute] ++ small ++ zone
  "datetime.datetime(" ++ ", ".intercalate parts ++ ")"

namespace Value

mutual

def quoted : Value → String
  | .null => "None"
  | .bool b => if b then "True" else "False"
  | .int n => toString n
  | .real x => x.shortest
  | .text s => Text.quoted s
  | .brokenText points => Text.quotedPoints points
  | .bytes bs => Text.quotedBytes bs
  | .date d => d.shown
  | .moment m => m.shown
  | .list items => "[" ++ ", ".intercalate (quotedItems items) ++ "]"
  | .tuple [item] => "(" ++ item.quoted ++ ",)"
  | .tuple items => "(" ++ ", ".intercalate (quotedItems items) ++ ")"
  | .set [] => "set()"
  | .set members => "\x7b" ++ ", ".intercalate (quotedItems members) ++ "\x7d"
  | .map entries => "\x7b" ++ ", ".intercalate (quotedEntries entries) ++ "\x7d"
  | .cycle isMap => if isMap then "\x7b...\x7d" else "[...]"

def quotedItems : List Value → List String
  | [] => []
  | item :: rest => item.quoted :: quotedItems rest

/-- The entries of a mapping in quoted form, keys before values. -/
def quotedEntries : List (Value × Value) → List String
  | [] => []
  | (key, value) :: rest => (key.quoted ++ ": " ++ value.quoted) :: quotedEntries rest

end

mutual

/-- A value can be written when every integer in it can. -/
def writable : Value → Bool
  | .int n => !Text.isTooLong n
  | .list items => writableItems items
  | .tuple items => writableItems items
  | .set members => writableItems members
  | .map entries => writableEntries entries
  | _ => true

def writableItems : List Value → Bool
  | [] => true
  | item :: rest => item.writable && writableItems rest

def writableEntries : List (Value × Value) → Bool
  | [] => true
  | (key, value) :: rest => key.writable && value.writable && writableEntries rest

end

/-- A value as it stands in a sentence. -/
def shown : Value → String
  | .text s => s
  | .brokenText points => Text.ofPoints points
  | value => value.quoted

def kindName : Value → String
  | .null => "NoneType"
  | .bool _ => "bool"
  | .int _ => "int"
  | .real _ => "float"
  | .text _ => "str"
  | .brokenText _ => "str"
  | .bytes _ => "bytes"
  | .date _ => "date"
  | .moment _ => "datetime"
  | .list _ => "list"
  | .tuple _ => "tuple"
  | .set _ => "set"
  | .map _ => "dict"
  | .cycle isMap => if isMap then "dict" else "list"

end Value

end ElasticEndpoint
