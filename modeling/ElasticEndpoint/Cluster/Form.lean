import ElasticEndpoint.Cluster.Timestamp
import ElasticEndpoint.Problem
import ElasticEndpoint.Text.Integer
import ElasticEndpoint.Value.Display

/-!
Forms. The cluster knows of every field of its objects what it holds, and data for an object is
brought into that form: fields that it does not know are left out, and a value of another kind is
taken for what the field holds as far as it can be.
-/

namespace ElasticEndpoint.Cluster

inductive Form where
  | text
  | whole
  | truth
  | time
  /-- Data of any form, which is kept as it is. -/
  | anything
  | list (item : Form)
  /-- Values of one form under names of any kind. -/
  | table (item : Form)
  /-- Fields with their names, some of which must be there. -/
  | object (fields : List (String × Bool × Form))

namespace Form

def toText (data : Value) : Except Crash Value :=
  if data.writable then .ok (.text data.shown) else .error .unreadableNumber

def readWhole (text : String) : Except Crash Value :=
  match Text.readInteger? 10 text.toList with
  | some n => if Text.isTooLong n then .error .unreadableNumber else .ok (.int n)
  | none => .error .unreadableNumber

def toWhole : Value → Except Crash Value
  | .bool b => .ok (.int (if b then 1 else 0))
  | .real x =>
    match x.truncated? with
    | some n => .ok (.int n)
    | none => .error (if x == .nan then .unreadableNumber else .tooLarge)
  | .text s => readWhole s
  | data => .ok data

def toTime : Value → Except Crash Value
  | .text s =>
    match Timestamp.read s.toList with
    | .ok moment => .ok (.text moment.standardText)
    | .error .unreadable => .error .unreadableTime
    | .error .tooLarge => .error .tooLarge
  | _ => .error .wrongKind

/-- The items of data: those of a list, the names of a table and the characters of a text. -/
def itemsOf : Value → Except Crash (List Value)
  | .list items => .ok items
  | .map entries => .ok (entries.map (·.1))
  | .text s => .ok (s.toList.map fun c => .text c.toString)
  | _ => .error .wrongKind

/-- The data for a field of an object. A list has no fields, even where it holds the name of one. -/
def fieldOf (name : String) : Value → Except Crash (Option Value)
  | .map entries => .ok (Value.lookup (.text name) entries)
  | .list items => if items.any (Value.sameKey (.text name)) then .error .wrongKind else .ok none
  | _ => .ok none

mutual

/-- Brings data into a form. Nothing has every form. -/
def bring : Form → Value → Except Crash Value
  | _, .null => .ok .null
  | .text, data => toText data
  | .whole, data => toWhole data
  | .truth, data => .ok (.bool data.truthy)
  | .time, data => toTime data
  | .anything, data => .ok data
  | .list item, data => do
    return .list (← (← itemsOf data).mapM (bring item))
  | .table item, .map entries => do
    return .map (← entries.mapM fun entry => do return (entry.1, ← bring item entry.2))
  | .table _, _ => .error .missingPart
  | .object fields, data => do
    let entries ← bringFields fields data
    if hasRequired fields entries then return Value.object entries else .error .incomplete

def bringFields : List (String × Bool × Form) → Value → Except Crash (List (String × Value))
  | [], _ => .ok []
  | (name, _, form) :: rest, data => do
    match ← fieldOf name data with
    | none | some .null => bringFields rest data
    | some value => do
      let brought ← bring form value
      return (name, brought) :: (← bringFields rest data)

/-- Whether the fields that must be there are among some. -/
def hasRequired : List (String × Bool × Form) → List (String × Value) → Bool
  | [], _ => true
  | (name, isRequired, _) :: rest, entries =>
    (!isRequired || (entries.lookup name).isSome) && hasRequired rest entries

end

/-- A field that may be left out. -/
def optional (name : String) (form : Form) : String × Bool × Form := (name, false, form)

def required (name : String) (form : Form) : String × Bool × Form := (name, true, form)

end Form

end ElasticEndpoint.Cluster
