import ElasticEndpoint.Value.Display
import ElasticEndpoint.Text.Utf8

/-!
Complaints about data. Data that does not fit a record is refused with one complaint for every field
at fault, in the order of the fields.
-/

namespace ElasticEndpoint

/-- What is wrong with one field. A rule is one that the record itself lays down. -/
inductive Complaint where
  | missing
  | notText
  | brokenText
  | notInteger
  | unreadableInteger
  | integerTooLong
  | fractionalInteger
  | notFinite
  | notNumber
  | unreadableNumber
  | notPolicy
  | notList
  | rule (text : String)
  deriving DecidableEq

def Complaint.code : Complaint → String
  | .missing => "missing"
  | .notText => "string_type"
  | .brokenText => "string_unicode"
  | .notInteger => "int_type"
  | .unreadableInteger => "int_parsing"
  | .integerTooLong => "int_parsing_size"
  | .fractionalInteger => "int_from_float"
  | .notFinite => "finite_number"
  | .notNumber => "float_type"
  | .unreadableNumber => "float_parsing"
  | .notPolicy => "enum"
  | .notList => "list_type"
  | .rule _ => "value_error"

def Complaint.message : Complaint → String
  | .missing => "Field required"
  | .notText => "Input should be a valid string"
  | .brokenText => "Input should be a valid string, unable to parse raw data as a unicode string"
  | .notInteger => "Input should be a valid integer"
  | .unreadableInteger => "Input should be a valid integer, unable to parse string as an integer"
  | .integerTooLong => "Unable to parse input string as an integer, exceeded maximum size"
  | .fractionalInteger => "Input should be a valid integer, got a number with a fractional part"
  | .notFinite => "Input should be a finite number"
  | .notNumber => "Input should be a valid number"
  | .unreadableNumber => "Input should be a valid number, unable to parse string as a number"
  | .notPolicy => "Input should be 'unhealthy' or 'error'"
  | .notList => "Input should be a valid list"
  | .rule text => s!"Value error, {text}"

/-- A step from a record to what is wrong in it. -/
inductive Step where
  | field (name : String)
  | item (index : Nat)
  deriving DecidableEq

def Step.shown : Step → String
  | .field name => name
  | .item index => toString index

/-- A complaint with the way to the data at fault and that data. -/
structure Finding where
  path : List Step
  complaint : Complaint
  input : Value

structure Refusal where
  record : String
  findings : List Finding

/-- Data for one field is accepted as a value or refused. -/
abbrev Checked (α : Type) := Except Complaint α

/-- The bytes of the longest beginning of a text that has at most `limit` of them. -/
def takeBytes (limit : Nat) : List Char → List Char
  | [] => []
  | c :: rest => if c.utf8Size ≤ limit then c :: takeBytes (limit - c.utf8Size) rest else []

/-- The longest end of a text that has at most `limit` bytes. -/
def takeLastBytes (limit : Nat) (text : List Char) : List Char := (takeBytes limit text.reverse).reverse

/-- A long text is shown by its beginning and its end. -/
def abridged (text : String) : String :=
  if 50 < text.utf8ByteSize then
    String.ofList (takeBytes 25 text.toList ++ ['.', '.', '.'] ++ takeLastBytes 24 text.toList)
  else text

/-- A value as it is shown in a finding: abridged, or by its kind when it cannot be written. -/
def Value.exhibit (value : Value) : String :=
  if value.writable then abridged value.quoted else s!"<unprintable {value.kindName} object>"

def Finding.message (finding : Finding) : String :=
  ".".intercalate (finding.path.map Step.shown) ++ "\n  " ++ finding.complaint.message ++
    s!" [type={finding.complaint.code}, input_value={finding.input.exhibit}, " ++
    s!"input_type={finding.input.kindName}]"

def Refusal.message (refusal : Refusal) : String :=
  let count := refusal.findings.length
  let plural := if count == 1 then "" else "s"
  "\n".intercalate (s!"{count} validation error{plural} for {refusal.record}" ::
    refusal.findings.map Finding.message)

def Value.toText : Value → Checked String
  | .text s => .ok s
  | .bytes bs => match Text.Utf8.decode? bs with
    | some s => .ok s
    | none => .error .brokenText
  | .brokenText _ => .error .brokenText
  | _ => .error .notText

def Value.toOptionalText : Value → Checked (Option String)
  | .null => .ok none
  | value => some <$> value.toText

def Checked.located {α : Type} (path : List Step) (input : Value) (checked : Checked α) : Except Finding α :=
  checked.mapError fun complaint => ⟨path, complaint, input⟩

def findingOf {α : Type} : Except Finding α → List Finding
  | .ok _ => []
  | .error finding => [finding]

/-- A field of some data: its default where it is left out, and checked where it is given. -/
def optionalField {α : Type} (data : List (Value × Value)) (name : String) (fallback : α) (check : Value → Checked α) :
    Except Finding α :=
  match Value.lookup (.text name) data with
  | none => .ok fallback
  | some input => (check input).located [.field name] input

def requiredField {α : Type} (data : List (Value × Value)) (name : String) (check : Value → Checked α) :
    Except Finding α :=
  match Value.lookup (.text name) data with
  | none => .error ⟨[.field name], .missing, .map data⟩
  | some input => (check input).located [.field name] input

end ElasticEndpoint
