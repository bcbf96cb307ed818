import ElasticEndpoint.Http
import ElasticEndpoint.Text.Blank
import ElasticEndpoint.Text.Quoted

/-!
Values of headers. What is sent as the value of a header does not begin with a blank, has no line
break in it, and has a code of one byte for every character. Any other value is refused before the
request is sent, and what is said then tells the value.
-/

namespace ElasticEndpoint.Http

def isHeaderValue (value : String) : Bool :=
  !value.toList.head?.any Text.isBlank && value.toList.all fun c => c != '\n' && c != '\r' && c.toNat < 256

/-- The check that is made of a value first. A single line feed at the end passes it. -/
def passesCheck (value : List Char) : Bool :=
  let checked := if value.getLast? = some '\n' then value.dropLast else value
  !checked.head?.any Text.isBlank && checked.all fun c => c != '\n' && c != '\r'

/-- What comes of a request for the value of a header alone, if that is refused. -/
def headerRefusal? (value : String) : Option Outcome :=
  if !passesCheck value.toList then
    some (.failed "InvalidHeader" ("Invalid leading whitespace, reserved character(s), or return " ++
      s!"character(s) in header value: {Text.quoted value}"))
  else if value.toList.any (255 < ·.toNat) then some (.broken "ordinal not in range(256)")
  else if value.toList.contains '\n' then
    some (.broken s!"Invalid header value {Text.quotedBytes (value.toList.map (·.toNat.toUInt8))}")
  else none

private theorem headerRefusal?_stages {value : String} : headerRefusal? value = none ↔
    passesCheck value.toList = true ∧ value.toList.any (255 < ·.toNat) = false ∧ '\n' ∉ value.toList := by
  unfold headerRefusal?
  cases passesCheck value.toList with
  | false => simp
  | true =>
    cases value.toList.any (255 < ·.toNat) with
    | true => simp
    | false => simp

/-- What can be sent is not refused. -/
theorem headerRefusal?_eq_none_iff {value : String} :
    headerRefusal? value = none ↔ isHeaderValue value = true := by
  rw [headerRefusal?_stages]
  by_cases feed : '\n' ∈ value.toList
  · have unsendable : isHeaderValue value = false := by
      unfold isHeaderValue
      grind
    simp [feed, unsendable]
  · have last : value.toList.getLast? ≠ some '\n' := fun last => feed (List.mem_of_getLast? last)
    simp only [passesCheck, isHeaderValue, if_neg last, Bool.and_eq_true, List.all_eq_true, List.any_eq_false,
      decide_eq_true_eq]
    grind

end ElasticEndpoint.Http
