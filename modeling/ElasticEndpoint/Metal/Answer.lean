import ElasticEndpoint.Problem
import ElasticEndpoint.Reservation
import ElasticEndpoint.Text.Split
import ElasticEndpoint.Text.Blank

/-!
Answers of the cloud interface as reservations and assignments. An answer is taken apart in the
order in which its parts are needed; one that lacks a part, or has a part of another kind, is not
answered for. What is taken out is then checked field by field.
-/

namespace ElasticEndpoint.Metal

abbrev Reading := Except Crash

/-- A field that may be left out; only mappings have fields. -/
def optionalPart (name : String) : Value → Reading Value
  | .map entries => .ok ((Value.lookup (.text name) entries).getD .null)
  | _ => .error .missingPart

/-- A field that must be there; looking for it in anything but a mapping is looking for the wrong
kind of part. -/
def requiredPart (name : String) : Value → Reading Value
  | .map entries => match Value.lookup (.text name) entries with
    | some value => .ok value
    | none => .error (.missingKey name)
  | _ => .error .wrongKind

/-- A field of a part that itself may be left out or empty. -/
def optionalInner (outer inner : String) (data : Value) : Reading Value := do
  let part ← optionalPart outer data
  if part.truthy then optionalPart inner part else return .null

/-- The parts of a value that can be gone through: the items of a list, the keys of a mapping, the
characters of a text. -/
def partsOf : Value → Reading (List Value)
  | .list items => .ok items
  | .map entries => .ok (entries.map (·.1))
  | .text s => .ok (s.toList.map fun c => .text (String.ofList [c]))
  | .brokenText points => .ok (points.map fun point => .ofPoints [point])
  | _ => .error .wrongKind

def deviceOfReference (reference : List Nat) : Value :=
  let isSlash := fun point => point == '/'.toNat
  .ofPoints ((reference.reverse.dropWhile isSlash).takeWhile (!isSlash ·)).reverse

/-- The device that an assignment refers to. -/
def deviceOf (data : Value) : Reading Value := do
  let reference ← optionalInner "assigned_to" "href" data
  if !reference.truthy then return .null
  else match reference with
    | .text s => return deviceOfReference (s.toList.map Char.toNat)
    | .brokenText points => return deviceOfReference points
    | _ => throw .missingPart

def assignmentOf (data : Value) : Reading Assignment := do
  let device ← deviceOf data
  let id ← requiredPart "id" data
  let address ← optionalPart "address" data
  let id := id.toText.located [.field "id"] id
  let address := address.toOptionalText.located [.field "address"] address
  let device := device.toOptionalText.located [.field "device_id"] device
  match id, address, device with
  | .ok id, .ok address, .ok device => return ⟨id, address, device⟩
  | _, _, _ =>
    throw (.refused ⟨"IPAssignment", findingOf id ++ findingOf address ++ findingOf device⟩)

/-- Tags, each checked to be text. -/
def tagsOf (data : Value) : Except (List Finding) (List String) :=
  match data with
  | .list items =>
    let checked := items.zipIdx.map fun entry =>
      entry.1.toText.located [.field "tags", .item entry.2] entry.1
    let findings := checked.flatMap findingOf
    if findings.isEmpty then .ok (checked.filterMap Except.toOption) else .error findings
  | _ => .error [⟨[.field "tags"], .notList, data⟩]

/-- A part, or nothing where it is left out or empty. -/
def orEmpty (value : Value) : Value := if value.truthy then value else .list []

def reservationOf (data : Value) : Reading Reservation := do
  let id ← requiredPart "id" data
  let address ← requiredPart "address" data
  let tags := tagsOf (orEmpty (← optionalPart "tags" data))
  let parts ← partsOf (orEmpty (← optionalPart "assignments" data))
  let assignments ← parts.mapM assignmentOf
  let id := id.toText.located [.field "id"] id
  let address := address.toText.located [.field "address"] address
  match id, address, tags with
  | .ok id, .ok address, .ok tags => return ⟨id, address, tags, assignments⟩
  | _, _, _ =>
    let tagFindings := match tags with
      | .ok _ => []
      | .error findings => findings
    throw (.refused ⟨"IPReservation", findingOf id ++ findingOf address ++ tagFindings⟩)

/-- Whether a page is the last, by the number that an answer gives for the last page. -/
def isLastPage (page : Nat) (last : Value) : Reading Bool :=
  if !last.truthy then return 1 ≤ page
  else match last with
    | .int n => return n ≤ page
    | .bool _ => return 1 ≤ page
    | .real x => return x.atMostNat page
    | _ => throw .wrongKind

/-- A page of reservations, with whether it is the last. An answer without content has none. -/
def pageOf (page : Nat) (answer : Value) : Reading (List Reservation × Bool) := do
  let data := if answer.truthy then answer else .map []
  let items ← match data with
    | .map entries => partsOf ((Value.lookup (.text "ip_addresses") entries).getD (.list []))
    | _ => throw .missingPart
  let reservations ← items.mapM reservationOf
  let last ← optionalInner "meta" "last_page" data
  return (reservations, ← isLastPage page last)

end ElasticEndpoint.Metal
