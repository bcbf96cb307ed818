/-!
UTF-8. Decoding is total: every maximal ill-formed part of the bytes becomes one replacement
character, so a decoded text always exists and a well-formed one is decoded exactly.
-/

namespace ElasticEndpoint.Text.Utf8

/-- What the decoder still expects of a sequence: the bits gathered so far, the number of
continuation bytes left, and the range allowed for the next of them. -/
structure Pending where
  bits : Nat
  left : Nat
  lowest : Nat
  highest : Nat

/-- The character that stands for an ill-formed part. -/
def replacement : Char := Char.ofNat 0xFFFD

/-- A byte at the start of a sequence is a character of its own, opens a longer sequence, or is
ill-formed. The range of the second byte excludes overlong forms, surrogates and code points
beyond the last. -/
def lead (b : Nat) : List Char × Option Pending :=
  if b < 0x80 then ([Char.ofNat b], none)
  else if b < 0xC2 then ([replacement], none)
  else if b < 0xE0 then ([], some ⟨b % 0x20, 1, 0x80, 0xBF⟩)
  else if b < 0xF0 then
    ([], some ⟨b % 0x10, 2, if b == 0xE0 then 0xA0 else 0x80, if b == 0xED then 0x9F else 0xBF⟩)
  else if b < 0xF5 then
    ([], some ⟨b % 8, 3, if b == 0xF0 then 0x90 else 0x80, if b == 0xF4 then 0x8F else 0xBF⟩)
  else ([replacement], none)

/-- One byte: it continues the pending sequence when it lies in the expected range; otherwise the
pending part is ill-formed and the byte is read as a lead. -/
def step (pending : Option Pending) (b : Nat) : List Char × Option Pending :=
  match pending with
  | none => lead b
  | some p =>
    if p.lowest ≤ b && b ≤ p.highest then
      let bits := p.bits * 0x40 + b % 0x40
      if p.left ≤ 1 then ([Char.ofNat bits], none) else ([], some ⟨bits, p.left - 1, 0x80, 0xBF⟩)
    else
      let (characters, next) := lead b
      (replacement :: characters, next)

/-- Decoding from a pending sequence; one that the bytes do not complete is ill-formed. -/
def decodeFrom (pending : Option Pending) : List UInt8 → List Char
  | [] => if pending.isSome then [replacement] else []
  | b :: rest =>
    let (characters, next) := step pending b.toNat
    characters ++ decodeFrom next rest

/-- The text of some bytes, with a replacement character for every ill-formed part. -/
def decode (bytes : List UInt8) : String := String.ofList (decodeFrom none bytes)

def decode? (bytes : List UInt8) : Option String := String.fromUTF8? ⟨bytes.toArray⟩

inductive Defect where
  | badStart
  | badContinuation
  | unfinished
  deriving DecidableEq

def Defect.message : Defect → String
  | .badStart => "invalid start byte"
  | .badContinuation => "invalid continuation byte"
  | .unfinished => "unexpected end of data"

/-- The first ill-formed part of some bytes: its place, its length, and what is wrong with it. -/
structure IllFormed where
  position : Nat
  length : Nat
  defect : Defect
  deriving DecidableEq

/-- The first ill-formed part from a place on, where a sequence of so many bytes may be pending. -/
def illFormedFrom (position : Nat) : Option (Nat × Pending) → List UInt8 → Option IllFormed
  | none, [] => none
  | some (length, _), [] => some ⟨position - length, length, .unfinished⟩
  | none, b :: rest =>
    match lead b.toNat with
    | (_, some pending) => illFormedFrom (position + 1) (some (1, pending)) rest
    | (_, none) => if b < 0x80 then illFormedFrom (position + 1) none rest else some ⟨position, 1, .badStart⟩
  | some (length, pending), b :: rest =>
    if pending.lowest ≤ b.toNat && b.toNat ≤ pending.highest then
      let longer := if pending.left ≤ 1 then none else some (length + 1, ⟨0, pending.left - 1, 0x80, 0xBF⟩)
      illFormedFrom (position + 1) longer rest
    else some ⟨position - length, length, .badContinuation⟩

/-- The first ill-formed part of some bytes, if there is one. -/
def illFormed? (bytes : List UInt8) : Option IllFormed := illFormedFrom 0 none bytes

def encode (text : String) : List UInt8 := text.toUTF8.data.toList

end ElasticEndpoint.Text.Utf8
