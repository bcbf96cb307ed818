import ElasticEndpoint.Calendar
import ElasticEndpoint.Decimal.Binary64
import ElasticEndpoint.Text.Half

/-!
Values of data files and remote answers. A settings file and an interface reply are both read into
one type, because what a setting or a field accepts is decided by the kind of value found there.
-/

namespace ElasticEndpoint

open Decimal (Binary64)

/-- A value of a data file or of a remote answer. Mappings keep the order of their entries. -/
inductive Value where
  | null
  | bool (b : Bool)
  | int (n : Int)
  | real (x : Binary64)
  | text (s : String)
  /-- A text in which halves of pairs of code units stand alone, as its code points. -/
  | brokenText (points : List Nat)
  | bytes (bs : List UInt8)
  | date (d : Date)
  | moment (m : Moment)
  | list (items : List Value)
  | tuple (items : List Value)
  | set (members : List Value)
  | map (entries : List (Value × Value))
  /-- A collection that holds itself, where it meets itself again. -/
  | cycle (isMap : Bool)
  deriving Inhabited

namespace Value

def ofPoints (points : List Nat) : Value :=
  if points.any Text.isHalf then .brokenText points else .text (Text.ofPoints points)

/-- The absent, the false, the zero and the empty are not truthy; everything else is. -/
def truthy : Value → Bool
  | .null => false
  | .bool b => b
  | .int n => n != 0
  | .real x => !x.isZero
  | .text s => !s.isEmpty
  | .brokenText s => !s.isEmpty
  | .bytes bs => !bs.isEmpty
  | .list items => !items.isEmpty
  | .tuple items => !items.isEmpty
  | .set members => !members.isEmpty
  | .map entries => !entries.isEmpty
  | .date _ | .moment _ | .cycle _ => true

/-- A number compared for equality: booleans count as zero and one. -/
def number? : Value → Option (Int ⊕ Binary64)
  | .bool b => some (.inl (if b then 1 else 0))
  | .int n => some (.inl n)
  | .real x => some (match x.toInt? with
    | some n => .inl n
    | none => .inr x)
  | _ => none

/-- Two numbers are the same key when they are numerically equal. -/
def sameNumber : Int ⊕ Binary64 → Int ⊕ Binary64 → Bool
  | .inl m, .inl n => m == n
  | .inr x, .inr y => x.same y
  | _, _ => false

/-- Two values are the same mapping key when they are equal scalars. -/
def sameKey (a b : Value) : Bool :=
  match a, b with
  | .null, .null => true
  | .text s, .text t => s == t
  | .brokenText s, .brokenText t => s == t
  | .bytes s, .bytes t => s == t
  | .date d, .date e => d == e
  | .moment m, .moment n => m.same n
  | _, _ => match a.number?, b.number? with
    | some m, some n => sameNumber m n
    | _, _ => false

def lookup (key : Value) (entries : List (Value × Value)) : Option Value :=
  (entries.find? fun entry => entry.1.sameKey key).map (·.2)

mutual

/-- Two values are the same when they are equal scalars, when they are lists of the same items, or
when they are mappings that have the same values under the same keys. -/
def same : Value → Value → Bool
  | .list xs, .list ys => sameItems xs ys
  | .map xs, .map ys => xs.length == ys.length && sameUnder ys xs
  | a, b => a.sameKey b

def sameItems : List Value → List Value → Bool
  | [], [] => true
  | x :: xs, y :: ys => x.same y && sameItems xs ys
  | _, _ => false

/-- Whether all entries of a mapping are found among others. -/
def sameUnder (others : List (Value × Value)) : List (Value × Value) → Bool
  | [] => true
  | (key, value) :: rest =>
    (match lookup key others with
      | some other => value.same other
      | none => false) && sameUnder others rest

end

/-- Entries with one more: a key that is already there keeps its place and takes the new value. -/
def insert (entries : List (Value × Value)) (key value : Value) : List (Value × Value) :=
  if entries.any fun entry => entry.1.sameKey key then
    entries.map fun entry => if entry.1.sameKey key then (entry.1, value) else entry
  else entries ++ [(key, value)]

def field? (key : String) : Value → Option Value
  | .map entries => lookup (.text key) entries
  | _ => none

def object (fields : List (String × Value)) : Value :=
  .map (fields.map fun entry => (.text entry.1, entry.2))

end Value

end ElasticEndpoint
