/-!
Binary floating point numbers of 64 bits, as exact values. A finite number is a signed integer of
at most 53 bits times a power of two, in the one form whose integer is as large as the format
allows, so equal numbers of one sign are the same value. Rounding takes the nearest number and, of
two equally near ones, the one with the even integer.
-/

namespace ElasticEndpoint.Decimal

/-- The least integer of 53 bits. -/
abbrev leastFull : Nat := 4503599627370496

/-- The least integer of 54 bits. -/
abbrev leastTooWide : Nat := 9007199254740992

/-- The normal form of a finite number: the integer fills 53 bits unless the exponent is already
the least one. -/
def Normal (significand : Nat) (exponent : Int) : Prop :=
  significand < leastTooWide ∧ -1074 ≤ exponent ∧ exponent ≤ 971 ∧
    (leastFull ≤ significand ∨ exponent = -1074)

instance (significand : Nat) (exponent : Int) : Decidable (Normal significand exponent) := by
  unfold Normal; infer_instance

/-- A number of the format: plus or minus `significand * 2 ^ exponent`, an infinity, or no number. -/
inductive Binary64 where
  | finite (negative : Bool) (significand : Nat) (exponent : Int) (normal : Normal significand exponent)
  | infinite (negative : Bool)
  | nan
  deriving DecidableEq

namespace Binary64

def zero (negative : Bool) : Binary64 := .finite negative 0 (-1074) (by decide)

instance : Inhabited Binary64 := ⟨zero false⟩

/-- The quotient rounded to the nearest integer; a half goes to the even neighbour. -/
def roundHalfEven (numerator denominator : Nat) : Nat :=
  let quotient := numerator / denominator
  let rest := 2 * (numerator % denominator)
  if rest < denominator then quotient
  else if denominator < rest then quotient + 1
  else if quotient % 2 == 0 then quotient else quotient + 1

/-- The exponent of the last place for the positive ratio `numerator / denominator`: 52 below that
of the leading bit, and never below the least one. -/
def lastPlace (numerator denominator : Nat) : Int :=
  let estimate : Int := (Nat.log2 numerator : Int) - Nat.log2 denominator
  let reached :=
    if 0 ≤ estimate then denominator * Nat.pow 2 estimate.toNat ≤ numerator
    else denominator ≤ numerator * Nat.pow 2 (-estimate).toNat
  max (-1074) ((if reached then estimate else estimate - 1) - 52)

/-- A significand and exponent as a number: carried into the next binade when rounding filled a
54th bit, infinite when the exponent exceeds the format. -/
def assemble (negative : Bool) (significand : Nat) (exponent : Int) : Binary64 :=
  let carried := significand == leastTooWide
  let significand := if carried then leastFull else significand
  let exponent := if carried then exponent + 1 else exponent
  if normal : Normal significand exponent then .finite negative significand exponent normal
  else .infinite negative

/-- The number nearest to plus or minus `numerator / denominator`, for a positive denominator. -/
def ofRatio (negative : Bool) (numerator denominator : Nat) : Binary64 :=
  if numerator == 0 then zero negative
  else
    let exponent := lastPlace numerator denominator
    let significand :=
      if 0 ≤ exponent then roundHalfEven numerator (denominator * Nat.pow 2 exponent.toNat)
      else roundHalfEven (numerator * Nat.pow 2 (-exponent).toNat) denominator
    assemble negative significand exponent

/-- The number of decimal digits of a natural number; zero has none. -/
def digitCount (n : Nat) : Nat := if n == 0 then 0 else (Nat.toDigits 10 n).length

/-- The number nearest to plus or minus `digits * 10 ^ exponent`. A decimal whose leading digit
stands far beyond the format's range is infinite or zero whatever its digits are. -/
def ofDecimal (negative : Bool) (digits : Nat) (exponent : Int) : Binary64 :=
  let leading := exponent + digitCount digits
  if digits == 0 || leading < -330 then zero negative
  else if 310 < leading then .infinite negative
  else if 0 ≤ exponent then ofRatio negative (digits * Nat.pow 10 exponent.toNat) 1
  else ofRatio negative digits (Nat.pow 10 (-exponent).toNat)

def ofInt (n : Int) : Binary64 := ofRatio (n < 0) n.natAbs 1

def isFinite : Binary64 → Bool
  | .finite .. => true
  | _ => false

/-- The integer that a finite number equals, if it equals one. -/
def toInt? : Binary64 → Option Int
  | .finite negative significand exponent _ =>
    let magnitude? :=
      if 0 ≤ exponent then some (significand * Nat.pow 2 exponent.toNat)
      else
        let unit := Nat.pow 2 (-exponent).toNat
        if significand % unit == 0 then some (significand / unit) else none
    magnitude?.map fun magnitude => if negative then -(magnitude : Int) else magnitude
  | _ => none

/-- The integer that is left of a finite number without its fraction. -/
def truncated? : Binary64 → Option Int
  | .finite negative significand exponent _ =>
    let magnitude :=
      if 0 ≤ exponent then significand * Nat.pow 2 exponent.toNat
      else significand / Nat.pow 2 (-exponent).toNat
    some (if negative then -(magnitude : Int) else magnitude)
  | _ => none

/-- A number is above zero when it is a positive finite number or the positive infinity. -/
def isPositive : Binary64 → Bool
  | .finite negative significand _ _ => !negative && significand != 0
  | .infinite negative => !negative
  | .nan => false

/-- A number is at most zero when it is neither above zero nor no number. -/
def isAtMostZero (x : Binary64) : Bool := x != .nan && !x.isPositive

def isZero : Binary64 → Bool
  | .finite _ significand _ _ => significand == 0
  | _ => false

def atMostNat (x : Binary64) (n : Nat) : Bool :=
  match x with
  | .finite negative significand exponent _ =>
    negative || (if 0 ≤ exponent then significand * Nat.pow 2 exponent.toNat ≤ n
      else significand ≤ n * Nat.pow 2 (-exponent).toNat)
  | .infinite negative => negative
  | .nan => false

/-- Numeric equality: zeros of both signs are equal and no number equals nothing. -/
def same (x y : Binary64) : Bool :=
  x != .nan && y != .nan && (x == y || (x.isZero && y.isZero))

/-- A finite number as a signed integer times a power of two. -/
def signedParts (negative : Bool) (significand : Nat) : Int :=
  if negative then -(significand : Int) else significand

/-- The number nearest to an integer times a power of two. -/
def ofBinary (value exponent : Int) : Binary64 :=
  if 0 ≤ exponent then ofRatio (value < 0) (value.natAbs * Nat.pow 2 exponent.toNat) 1
  else ofRatio (value < 0) value.natAbs (Nat.pow 2 (-exponent).toNat)

def add : Binary64 → Binary64 → Binary64
  | .finite n m e _, .finite n' m' e' _ =>
    let least := min e e'
    let scale (places : Int) : Int := Int.ofNat (Nat.pow 2 places.toNat)
    ofBinary (signedParts n m * scale (e - least) + signedParts n' m' * scale (e' - least)) least
  | .infinite n, .infinite n' => if n == n' then .infinite n else .nan
  | .infinite n, .finite .. => .infinite n
  | .finite .., .infinite n => .infinite n
  | _, _ => .nan

def mul : Binary64 → Binary64 → Binary64
  | .finite n m e _, .finite n' m' e' _ => ofBinary (signedParts n m * signedParts n' m') (e + e')
  | .infinite n, .finite n' m' _ _ => if m' == 0 then .nan else .infinite (n != n')
  | .finite n m _ _, .infinite n' => if m == 0 then .nan else .infinite (n != n')
  | .infinite n, .infinite n' => .infinite (n != n')
  | _, _ => .nan

def negate : Binary64 → Binary64
  | .finite negative significand exponent normal => .finite (!negative) significand exponent normal
  | .infinite negative => .infinite (!negative)
  | .nan => .nan

end Binary64

end ElasticEndpoint.Decimal
