import ElasticEndpoint.Decimal.Binary64

/-!
Shortest decimal texts. A finite number is shown by the fewest significant digits that read back as
the same number, and of several such by the nearest; a tie goes to the even last digit. The digits are set positionally when the
leading one stands at or above the fourth decimal place and below the sixteenth place before the
point, and with an exponent otherwise.
-/

namespace ElasticEndpoint.Decimal

/-- Digits and the power of ten they are scaled by. -/
structure Scaled where
  digits : Nat
  exponent : Int
  deriving DecidableEq

namespace Binary64

/-- The place of the leading digit of the positive ratio `numerator / denominator`: the ratio lies
in `[10 ^ (place - 1), 10 ^ place)`. -/
def leadingPlace (numerator denominator : Nat) : Int :=
  if denominator ≤ numerator then digitCount (numerator / denominator)
  else 1 - (digitCount ((denominator + numerator - 1) / numerator - 1) : Int)

/-- A scaled number without the zeros at its end. -/
def stripZeros : Nat → Nat → Int → Scaled
  | 0, digits, exponent => ⟨digits, exponent⟩
  | fuel + 1, digits, exponent =>
    if digits != 0 && digits % 10 == 0 then stripZeros fuel (digits / 10) (exponent + 1)
    else ⟨digits, exponent⟩

/-- The neighbours of a positive ratio on the grid of multiples of `10 ^ exponent`, the nearer
first, and of two equally near ones the one with the even last digit. -/
def gridNeighbours (numerator denominator : Nat) (exponent : Int) : List Scaled :=
  let numerator := if 0 ≤ exponent then numerator else numerator * Nat.pow 10 (-exponent).toNat
  let denominator := if 0 ≤ exponent then denominator * Nat.pow 10 exponent.toNat else denominator
  let below := numerator / denominator
  let rest := numerator % denominator
  if rest == 0 then [⟨below, exponent⟩]
  else if 2 * rest < denominator || (2 * rest == denominator && below % 2 == 0) then [⟨below, exponent⟩, ⟨below + 1, exponent⟩]
  else [⟨below + 1, exponent⟩, ⟨below, exponent⟩]

/-- The fewest digits that read back, tried on ever finer grids; 17 always suffice, and the exact
expansion stands behind them. -/
def shortestDigits (significand : Nat) (exponent : Int) : Scaled :=
  let numerator := if 0 ≤ exponent then significand * Nat.pow 2 exponent.toNat else significand
  let denominator := if 0 ≤ exponent then 1 else Nat.pow 2 (-exponent).toNat
  let place := leadingPlace numerator denominator
  let readsBack (hit : Scaled) : Bool := match ofDecimal false hit.digits hit.exponent with
    | .finite _ read scale _ => read == significand && scale == exponent
    | _ => false
  let hit? := (List.range 17).findSome? fun (n : Nat) =>
    (gridNeighbours numerator denominator (place - (n + 1))).find? readsBack
  match hit? with
  | some hit => stripZeros 400 hit.digits hit.exponent
  | none => if 0 ≤ exponent then ⟨numerator, 0⟩ else ⟨significand * Nat.pow 5 (-exponent).toNat, exponent⟩

def positional (digits : List Char) (place : Int) : List Char :=
  if place ≤ 0 then '0' :: '.' :: (List.replicate (-place).toNat '0' ++ digits)
  else
    let whole := place.toNat
    if digits.length ≤ whole then digits ++ List.replicate (whole - digits.length) '0' ++ ['.', '0']
    else digits.take whole ++ '.' :: digits.drop whole

/-- Digits with the point after the first of them and an exponent of at least two digits. -/
def scientific (digits : List Char) (place : Int) : List Char :=
  let power := place - 1
  let size := Nat.toDigits 10 power.natAbs
  let size := if size.length < 2 then '0' :: size else size
  let fraction := match digits.drop 1 with
    | [] => []
    | rest => '.' :: rest
  digits.take 1 ++ fraction ++ 'e' :: (if power < 0 then '-' else '+') :: size

def shortest : Binary64 → String
  | .finite negative significand exponent _ =>
    let magnitude :=
      if significand == 0 then ['0', '.', '0']
      else
        let scaled := shortestDigits significand exponent
        let digits := Nat.toDigits 10 scaled.digits
        let place := scaled.exponent + digits.length
        if -4 < place && place ≤ 16 then positional digits place else scientific digits place
    String.ofList (if negative then '-' :: magnitude else magnitude)
  | .infinite negative => if negative then "-inf" else "inf"
  | .nan => "nan"

end Binary64

end ElasticEndpoint.Decimal
