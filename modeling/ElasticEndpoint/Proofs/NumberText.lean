import Mathlib.Data.Bool.AllAny
import ElasticEndpoint.Yaml.Scalar.Meaning
import ElasticEndpoint.Yaml.Writer
import ElasticEndpoint.Proofs.ShortestDigits

/-!
Numbers read back as they are written. A number with a point is written as its shortest digits with a point among
them, an integer as its digits; either has the form that tells what kind of scalar it is.
-/

namespace ElasticEndpoint

open Decimal (Binary64 Scaled naturalOf)

namespace Yaml

/-- The characters that numbers are written with. -/
def numerals : List Char := ['0', '1', '2', '3', '4', '5', '6', '7', '8', '9', '.', 'e', '+', '-']

private theorem mem_numerals_of_isDigit {c : Char} (digit : c.isDigit = true) : c ∈ numerals := by
  have mem : c.toNat ∈ (List.range 10).map (48 + ·) := by
    simp only [Char.isDigit, Bool.and_eq_true, decide_eq_true_eq, ge_iff_le, UInt32.le_iff_toNat_le] at digit
    obtain ⟨low, high⟩ := digit
    have low : 48 ≤ c.toNat := low
    have high : c.toNat ≤ 57 := high
    exact List.mem_map.mpr ⟨c.toNat - 48, by simp; omega, by omega⟩
  have back : c = Char.ofNat c.toNat := (Char.ofNat_toNat c).symm
  rw [back]
  revert mem
  generalize c.toNat = n
  revert n
  decide

section

variable {text : List Char}

private theorem lowerBehind_numerals (numeric : ∀ c ∈ text, c ∈ numerals) (behind : Bool) : Text.lowerBehind behind text = text := by
  induction text generalizing behind with
  | nil => rfl
  | cons c rest ih =>
    have letter : ∀ c ∈ numerals, (c == 'Σ') = false ∧ Text.lowerLetter c = [c] :=
      List.all_iff_forall_prop.mp (by decide)
    obtain ⟨other, lower⟩ := letter c (numeric c List.mem_cons_self)
    unfold Text.lowerBehind
    simp only [other, lower, Bool.false_eq_true, if_false, ih fun c mem => numeric c (List.mem_cons_of_mem _ mem)]
    rfl

private theorem toLower_numerals (numeric : ∀ c ∈ text, c ∈ numerals) : Text.toLower text = text := lowerBehind_numerals numeric false

private theorem filter_numerals (numeric : ∀ c ∈ text, c ∈ numerals) : text.filter (· != '_') = text := by
  rw [List.filter_eq_self]
  have solid : ∀ c ∈ numerals, (c != '_') = true := List.all_iff_forall_prop.mp (by decide)
  exact fun c mem => solid c (numeric c mem)

private theorem trim_numerals (numeric : ∀ c ∈ text, c ∈ numerals) : Text.trim Text.isBlank text = text := by
  have solid : ∀ c ∈ numerals, Text.isBlank c = false := List.all_iff_forall_prop.mp (by decide)
  have start (text : List Char) (numeric : ∀ c ∈ text, c ∈ numerals) : text.dropWhile Text.isBlank = text := by
    cases text with
    | nil => rfl
    | cons c rest => rw [List.dropWhile_cons_of_neg (by simp [solid c (numeric c List.mem_cons_self)])]
  unfold Text.trim Text.trimStart Text.trimEnd
  rw [start text numeric, start text.reverse fun c mem => numeric c (List.mem_reverse.mp mem), List.reverse_reverse]

private theorem plainDigit_numerals (numeric : ∀ c ∈ text, c ∈ numerals) : text.map Text.plainDigit = text := by
  have plain : ∀ c ∈ numerals, Text.plainDigit c = c := List.all_iff_forall_prop.mp (by decide)
  exact (List.map_congr_left fun c mem => plain c (numeric c mem)).trans (List.map_id text)

private theorem joinDigits_solid : ∀ {text : List Char}, text ≠ [] → '_' ∉ text → Text.joinDigits text = some text
  | [c], _, solid => by
    have only : c ≠ '_' := fun same => solid (by simp [same])
    rw [Text.joinDigits]
    simpa using only
  | c :: d :: rest, _, solid => by
    have first : c ≠ '_' := fun same => solid (by simp [same])
    have second : d ≠ '_' := fun same => solid (by simp [same])
    have joined := @joinDigits_solid (d :: rest) (by simp) fun mem => solid (List.mem_cons_of_mem _ mem)
    rw [Text.joinDigits, joined]
    · rfl
    · simpa using first
    · simp
    · simpa using second

/-- A number without a sign. -/
structure IsUnsigned (text : List Char) : Prop where
  numeric : ∀ c ∈ text, c ∈ numerals
  begins : ∃ c rest, c.isDigit = true ∧ text = c :: rest

/-- A number with its sign. -/
def signed (negative : Bool) (text : List Char) : List Char := if negative then '-' :: text else text

private theorem takeSign_digit {c : Char} {rest : List Char} (digit : c.isDigit = true) :
    Decimal.takeSign (c :: rest) = (false, c :: rest) := by
  unfold Decimal.takeSign
  split <;> simp_all

theorem IsUnsigned.takeSign (unsigned : IsUnsigned text) : Decimal.takeSign text = (false, text) := by
  obtain ⟨c, rest, digit, rfl⟩ := unsigned.begins
  exact takeSign_digit digit

theorem IsUnsigned.some (unsigned : IsUnsigned text) : text ≠ [] := by
  obtain ⟨c, rest, -, rfl⟩ := unsigned.begins
  exact List.cons_ne_nil c rest

theorem IsUnsigned.solid (unsigned : IsUnsigned text) {c : Char} (foreign : c ∉ numerals) : c ∉ text := fun mem =>
  foreign (unsigned.numeric c mem)

/-- A number without a sign is no word. -/
theorem IsUnsigned.ne_word (unsigned : IsUnsigned text) (word : List Char) (worded : ∀ c ∈ word.head?, c.isDigit = false) :
    (text == word) = false := by
  obtain ⟨c, rest, digit, rfl⟩ := unsigned.begins
  apply beq_false_of_ne
  rintro rfl
  simp [worded c rfl] at digit

theorem IsUnsigned.mem_signed (unsigned : IsUnsigned text) {negative : Bool} : ∀ c ∈ signed negative text, c ∈ numerals := by
  intro c mem
  unfold signed at mem
  split at mem
  · obtain rfl | mem := List.mem_cons.mp mem
    · decide
    · exact unsigned.numeric c mem
  · exact unsigned.numeric c mem

private theorem IsUnsigned.unsignedText_signed (unsigned : IsUnsigned text) (negative : Bool) :
    unsignedText (signed negative text) = .ok (negative, text) := by
  unfold unsignedText
  rw [filter_numerals unsigned.mem_signed]
  obtain ⟨c, rest, digit, rfl⟩ := unsigned.begins
  cases negative with
  | true => rfl
  | false =>
    rw [signed, if_neg Bool.false_ne_true]
    split <;> simp_all

private theorem IsUnsigned.dropSign_signed (unsigned : IsUnsigned text) (negative : Bool) : dropSign (signed negative text) = text := by
  obtain ⟨c, rest, digit, rfl⟩ := unsigned.begins
  cases negative with
  | true => rfl
  | false =>
    change dropSign (c :: rest) = c :: rest
    unfold dropSign
    split <;> simp_all

end

end Yaml

namespace Decimal

private theorem naturalOf_toDigits (n : Nat) : naturalOf (Nat.toDigits 10 n) = n := Nat.ofDigitChars_ten_toDigits

private theorem isDigit_toDigits {n : Nat} : ∀ c ∈ Nat.toDigits 10 n, c.isDigit = true := fun _ mem =>
  Nat.isDigit_of_mem_toDigits (by decide) (by decide) mem

/-- The exponent behind the digits of a number. -/
def powerText (power : Int) : List Char :=
  let size := Nat.toDigits 10 power.natAbs
  'e' :: (if power < 0 then '-' else '+') :: if size.length < 2 then '0' :: size else size

/-- Digits on both sides of a point, with an exponent or without one. -/
structure DecimalText where
  whole : List Char
  fraction : List Char
  power : Option Int
  begun : whole ≠ []
  wholeDigits : ∀ c ∈ whole, c.isDigit = true
  fractionDigits : ∀ c ∈ fraction, c.isDigit = true

namespace DecimalText

variable (number : DecimalText)

def text : List Char := number.whole ++ '.' :: (number.fraction ++ number.power.elim [] powerText)

/-- The digits, and the power of ten of their last place. -/
def scaled : Scaled :=
  ⟨naturalOf (number.whole ++ number.fraction), -(number.fraction.length : Int) + number.power.getD 0⟩

/-- The nearest number of the format. -/
def value : Binary64 := Binary64.ofDecimal false number.scaled.digits number.scaled.exponent

end DecimalText

private theorem powerText_digits (power : Int) : ∃ sign digits, powerText power = 'e' :: sign :: digits ∧
    sign = (if power < 0 then '-' else '+') ∧ digits ≠ [] ∧ (∀ c ∈ digits, c.isDigit = true) ∧
    naturalOf digits = power.natAbs := by
  refine ⟨_, _, rfl, rfl, ?_⟩
  split
  · refine ⟨by simp, ?_, ?_⟩
    · intro c mem
      obtain rfl | mem := List.mem_cons.mp mem
      · rfl
      · exact isDigit_toDigits c mem
    · exact naturalOf_toDigits _
  · exact ⟨Nat.toDigits_ne_nil, isDigit_toDigits, naturalOf_toDigits _⟩

private theorem exponent?_power (power : Option Int) : exponent? (power.elim [] powerText) = some (power.getD 0) := by
  cases power with
  | none => rfl
  | some power =>
    obtain ⟨sign, digits, shape, isSign, present, digit, size⟩ := powerText_digits power
    have all : digits.all Char.isDigit = true := List.all_eq_true.mpr digit
    have signed : takeSign (sign :: digits) = (decide (power < 0), digits) := by
      rw [isSign]
      split <;> simp_all [takeSign]
    change exponent? (powerText power) = some power
    rw [shape]
    have written : digits.isEmpty = false := by simpa using present
    unfold exponent?
    simp only [signed, all, size, written]
    rw [if_pos (by decide : (('e' == 'e' || 'e' == 'E') && !false && true) = true)]
    apply congrArg some
    split
    next below =>
      have := of_decide_eq_true below
      omega
    next above =>
      have := mt decide_eq_true above
      omega

private theorem takeWhile_digits {digits : List Char} (digit : ∀ c ∈ digits, c.isDigit = true) (rest : List Char)
    (stop : ∀ c ∈ rest.head?, c.isDigit = false) :
    (digits ++ rest).takeWhile Char.isDigit = digits := by
  rw [List.takeWhile_append_of_pos digit]
  cases rest with
  | nil => simp
  | cons c rest => simp [stop c rfl]

private theorem dropWhile_digits {digits : List Char} (digit : ∀ c ∈ digits, c.isDigit = true) (rest : List Char)
    (stop : ∀ c ∈ rest.head?, c.isDigit = false) :
    (digits ++ rest).dropWhile Char.isDigit = rest := by
  rw [List.dropWhile_append_of_pos digit]
  cases rest with
  | nil => simp
  | cons c rest => simp [stop c rfl]

namespace DecimalText

variable (number : DecimalText)

private theorem power_stops {c : Char} (next : c ∈ (number.power.elim [] powerText).head?) : c = 'e' := by
  cases power : number.power with
  | none => simp [power] at next
  | some size =>
    simp only [power, Option.elim, powerText, List.head?_cons, Option.mem_some_iff] at next
    exact next.symm

theorem begins : ∃ c rest, c.isDigit = true ∧ number.text = c :: rest := by
  cases shape : number.whole with
  | nil => exact absurd shape number.begun
  | cons c rest => exact ⟨c, _, number.wholeDigits c (by simp [shape]), by rw [text, shape, List.cons_append]⟩

private theorem mem_numerals {c : Char} (mem : c ∈ number.text) : c ∈ Yaml.numerals := by
  have power {c : Char} (mem : c ∈ number.power.elim [] powerText) : c ∈ Yaml.numerals := by
    cases given : number.power with
    | none => simp [given] at mem
    | some size =>
      obtain ⟨sign, digits, shape, isSign, -, digit, -⟩ := powerText_digits size
      rw [given] at mem
      change c ∈ powerText size at mem
      rw [shape] at mem
      obtain rfl | rfl | mem := by simpa only [List.mem_cons] using mem
      · decide
      · rw [isSign]
        split <;> decide
      · exact Yaml.mem_numerals_of_isDigit (digit c mem)
  obtain whole | rfl | fraction | mem := by simpa only [text, List.mem_append, List.mem_cons] using mem
  · exact Yaml.mem_numerals_of_isDigit (number.wholeDigits c whole)
  · decide
  · exact Yaml.mem_numerals_of_isDigit (number.fractionDigits c fraction)
  · exact power mem

theorem isUnsigned : Yaml.IsUnsigned number.text := ⟨fun _ mem => number.mem_numerals mem, number.begins⟩

private theorem readDecimal?_text :
    readDecimal? number.text = some number.value := by
  have whole := takeWhile_digits number.wholeDigits ('.' :: (number.fraction ++ number.power.elim [] powerText)) (by simp)
  have behind := dropWhile_digits number.wholeDigits ('.' :: (number.fraction ++ number.power.elim [] powerText)) (by simp)
  have stop : ∀ c ∈ (number.power.elim [] powerText).head?, c.isDigit = false := fun c next => by
    rw [number.power_stops next]
    rfl
  have fraction := takeWhile_digits number.fractionDigits _ stop
  have power := dropWhile_digits number.fractionDigits _ stop
  have begun : number.whole.isEmpty = false := by simpa using number.begun
  have part : decimalPart? number.text =
      some (naturalOf (number.whole ++ number.fraction), -(number.fraction.length : Int), number.power.elim [] powerText) := by
    unfold decimalPart? text
    simp only [whole, behind, fraction, power, begun, Bool.false_and, Bool.false_eq_true, if_false]
  unfold readDecimal?
  simp only [number.isUnsigned.takeSign, part, Option.bind_eq_bind, Option.bind_some, exponent?_power]
  rfl

private theorem readSpecial?_text : readSpecial? number.text = none := by
  obtain ⟨c, rest, digit, shape⟩ := number.begins
  have letter : ∀ c ∈ Yaml.numerals, c.isDigit = true → c.toLower ≠ 'i' ∧ c.toLower ≠ 'n' :=
    List.all_iff_forall_prop.mp (by decide)
  obtain ⟨infinite, none⟩ := letter c (Yaml.mem_numerals_of_isDigit digit) digit
  have other (word : List Char) (differs : word.head? ≠ some c.toLower) :
      (String.ofList ((c :: rest).map Char.toLower) == String.ofList word) = false := by
    apply beq_false_of_ne
    intro same
    exact differs (String.ofList_injective same ▸ rfl)
  have inf := other "inf".toList (by simpa using infinite.symm)
  have infinity := other "infinity".toList (by simpa using infinite.symm)
  have nan := other "nan".toList (by simpa using none.symm)
  simp only [String.ofList_toList] at inf infinity nan
  unfold readSpecial?
  rw [number.isUnsigned.takeSign, shape]
  simp only [inf, infinity, nan, Bool.or_self, Bool.false_eq_true, if_false]

private theorem readNumber?_text :
    readNumber? number.text = some number.value := by
  rw [readNumber?, readSpecial?_text, Option.none_or, readDecimal?_text]

end DecimalText

end Decimal

namespace Yaml

open Decimal

variable (number : DecimalText)

private theorem toNumber_text : toNumber number.text = .ok number.value := by
  have unsigned := number.isUnsigned
  unfold toNumber
  rw [trim_numerals unsigned.numeric, plainDigit_numerals unsigned.numeric,
    joinDigits_solid unsigned.some (unsigned.solid (by decide))]
  simp only [number.readNumber?_text]

private theorem toReal_signed (negative : Bool) :
    toReal (signed negative number.text) = .ok (if negative then number.value.negate else number.value) := by
  have unsigned := number.isUnsigned
  have infinite := unsigned.ne_word ".inf".toList (by simp)
  have none := unsigned.ne_word noNumberWord (by simp [noNumberWord])
  have colon : number.text.contains ':' = false := by simpa using unsigned.solid (by decide)
  unfold toReal
  rw [toLower_numerals unsigned.mem_signed, unsigned.unsignedText_signed]
  simp only [bind, Except.bind, infinite, none, colon, toNumber_text, Bool.false_eq_true, if_false]
  rfl

private theorem dropWhile_numeral {digits : List Char} (digit : ∀ c ∈ digits, c.isDigit = true) (rest : List Char)
    (stop : ∀ c ∈ rest.head?, isNumeralChar c = false) : (digits ++ rest).dropWhile isNumeralChar = rest := by
  have numeral : ∀ c ∈ digits, isNumeralChar c = true := fun c mem => by simp [isNumeralChar, digit c mem]
  rw [List.dropWhile_append_of_pos numeral]
  cases rest with
  | nil => simp
  | cons c rest => simp [stop c rfl]

private theorem isSignedExponent_power (power : Option Int) : isSignedExponent (power.elim [] powerText) = true := by
  cases power with
  | none => rfl
  | some power =>
    obtain ⟨sign, digits, shape, isSign, present, digit, -⟩ := powerText_digits power
    have all : digits.all Char.isDigit = true := List.all_eq_true.mpr digit
    have signs : (sign == '-' || sign == '+') = true := by
      rw [isSign]
      split <;> rfl
    change isSignedExponent (powerText power) = true
    rw [shape]
    cases digits with
    | nil => exact absurd rfl present
    | cons c rest => simp only [isSignedExponent, signs, all, beq_self_eq_true, Bool.true_or, Bool.and_self]

private theorem isFloatText_signed (negative : Bool) : isFloatText (signed negative number.text) = true := by
  have stop : ∀ c ∈ (number.power.elim [] powerText).head?, isNumeralChar c = false := fun c next => by
    rw [number.power_stops next]
    rfl
  have behind := dropWhile_numeral number.fractionDigits _ stop
  unfold isFloatText
  rw [number.isUnsigned.dropSign_signed]
  have point : number.text = number.whole ++ '.' :: (number.fraction ++ number.power.elim [] powerText) := rfl
  cases whole : number.whole with
  | nil => exact absurd whole number.begun
  | cons c rest =>
    have digits : ∀ d ∈ c :: rest, d.isDigit = true := whole ▸ number.wholeDigits
    have front := dropWhile_numeral (fun d mem => digits d (List.mem_cons_of_mem c mem))
      ('.' :: (number.fraction ++ number.power.elim [] powerText)) (by simp [isNumeralChar])
    rw [point, whole, List.cons_append]
    simp only [front, behind, isSignedExponent_power, digits c List.mem_cons_self, Bool.and_self, Bool.or_true]

/-- A text of numerals is no word for a truth value, and ends in no line feed. -/
theorem ofPlain_numerals {text : List Char} (numeric : ∀ c ∈ text, c ∈ numerals) (kind : isFloatText text || isIntegerText text) :
    Tag.ofPlain text = if isFloatText text then .float else .int := by
  have ends : (text.getLast? == some '\n') = false := by
    apply beq_false_of_ne
    intro last
    exact absurd (numeric _ (List.mem_of_getLast? last)) (by decide)
  have other : truthWords.contains (String.ofList text) = false := by
    apply Bool.eq_false_iff.mpr
    intro held
    have foreign : ∀ word ∈ truthWords, (word.toList.any fun c => !numerals.contains c) = true := by decide +kernel
    obtain ⟨c, inside, outside⟩ := List.any_eq_true.mp (foreign _ (List.contains_iff_mem.mp held))
    have known := List.contains_iff_mem.mpr (numeric c (by simpa using inside))
    rw [known] at outside
    cases outside
  unfold Tag.ofPlain
  simp only [ends, Bool.false_and, Bool.false_eq_true, if_false, other]
  cases float : isFloatText text with
  | true => rfl
  | false => simp_all

private theorem ofPlain_signed (negative : Bool) : Tag.ofPlain (signed negative number.text) = .float := by
  have float := isFloatText_signed number negative
  rw [ofPlain_numerals number.isUnsigned.mem_signed (by simp [float]), if_pos float]

end Yaml

namespace Decimal

private theorem naturalOf_append_zeros (digits : List Char) (count : Nat) :
    naturalOf (digits ++ List.replicate count '0') = naturalOf digits * 10 ^ count := by
  rw [Nat.mul_comm]
  exact (Nat.ofDigitChars_append 0).trans Nat.ofDigitChars_replicate_zero

theorem naturalOf_zeros_append (count : Nat) (digits : List Char) :
    naturalOf (List.replicate count '0' ++ digits) = naturalOf digits := by
  refine (Nat.ofDigitChars_append 0).trans ?_
  rw [Nat.ofDigitChars_replicate_zero, Nat.mul_zero]
  rfl

section

variable {digits : List Char} (some : digits ≠ []) (digit : ∀ c ∈ digits, c.isDigit = true) (place : Int)

include some digit

/-- Digits set with a point among them are a decimal text of the number that they stand for. -/
theorem positional_text : ∃ number : DecimalText, number.text = Binary64.positional digits place ∧
    number.value = Binary64.ofDecimal false (naturalOf digits) (place - digits.length) := by
  have zero : ∀ count, ∀ c ∈ List.replicate count '0', c.isDigit = true := by
    intro count c mem
    rw [List.eq_of_mem_replicate mem]
    rfl
  -- The point stands before the digits, or behind them and zeros, or among them.
  unfold Binary64.positional
  split
  next below =>
    refine ⟨⟨['0'], List.replicate (-place).toNat '0' ++ digits, none, by simp, by simp, ?_⟩, by simp [DecimalText.text], ?_⟩
    · intro c mem
      exact (List.mem_append.mp mem).elim (zero _ c) (digit c)
    · have leading := naturalOf_zeros_append ((-place).toNat + 1) digits
      unfold DecimalText.value DecimalText.scaled
      simp only [List.replicate_succ, List.cons_append] at leading
      simp only [List.cons_append, List.nil_append, leading, List.length_append, List.length_replicate]
      congr 1
      simp
      omega
  next above =>
    dsimp only
    split
    next short =>
      refine ⟨⟨digits ++ List.replicate (place.toNat - digits.length) '0', ['0'], none, by simp [some], ?_, by simp⟩,
        by simp [DecimalText.text], ?_⟩
      · intro c mem
        exact (List.mem_append.mp mem).elim (digit c) (zero _ c)
      · have behind := naturalOf_append_zeros digits (place.toNat - digits.length + 1)
        rw [List.replicate_succ', ← List.append_assoc] at behind
        unfold DecimalText.value DecimalText.scaled
        simp only [behind, Binary64.ofDecimal_scaled]
        congr 1
        change -((1 : Nat) : Int) + 0 + ((place.toNat - digits.length + 1 : Nat) : Int) = _
        omega
    next long =>
      refine ⟨⟨digits.take place.toNat, digits.drop place.toNat, none, ?_, ?_, ?_⟩, by simp [DecimalText.text], ?_⟩
      · intro empty
        obtain low | empty := List.take_eq_nil_iff.mp empty
        · omega
        · exact some empty
      · exact fun c mem => digit c (List.mem_of_mem_take mem)
      · exact fun c mem => digit c (List.mem_of_mem_drop mem)
      · unfold DecimalText.value DecimalText.scaled
        simp only [List.take_append_drop, List.length_drop]
        congr 1
        change -((digits.length - place.toNat : Nat) : Int) + 0 = _
        omega

end

/-- A text with a point put before an exponent that has none. -/
def pointed (text : List Char) : List Char :=
  if text.contains '.' then text else text.flatMap fun c => if c == 'e' then ['.', '0', 'e'] else [c]

private theorem pointed_text (number : DecimalText) : pointed number.text = number.text := by
  have point : number.text.contains '.' = true := by simp [DecimalText.text]
  rw [pointed, if_pos point]

/-- Without an exponent mark among them, characters stay as they are. -/
theorem flatMap_unmarked {text : List Char} (unmarked : 'e' ∉ text) :
    text.flatMap (fun c => if c == 'e' then ['.', '0', 'e'] else [c]) = text := by
  induction text with
  | nil => rfl
  | cons c rest ih =>
    obtain ⟨other, unmarked⟩ : 'e' ≠ c ∧ 'e' ∉ rest := by simpa using unmarked
    rw [List.flatMap_cons, ih unmarked, if_neg (by simpa using other.symm)]
    rfl

private theorem pointed_single {c : Char} (digit : c.isDigit = true) (power : Int) :
    pointed (c :: powerText power) = c :: '.' :: '0' :: powerText power := by
  have other : c ≠ '.' ∧ c ≠ 'e' := by
    constructor
    · rintro rfl
      cases digit
    · rintro rfl
      cases digit
  obtain ⟨sign, digits, shape, isSign, -, digits_, -⟩ := powerText_digits power
  have sign_ : sign ≠ '.' ∧ sign ≠ 'e' := by
    rw [isSign]
    split <;> decide
  have absent (d : Char) (no : d.isDigit = false) : d ∉ digits := fun mem => by simp [digits_ d mem] at no
  have pointless : (c :: powerText power).contains '.' = false := by
    simp [shape, other.1.symm, sign_.1.symm, absent '.' rfl]
  have unmarked : 'e' ∉ sign :: digits := by simp [sign_.2.symm, absent 'e' rfl]
  rw [pointed, pointless, shape, List.flatMap_cons, List.flatMap_cons, flatMap_unmarked unmarked]
  simp [other.2]

/-- Digits with an exponent are a decimal text of the number that they stand for, once they have a point. -/
theorem scientific_text {digits : List Char} (some : digits ≠ []) (digit : ∀ c ∈ digits, c.isDigit = true) (place : Int) :
    ∃ number : DecimalText, number.text = pointed (Binary64.scientific digits place) ∧
      number.value = Binary64.ofDecimal false (naturalOf digits) (place - digits.length) := by
  match digits, some, digit with
  | [c], _, digit =>
    refine ⟨⟨[c], ['0'], .some (place - 1), by simp, digit, by simp⟩, (pointed_single (digit c (by simp)) _).symm, ?_⟩
    have tenfold : naturalOf ([c] ++ ['0']) = naturalOf [c] * 10 := naturalOf_append_zeros [c] 1
    unfold DecimalText.value DecimalText.scaled
    simp only [tenfold, Binary64.ofDecimal_tenfold]
    congr 1
    simp
  | c :: d :: rest, _, digit =>
    refine ⟨⟨[c], d :: rest, .some (place - 1), by simp, ?_, fun e mem => digit e (List.mem_cons_of_mem c mem)⟩, ?_, ?_⟩
    · intro e mem
      exact digit e (by simp_all)
    · rw [← pointed_text]
      rfl
    · unfold DecimalText.value DecimalText.scaled
      simp only [List.cons_append, List.nil_append]
      congr 1
      simp
      omega

/-- The digits that show a number, however they are set, are a decimal text of it. -/
theorem magnitude_text {significand : Nat} {exponent : Int} (normal : Normal significand exponent) (some : 0 < significand)
    (set : List Char → Int → List Char) (how : set = Binary64.positional ∨ set = Binary64.scientific) :
    let scaled := Binary64.shortestDigits significand exponent
    let digits := Nat.toDigits 10 scaled.digits
    ∃ number : DecimalText, number.text = pointed (set digits (scaled.exponent + digits.length)) ∧
      number.value = .finite false significand exponent normal := by
  intro scaled digits
  obtain ⟨_, reads⟩ := Binary64.shortestDigits_readsBack normal some
  have place : scaled.exponent + digits.length - digits.length = scaled.exponent := by omega
  obtain rfl | rfl := how
  · obtain ⟨number, shape, value⟩ := positional_text Nat.toDigits_ne_nil isDigit_toDigits (scaled.exponent + digits.length)
    refine ⟨number, by rw [← shape, pointed_text], ?_⟩
    rw [value, place, naturalOf_toDigits, reads]
  · obtain ⟨number, shape, value⟩ := scientific_text Nat.toDigits_ne_nil isDigit_toDigits (scaled.exponent + digits.length)
    refine ⟨number, shape, ?_⟩
    rw [value, place, naturalOf_toDigits, reads]

end Decimal

namespace Yaml

open Decimal

private theorem pointed_signed (negative : Bool) (text : List Char) : pointed (signed negative text) = signed negative (pointed text) := by
  cases negative with
  | false => rfl
  | true =>
    have points : ('-' :: text).contains '.' = text.contains '.' := by simp
    unfold signed
    rw [if_pos rfl, if_pos rfl]
    unfold pointed
    rw [points]
    split
    · rfl
    · rfl

/-- The text of a finite number without its sign. -/
def magnitude (significand : Nat) (exponent : Int) : List Char :=
  if significand == 0 then ['0', '.', '0']
  else
    let scaled := Binary64.shortestDigits significand exponent
    let digits := Nat.toDigits 10 scaled.digits
    let place := scaled.exponent + digits.length
    if -4 < place && place ≤ 16 then Binary64.positional digits place else Binary64.scientific digits place

theorem writeReal_eq (negative : Bool) {significand : Nat} {exponent : Int} (normal : Normal significand exponent) :
    writeReal (.finite negative significand exponent normal) = signed negative (pointed (magnitude significand exponent)) := by
  rw [← pointed_signed]
  unfold writeReal Binary64.shortest
  simp only [String.toList_ofList]
  rfl

theorem magnitude_reads {significand : Nat} {exponent : Int} (normal : Normal significand exponent) :
    ∃ number : DecimalText, pointed (magnitude significand exponent) = number.text ∧
      number.value = .finite false significand exponent normal := by
  obtain rfl | above := Nat.eq_zero_or_pos significand
  · obtain rfl : exponent = -1074 := by
      obtain ⟨-, -, -, full | least⟩ := normal
      · cases full
      · exact least
    exact ⟨⟨['0'], ['0'], none, by simp, by simp, by simp⟩, rfl, rfl⟩
  · have zero : (significand == 0) = false := beq_false_of_ne above.ne'
    unfold magnitude
    rw [zero, if_neg Bool.false_ne_true]
    dsimp only
    split
    · obtain ⟨number, shape, value⟩ := magnitude_text normal above Binary64.positional (.inl rfl)
      exact ⟨number, shape.symm, value⟩
    · obtain ⟨number, shape, value⟩ := magnitude_text normal above Binary64.scientific (.inr rfl)
      exact ⟨number, shape.symm, value⟩

/-- A number is read as it is written. -/
theorem toReal_writeReal (x : Binary64) : toReal (writeReal x) = .ok x := by
  cases x with
  | infinite negative => cases negative <;> rfl
  | nan => rfl
  | finite negative significand exponent normal =>
    obtain ⟨number, shape, value⟩ := magnitude_reads normal
    have read := toReal_signed number negative
    rw [writeReal_eq, shape, read, value]
    cases negative <;> rfl

theorem ofPlain_writeReal (x : Binary64) : Tag.ofPlain (writeReal x) = .float := by
  cases x with
  | infinite negative => cases negative <;> decide +kernel
  | nan => decide +kernel
  | finite negative significand exponent normal =>
    obtain ⟨number, shape, -⟩ := magnitude_reads normal
    rw [writeReal_eq, shape, ofPlain_signed]

theorem toString_int (n : Int) : (toString n).toList = signed (decide (n < 0)) (Nat.toDigits 10 n.natAbs) := by
  cases n with
  | ofNat n =>
    change (toString n).toList = Nat.toDigits 10 n
    rw [Nat.toString_eq_ofList_toDigits, String.toList_ofList]
  | negSucc n =>
    have negative : decide (Int.negSucc n < 0) = true := decide_eq_true (Int.negSucc_lt_zero n)
    change ("-" ++ toString (n + 1)).toList = signed (decide (Int.negSucc n < 0)) (Nat.toDigits 10 (n + 1))
    simp only [negative, String.toList_append, Nat.toString_eq_ofList_toDigits, String.toList_ofList]
    rfl

/-- The first digit of a number is no zero, unless the number is zero. -/
theorem toDigits_leading {n : Nat} (above : 0 < n) : ∃ c rest, Nat.toDigits 10 n = c :: rest ∧ c ≠ '0' := by
  induction n using Nat.strongRecOn with
  | ind n ih =>
    rw [Nat.toDigits_eq_if (by decide)]
    split
    next small =>
      refine ⟨_, _, rfl, ?_⟩
      have nonzero : ∀ n < 10, 0 < n → Nat.digitChar n ≠ '0' := by decide
      exact nonzero n small above
    next large =>
      obtain ⟨c, rest, shape, leading⟩ := ih (n / 10) (by omega) (by omega)
      exact ⟨c, rest ++ [Nat.digitChar (n % 10)], by rw [shape, List.cons_append], leading⟩

theorem isUnsigned_toDigits (n : Nat) : IsUnsigned (Nat.toDigits 10 n) := by
  refine ⟨fun c mem => mem_numerals_of_isDigit (isDigit_toDigits c mem), ?_⟩
  obtain ⟨c, rest, shape⟩ := List.exists_cons_of_ne_nil (Nat.toDigits_ne_nil (n := n) (b := 10))
  exact ⟨c, rest, isDigit_toDigits (n := n) c (by simp [shape]), shape⟩

private theorem foldl_digits {digits : List Char} (digit : ∀ c ∈ digits, c.isDigit = true) (start : Nat) :
    digits.foldl (fun value? c => do return 10 * (← value?) + (← Text.digitValue? 10 c)) (some start) =
      some (digits.foldl (fun value c => 10 * value + (c.toNat - '0'.toNat)) start) := by
  induction digits generalizing start with
  | nil => rfl
  | cons c rest ih =>
    have value : ∀ c ∈ numerals, c.isDigit = true → Text.digitValue? 10 c = some (c.toNat - '0'.toNat) :=
      List.all_iff_forall_prop.mp (by decide)
    have known := digit c List.mem_cons_self
    rw [List.foldl_cons, List.foldl_cons, value c (mem_numerals_of_isDigit known) known]
    exact ih (fun c mem => digit c (List.mem_cons_of_mem _ mem)) _

private theorem signedDigits?_eq (base : Nat) (text : List Char) :
    Text.signedDigits? base text =
      (Text.joinDigits (Text.dropBaseMark base (takeSign (Text.trim Text.isBlank text)).2)).map fun digits =>
        ((takeSign (Text.trim Text.isBlank text)).1, digits) := rfl

private theorem readInteger?_digits (n : Nat) : Text.readInteger? 10 (Nat.toDigits 10 n) = some (n : Int) := by
  have unsigned := isUnsigned_toDigits n
  have unmarked : Text.dropBaseMark 10 (Nat.toDigits 10 n) = Nat.toDigits 10 n := by
    unfold Text.dropBaseMark
    split <;> rfl
  have joined := joinDigits_solid unsigned.some (unsigned.solid (by decide))
  have value : Text.digitsNumber? 10 (Nat.toDigits 10 n) = some n := by
    refine (foldl_digits isDigit_toDigits 0).trans ?_
    exact congrArg some (naturalOf_toDigits n)
  unfold Text.readInteger?
  rw [signedDigits?_eq, trim_numerals unsigned.numeric, unsigned.takeSign, unmarked, joined]
  simp [value]

/-- Digits without a zero before them are read in base ten. -/
theorem toInteger_signed {c : Char} {rest : List Char} {magnitude : Int} (unsigned : IsUnsigned (c :: rest))
    (leading : c ≠ '0') (read : integerIn 10 (c :: rest) = .ok magnitude) (negative : Bool) :
    toInteger (signed negative (c :: rest)) = .ok (if negative then -magnitude else magnitude) := by
  have colon : (c :: rest).contains ':' = false := by simpa using unsigned.solid (by decide)
  unfold toInteger
  rw [unsigned.unsignedText_signed]
  simp only [bind, Except.bind]
  split
  next same => cases same
  next same => exact absurd (List.cons.inj same).1 leading
  next same => exact absurd (List.cons.inj same).1 leading
  next same => exact absurd (List.cons.inj same).1 leading
  next same => exact absurd (List.cons.inj same).1 leading
  next =>
    rw [colon, if_neg Bool.false_ne_true, read]
    rfl

private theorem length_toDigits_le {m k : Nat} (some : 0 < k) (bound : m < Nat.pow 10 k) : (Nat.toDigits 10 m).length ≤ k :=
  (Nat.length_toDigits_le_iff (by decide) some).mpr bound

private theorem integerIn_digits {n : Nat} (short : (Nat.toDigits 10 n).length ≤ Text.digitLimit) :
    integerIn 10 (Nat.toDigits 10 n) = .ok (n : Int) := by
  have count : ((Nat.toDigits 10 n).filter fun c => (Text.decimalValue? c).isSome).length ≤ Text.digitLimit :=
    (List.length_filter_le ..).trans short
  unfold integerIn
  simp only [readInteger?_digits]
  rw [if_neg (by simpa using count)]

/-- A number of few enough digits is read as it is written. -/
theorem toInteger_toString {n : Int} (short : Text.isTooLong n = false) : toInteger (toString n).toList = .ok n := by
  have read := integerIn_digits (length_toDigits_le (by decide) (Nat.lt_of_not_le (of_decide_eq_false short)))
  clear short
  have sign : (if decide (n < 0) = true then -(n.natAbs : Int) else n.natAbs) = n := by
    split
    next below =>
      have := of_decide_eq_true below
      omega
    next above =>
      have := mt decide_eq_true above
      omega
  rw [toString_int]
  obtain zero | above := Nat.eq_zero_or_pos n.natAbs
  · obtain rfl : n = 0 := by omega
    rfl
  · obtain ⟨c, rest, shape, leading⟩ := toDigits_leading above
    have unsigned := isUnsigned_toDigits n.natAbs
    rw [shape] at read unsigned ⊢
    rw [toInteger_signed unsigned leading read, sign]

section

variable {c : Char} {rest : List Char} (digit : ∀ d ∈ c :: rest, d.isDigit = true) (negative : Bool)

include digit

private theorem isUnsigned_digits : IsUnsigned (c :: rest) :=
  ⟨fun d mem => mem_numerals_of_isDigit (digit d mem), c, rest, digit c List.mem_cons_self, rfl⟩

private theorem dropWhile_rest : rest.dropWhile isNumeralChar = [] := by
  have all := dropWhile_numeral (fun d mem => digit d (List.mem_cons_of_mem c mem)) [] (by simp)
  rwa [List.append_nil] at all

private theorem signed_head : ∀ d ∈ (signed negative (c :: rest)).head?, d ≠ '.' := by
  intro d first
  cases negative with
  | true =>
    cases first
    decide
  | false =>
    cases first
    rintro rfl
    cases digit '.' List.mem_cons_self

private theorem isFloatText_digits : isFloatText (signed negative (c :: rest)) = false := by
  have head := signed_head digit negative
  have infinite : [".inf", ".Inf", ".INF"].any (·.toList == c :: rest) = false := by
    have point : '.' ≠ c := signed_head digit false c rfl |>.symm
    simp [point]
  have none : [".nan", ".NaN", ".NAN"].any (·.toList == signed negative (c :: rest)) = false := by
    generalize signed negative (c :: rest) = text at head
    simp only [List.any_eq_false, beq_iff_eq]
    rintro word mem rfl
    have point : ∀ word ∈ [".nan", ".NaN", ".NAN"], word.toList.head? = some '.' := by decide
    exact head '.' (point word mem) rfl
  unfold isFloatText
  rw [(isUnsigned_digits digit).dropSign_signed]
  simp only [infinite, none, dropWhile_rest digit, Bool.or_self, Bool.false_or, Bool.or_eq_false_iff]
  constructor
  · split
    next shape => exact absurd rfl (head '.' (by rw [shape]; rfl))
    next => rfl
  · simp [dropSixties]

private theorem isIntegerText_digits (leading : c ≠ '0') : isIntegerText (signed negative (c :: rest)) = true := by
  have first := digit c List.mem_cons_self
  unfold isIntegerText
  rw [(isUnsigned_digits digit).dropSign_signed]
  split
  next same => exact absurd (List.cons.inj same).1 leading
  next same => exact absurd (List.cons.inj same).1 leading
  next same => exact absurd (List.cons.inj same).1 leading
  next same => exact absurd (List.cons.inj same).1 leading
  next same =>
    cases same
    simp only [first, dropWhile_rest digit, List.isEmpty_nil, Bool.true_or, Bool.and_self]
  next same => cases same

end

theorem ofPlain_toString (n : Int) : Tag.ofPlain (toString n).toList = .int := by
  rw [toString_int]
  generalize decide (n < 0) = negative
  obtain zero | above := Nat.eq_zero_or_pos n.natAbs
  · rw [zero]
    cases negative <;> rfl
  · obtain ⟨c, rest, shape, leading⟩ := toDigits_leading above
    have digit := isDigit_toDigits (n := n.natAbs)
    rw [shape] at digit ⊢
    have float := isFloatText_digits digit negative
    have integer := isIntegerText_digits digit negative leading
    rw [ofPlain_numerals (isUnsigned_digits digit).mem_signed (by simp [integer]), float, if_neg Bool.false_ne_true]

end Yaml

end ElasticEndpoint
