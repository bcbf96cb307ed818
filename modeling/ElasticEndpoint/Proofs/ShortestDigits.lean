import Mathlib.Data.Int.Log
import Mathlib.Data.Rat.Floor
import Mathlib.Tactic.Linarith
import Mathlib.Tactic.NormNum
import Mathlib.Tactic.Ring
import Mathlib.Tactic.FieldSimp
import ElasticEndpoint.Decimal.Shortest

/-!
Shortest digits read back. Rounding a ratio, and a decimal, depends on its value only and leaves a number of the format
as it is. The digits that a number is shown by were tried by rounding them, and where none of the tries succeeds the
exact expansion takes their place.
-/

namespace ElasticEndpoint.Decimal.Binary64

private theorem roundHalfEven_scaled (numerator denominator : Nat) {factor : Nat} (positive : 0 < factor) :
    roundHalfEven (numerator * factor) (denominator * factor) = roundHalfEven numerator denominator := by
  have rest : 2 * (numerator % denominator * factor) = 2 * (numerator % denominator) * factor := by ring
  unfold roundHalfEven
  simp only [Nat.mul_div_mul_right _ _ positive, Nat.mul_mod_mul_right, rest, Nat.mul_lt_mul_right positive]

/-- Two ratios that are equal round to the same integer. -/
theorem roundHalfEven_congr {n d n' d' : Nat} (first : 0 < d) (second : 0 < d') (equal : n * d' = n' * d) :
    roundHalfEven n d = roundHalfEven n' d' := by
  rw [← roundHalfEven_scaled n d second, ← roundHalfEven_scaled n' d' first, equal, Nat.mul_comm d d']

private theorem roundHalfEven_exact (n : Nat) {d : Nat} (positive : 0 < d) : roundHalfEven (n * d) d = n := by
  unfold roundHalfEven
  simp [positive]

/-- Whether a power of two is at most a ratio, without fractions. -/
theorem pow_le_ratio_iff {n d : Nat} (positive : 0 < d) (e : Int) :
    (2 : ℚ) ^ e ≤ n / d ↔
      if 0 ≤ e then d * Nat.pow 2 e.toNat ≤ n else d ≤ n * Nat.pow 2 (-e).toNat := by
  have denominator : (0 : ℚ) < d := by exact_mod_cast positive
  rw [le_div_iff₀ denominator]
  split
  next up =>
    obtain ⟨k, rfl⟩ := Int.eq_ofNat_of_zero_le up
    rw [Int.toNat_natCast, zpow_natCast, Nat.mul_comm]
    exact_mod_cast Iff.rfl
  next down =>
    obtain ⟨k, rfl⟩ : ∃ k : Nat, e = -k := ⟨(-e).toNat, by omega⟩
    have power : (0 : ℚ) < 2 ^ k := by positivity
    rw [neg_neg, Int.toNat_natCast, zpow_neg, zpow_natCast, inv_mul_le_iff₀ power, mul_comm]
    exact_mod_cast Iff.rfl

/-- The exponents of the leading bits of numerator and denominator tell that of the ratio up to one. -/
theorem log_ratio_bounds {n d : Nat} (above : 0 < n) (positive : 0 < d) :
    (Nat.log2 n : Int) - Nat.log2 d - 1 ≤ Int.log 2 (n / d : ℚ) ∧ Int.log 2 (n / d : ℚ) ≤ (Nat.log2 n : Int) - Nat.log2 d := by
  have numerator : (0 : ℚ) < n := by exact_mod_cast above
  have denominator : (0 : ℚ) < d := by exact_mod_cast positive
  have ratio : (0 : ℚ) < n / d := div_pos numerator denominator
  have low : ((2 : ℚ) ^ n.log2) ≤ n := by exact_mod_cast Nat.log2_self_le (by omega)
  have high : (n : ℚ) < 2 ^ (n.log2 + 1) := by exact_mod_cast Nat.lt_log2_self
  have low' : ((2 : ℚ) ^ d.log2) ≤ d := by exact_mod_cast Nat.log2_self_le (by omega)
  have high' : (d : ℚ) < 2 ^ (d.log2 + 1) := by exact_mod_cast Nat.lt_log2_self
  constructor
  · rw [← Int.zpow_le_iff_le_log (by decide) ratio]
    have power : ((2 : ℕ) : ℚ) ^ ((n.log2 : Int) - d.log2 - 1) = 2 ^ n.log2 / 2 ^ (d.log2 + 1) := by
      rw [show (n.log2 : Int) - d.log2 - 1 = (n.log2 : Int) - ((d.log2 + 1 : Nat) : Int) by push_cast; ring,
        zpow_sub₀ (by norm_num), zpow_natCast, zpow_natCast, Nat.cast_ofNat]
    rw [power, div_le_div_iff₀ (by positivity) denominator]
    exact mul_le_mul low high'.le denominator.le numerator.le
  · rw [← Int.lt_add_one_iff, ← Int.lt_zpow_iff_log_lt (by decide) ratio]
    have power : ((2 : ℕ) : ℚ) ^ ((n.log2 : Int) - d.log2 + 1) = 2 ^ (n.log2 + 1) / 2 ^ d.log2 := by
      rw [show (n.log2 : Int) - d.log2 + 1 = ((n.log2 + 1 : Nat) : Int) - (d.log2 : Int) by push_cast; ring,
        zpow_sub₀ (by norm_num), zpow_natCast, zpow_natCast, Nat.cast_ofNat]
    rw [power, div_lt_div_iff₀ denominator (by positivity)]
    exact mul_lt_mul high low' (by positivity) (by positivity)

/-- The exponent of the last place is taken from the binary logarithm of the ratio. -/
theorem lastPlace_eq_log {n d : Nat} (above : 0 < n) (positive : 0 < d) :
    lastPlace n d = max (-1074) (Int.log 2 (n / d : ℚ) - 52) := by
  have ratio : (0 : ℚ) < n / d := div_pos (by exact_mod_cast above) (by exact_mod_cast positive)
  obtain ⟨low, high⟩ := log_ratio_bounds above positive
  have reached := (pow_le_ratio_iff (n := n) positive ((Nat.log2 n : Int) - Nat.log2 d)).symm.trans
    (Int.zpow_le_iff_le_log (b := 2) (by decide) ratio)
  unfold lastPlace
  generalize (Nat.log2 n : Int) - Nat.log2 d = estimate at low high reached
  simp only [reached]
  split <;> omega

private theorem lastPlace_congr {n d n' d' : Nat} (above : 0 < n) (above' : 0 < n') (first : 0 < d) (second : 0 < d')
    (equal : n * d' = n' * d) : lastPlace n d = lastPlace n' d' := by
  have ratios : (n / d : ℚ) = n' / d' := by
    rw [div_eq_div_iff (by exact_mod_cast first.ne') (by exact_mod_cast second.ne')]
    exact_mod_cast equal
  rw [lastPlace_eq_log above first, lastPlace_eq_log above' second, ratios]

/-- Rounding a ratio depends on its value only. -/
theorem ofRatio_congr (negative : Bool) {n d n' d' : Nat} (first : 0 < d) (second : 0 < d') (equal : n * d' = n' * d) :
    ofRatio negative n d = ofRatio negative n' d' := by
  obtain rfl | above := Nat.eq_zero_or_pos n
  · obtain rfl : n' = 0 := by simpa [first.ne'] using equal
    rfl
  have above' : 0 < n' := Nat.pos_of_ne_zero fun zero => by simp [zero, above.ne', second.ne'] at equal
  unfold ofRatio
  rw [← lastPlace_congr above above' first second equal]
  simp only [beq_iff_eq, above.ne', above'.ne', if_false]
  congr 1
  split
  · refine roundHalfEven_congr (Nat.mul_pos first (Nat.two_pow_pos _)) (Nat.mul_pos second (Nat.two_pow_pos _)) ?_
    rw [← Nat.mul_assoc, equal, Nat.mul_assoc]
  · refine roundHalfEven_congr first second ?_
    rw [Nat.mul_right_comm, equal, Nat.mul_right_comm]

private theorem digitCount_pos {n : Nat} (above : 0 < n) : digitCount n = (Nat.toDigits 10 n).length := by
  simp [digitCount, above.ne']

private theorem digitCount_tenfold {n : Nat} (above : 0 < n) : digitCount (n * 10) = digitCount n + 1 := by
  rw [digitCount_pos above, digitCount_pos (by omega), Nat.toDigits_of_base_le (by decide) (by omega),
    Nat.mul_div_cancel _ (by decide), List.length_append]
  rfl

theorem digitCount_le_iff {n k : Nat} (above : 0 < n) (some : 0 < k) : digitCount n ≤ k ↔ n < 10 ^ k := by
  rw [digitCount_pos above, Nat.length_toDigits_le_iff (by decide) some]

/-- A ratio is rounded alike with its ten in the digits and in the power. -/
theorem ofRatio_tenfold (negative : Bool) (digits : Nat) (exponent : Int) :
    (if 0 ≤ exponent then ofRatio negative (digits * 10 * Nat.pow 10 exponent.toNat) 1
      else ofRatio negative (digits * 10) (Nat.pow 10 (-exponent).toNat)) =
    if 0 ≤ exponent + 1 then ofRatio negative (digits * Nat.pow 10 (exponent + 1).toNat) 1
      else ofRatio negative digits (Nat.pow 10 (-(exponent + 1)).toNat) := by
  obtain up | rfl | down : 0 ≤ exponent ∨ exponent = -1 ∨ exponent + 1 < 0 := by omega
  · have next : (exponent + 1).toNat = exponent.toNat + 1 := by omega
    rw [if_pos up, if_pos (by omega), next]
    refine ofRatio_congr _ Nat.one_pos Nat.one_pos ?_
    simp only [Nat.pow_eq]
    ring
  · exact ofRatio_congr _ (by decide) Nat.one_pos (by simp)
  · have next : (-exponent).toNat = (-(exponent + 1)).toNat + 1 := by omega
    rw [if_neg (by omega), if_neg (by omega), next]
    refine ofRatio_congr _ (Nat.pow_pos (n := _) (by decide : 0 < 10)) (Nat.pow_pos (n := _) (by decide : 0 < 10)) ?_
    simp only [Nat.pow_eq]
    ring

/-- A zero at the end of the digits is a place of the exponent. -/
theorem ofDecimal_tenfold (negative : Bool) (digits : Nat) (exponent : Int) :
    ofDecimal negative (digits * 10) exponent = ofDecimal negative digits (exponent + 1) := by
  obtain rfl | above := Nat.eq_zero_or_pos digits
  · rfl
  have leading : exponent + ((digitCount digits + 1 : Nat) : Int) = exponent + 1 + digitCount digits := by omega
  have present : (digits * 10 == 0) = (digits == 0) := by simp
  unfold ofDecimal
  simp only [digitCount_tenfold above, leading, present, ofRatio_tenfold]

/-- Rounding a decimal depends on its value only, however many zeros stand at the end of its digits. -/
theorem ofDecimal_scaled (negative : Bool) (digits places : Nat) (exponent : Int) :
    ofDecimal negative (digits * 10 ^ places) exponent = ofDecimal negative digits (exponent + places) := by
  induction places generalizing exponent with
  | zero => simp
  | succ places ih =>
    rw [Nat.pow_succ, ← Nat.mul_assoc, ofDecimal_tenfold, ih]
    congr 1
    push_cast
    ring

section

variable {significand : Nat} {exponent : Int}

/-- The numerator of a significand times a power of two. -/
def numerator (significand : Nat) (exponent : Int) : Nat :=
  if 0 ≤ exponent then significand * Nat.pow 2 exponent.toNat else significand

/-- The denominator of a significand times a power of two. -/
def denominator (exponent : Int) : Nat := if 0 ≤ exponent then 1 else Nat.pow 2 (-exponent).toNat

private theorem denominator_pos (exponent : Int) : 0 < denominator exponent := by
  unfold denominator
  split
  · exact Nat.one_pos
  · exact Nat.two_pow_pos _

private theorem numerator_pos (some : 0 < significand) (exponent : Int) : 0 < numerator significand exponent := by
  unfold numerator
  split
  · exact Nat.mul_pos some (Nat.two_pow_pos _)
  · exact some

private theorem ratio_eq (significand : Nat) (exponent : Int) :
    (numerator significand exponent / denominator exponent : ℚ) = significand * 2 ^ exponent := by
  unfold numerator denominator
  split
  next up =>
    obtain ⟨k, rfl⟩ := Int.eq_ofNat_of_zero_le up
    simp
  next down =>
    obtain ⟨k, rfl⟩ : ∃ k : Nat, exponent = -k := ⟨(-exponent).toNat, by omega⟩
    simp [div_eq_mul_inv]

/-- The last place of a number of the format is that of its normal form. -/
theorem lastPlace_normal (normal : Normal significand exponent) (some : 0 < significand) :
    lastPlace (numerator significand exponent) (denominator exponent) = exponent := by
  obtain ⟨narrow, least, -, full⟩ := normal
  have power : (0 : ℚ) < 2 ^ exponent := zpow_pos (by norm_num) _
  have ratio : (0 : ℚ) < significand * 2 ^ exponent := mul_pos (by exact_mod_cast some) power
  have below : Int.log 2 (significand * 2 ^ exponent : ℚ) < 53 + exponent := by
    rw [← Int.lt_zpow_iff_log_lt (by decide) ratio, Nat.cast_ofNat, zpow_add₀ (by norm_num)]
    refine mul_lt_mul_of_pos_right ?_ power
    exact_mod_cast narrow
  have above : leastFull ≤ significand → 52 + exponent ≤ Int.log 2 (significand * 2 ^ exponent : ℚ) := fun wide => by
    rw [← Int.zpow_le_iff_le_log (by decide) ratio, Nat.cast_ofNat, zpow_add₀ (by norm_num)]
    refine mul_le_mul_of_nonneg_right ?_ power.le
    exact_mod_cast wide
  rw [lastPlace_eq_log (numerator_pos some _) (denominator_pos _), ratio_eq]
  omega

/-- A number of the format is rounded to itself. -/
theorem ofRatio_normal (negative : Bool) (normal : Normal significand exponent) (some : 0 < significand) :
    ofRatio negative (numerator significand exponent) (denominator exponent) =
      .finite negative significand exponent normal := by
  have rounded : (if 0 ≤ exponent then
        roundHalfEven (numerator significand exponent) (denominator exponent * Nat.pow 2 exponent.toNat)
      else roundHalfEven (numerator significand exponent * Nat.pow 2 (-exponent).toNat) (denominator exponent)) =
      significand := by
    unfold numerator denominator
    split
    · rw [Nat.one_mul]
      exact roundHalfEven_exact _ (Nat.two_pow_pos _)
    · exact roundHalfEven_exact _ (Nat.two_pow_pos _)
  have carried : (significand == leastTooWide) = false := beq_false_of_ne normal.1.ne
  unfold ofRatio
  simp only [beq_iff_eq, (numerator_pos some exponent).ne', if_false, lastPlace_normal normal some, rounded]
  unfold assemble
  simp only [carried, Bool.false_eq_true, if_false, dif_pos normal]

/-- A scaled number is read as a number of the format. -/
def ReadsBack (scaled : Scaled) (significand : Nat) (exponent : Int) : Prop :=
  ∃ normal, ofDecimal false scaled.digits scaled.exponent = .finite false significand exponent normal

private theorem ofDecimal_stripZeros (fuel digits : Nat) (exponent : Int) :
    ofDecimal false (stripZeros fuel digits exponent).digits (stripZeros fuel digits exponent).exponent =
      ofDecimal false digits exponent := by
  induction fuel generalizing digits exponent with
  | zero => rfl
  | succ fuel ih =>
    unfold stripZeros
    split
    next zero =>
      simp only [bne_iff_ne, Bool.and_eq_true, beq_iff_eq] at zero
      rw [ih, ← ofDecimal_tenfold, Nat.div_mul_cancel (Nat.dvd_of_mod_eq_zero zero.2)]
    next => rfl

/-- The sign of what a decimal is rounded to is that of the decimal. -/
theorem ofDecimal_sign {negative negative' : Bool} {digits : Nat} {place exponent : Int} {significand : Nat}
    {normal : Normal significand exponent}
    (rounded : ofDecimal negative digits place = .finite negative' significand exponent normal) :
    negative' = negative := by
  have ofAssemble {m : Nat} {e : Int} (assembled : assemble negative m e = .finite negative' significand exponent normal) :
      negative' = negative := by
    unfold assemble at assembled
    dsimp only at assembled
    generalize (if (m == leastTooWide) = true then leastFull else m) = m',
      (if (m == leastTooWide) = true then e + 1 else e) = e' at assembled
    split at assembled
    · cases assembled
      rfl
    · cases assembled
  have ofRatio {n d : Nat} (rounded : ofRatio negative n d = .finite negative' significand exponent normal) :
      negative' = negative := by
    unfold Binary64.ofRatio at rounded
    split at rounded
    · cases rounded
      rfl
    · exact ofAssemble rounded
  unfold ofDecimal at rounded
  dsimp only at rounded
  split at rounded
  · cases rounded
    rfl
  · split at rounded
    · cases rounded
    · split at rounded <;> exact ofRatio rounded

private theorem lt_pow_digitCount {n : Nat} (above : 0 < n) : n < 10 ^ digitCount n := by
  have some : 0 < digitCount n := by
    rw [digitCount_pos above]
    exact Nat.length_toDigits_pos
  exact (digitCount_le_iff above some).mp le_rfl

/-- Within its range, a decimal is rounded as the ratio that it is. -/
theorem ofDecimal_within {digits : Nat} (some : 0 < digits) (low : -330 ≤ exponent + digitCount digits)
    (high : exponent + digitCount digits ≤ 310) :
    ofDecimal false digits exponent =
      if 0 ≤ exponent then ofRatio false (digits * Nat.pow 10 exponent.toNat) 1
      else ofRatio false digits (Nat.pow 10 (-exponent).toNat) := by
  have inside : (digits == 0 || decide (exponent + digitCount digits < -330)) = false := by
    simp [some.ne', low]
  unfold ofDecimal
  simp only [inside, Bool.false_eq_true, if_false, not_lt.mpr high]

/-- Of a number below one, the digits of the exact expansion begin within the range. -/
theorem expansion_place {k : Nat} (least : k ≤ 1074) (narrow : significand < leastTooWide) (some : 0 < significand) :
    -330 ≤ -(k : Int) + digitCount (significand * 5 ^ k) ∧ -(k : Int) + digitCount (significand * 5 ^ k) ≤ 310 := by
  have above : 0 < significand * 5 ^ k := Nat.mul_pos some (Nat.pow_pos (by decide))
  constructor
  · by_contra low
    have short : digitCount (significand * 5 ^ k) + 331 ≤ k := by omega
    -- Sixteen twos make less than seven fives, and the twos are too few to use up the fives that are left.
    obtain ⟨groups, twos, fives⟩ : ∃ q, k - 331 ≤ 16 * q ∧ 7 * q ≤ 331 := ⟨(k - 331 + 15) / 16, by omega, by omega⟩
    have bound : 10 ^ digitCount (significand * 5 ^ k) ≤ significand * 5 ^ k := calc
      10 ^ digitCount (significand * 5 ^ k) ≤ 10 ^ (k - 331) := Nat.pow_le_pow_right (by decide) (by omega)
      _ = 2 ^ (k - 331) * 5 ^ (k - 331) := by rw [← Nat.mul_pow]
      _ ≤ 2 ^ (16 * groups) * 5 ^ (k - 331) := Nat.mul_le_mul_right _ (Nat.pow_le_pow_right (by decide) twos)
      _ = (2 ^ 16) ^ groups * 5 ^ (k - 331) := by rw [Nat.pow_mul]
      _ ≤ (5 ^ 7) ^ groups * 5 ^ (k - 331) := Nat.mul_le_mul_right _ (Nat.pow_le_pow_left (by decide) _)
      _ = 5 ^ (7 * groups + (k - 331)) := by rw [Nat.pow_add, Nat.pow_mul]
      _ ≤ 5 ^ k := Nat.pow_le_pow_right (by decide) (by omega)
      _ ≤ significand * 5 ^ k := Nat.le_mul_of_pos_left _ some
    exact absurd (lt_pow_digitCount above) (by omega)
  · have bound : significand * 5 ^ k < 10 ^ (310 + k) := calc
      significand * 5 ^ k < 10 ^ 16 * 5 ^ k :=
        Nat.mul_lt_mul_of_pos_right (narrow.trans (by decide)) (Nat.pow_pos (by decide))
      _ ≤ 10 ^ 16 * 10 ^ k := Nat.mul_le_mul_left _ (Nat.pow_le_pow_left (by decide) k)
      _ = 10 ^ (16 + k) := (Nat.pow_add ..).symm
      _ ≤ 10 ^ (310 + k) := Nat.pow_le_pow_right (by decide) (by omega)
    have := (digitCount_le_iff above (by omega)).mpr bound
    omega

/-- The exact expansion of a number of the format reads back as the number. -/
theorem exact_readsBack (normal : Normal significand exponent) (some : 0 < significand) :
    ReadsBack (if 0 ≤ exponent then ⟨numerator significand exponent, 0⟩
      else ⟨significand * Nat.pow 5 (-exponent).toNat, exponent⟩) significand exponent := by
  have ⟨narrow, least, most, _⟩ := normal
  refine ⟨normal, ?_⟩
  rw [← ofRatio_normal false normal some]
  unfold numerator denominator
  split
  next up =>
    obtain ⟨k, rfl⟩ := Int.eq_ofNat_of_zero_le up
    have bound : significand * 2 ^ k < 10 ^ 310 := calc
      significand * 2 ^ k < leastTooWide * 2 ^ k := Nat.mul_lt_mul_of_pos_right narrow (Nat.two_pow_pos _)
      _ ≤ leastTooWide * 2 ^ 971 := Nat.mul_le_mul_left _ (Nat.pow_le_pow_right (by decide) (by omega))
      _ < 10 ^ 310 := by decide +kernel
    have count := (digitCount_le_iff (Nat.mul_pos some (Nat.two_pow_pos k)) (by decide)).mpr bound
    simp only [Int.toNat_natCast, Nat.pow_eq]
    rw [ofDecimal_within (Nat.mul_pos some (Nat.two_pow_pos k)) (by omega) (by omega)]
    simp
  next down =>
    obtain ⟨k, rfl⟩ : ∃ k : Nat, exponent = -k := ⟨(-exponent).toNat, by omega⟩
    obtain ⟨low, high⟩ := expansion_place (k := k) (by omega) narrow some
    simp only [neg_neg, Int.toNat_natCast, Nat.pow_eq]
    rw [ofDecimal_within (Nat.mul_pos some (Nat.pow_pos (by decide))) low high, if_neg down, neg_neg, Int.toNat_natCast]
    refine ofRatio_congr _ (Nat.pow_pos (by decide)) (Nat.two_pow_pos _) ?_
    rw [Nat.mul_assoc, ← Nat.mul_pow]
    rfl

/-- The digits that a number of the format is shown by read back as the number. -/
theorem shortestDigits_readsBack (normal : Normal significand exponent) (some : 0 < significand) :
    ReadsBack (shortestDigits significand exponent) significand exponent := by
  unfold shortestDigits
  dsimp only
  split
  next hit found =>
    obtain ⟨n, -, found⟩ := List.exists_of_findSome?_eq_some found
    have reads := List.find?_some found
    unfold ReadsBack
    rw [ofDecimal_stripZeros]
    split at reads
    next negative read scale normal rounded =>
      simp only [Bool.and_eq_true, beq_iff_eq] at reads
      obtain ⟨rfl, rfl⟩ := reads
      obtain rfl := ofDecimal_sign rounded
      exact ⟨normal, rounded⟩
    next => cases reads
  next => exact exact_readsBack normal some

end

end ElasticEndpoint.Decimal.Binary64
