import Mathlib.Tactic.FieldSimp
import Mathlib.Tactic.Ring
import VectorSearch.Proofs.Number.Decimal

namespace VectorSearch.Number

/-! Digits tell magnitudes apart.

The digits of a magnitude lie in its interval. Intervals of neighbours meet in one end, which belongs to
only one of them, so no number lies in two intervals.
-/

namespace Interval

def lower (interval : Interval) : ℚ :=
  interval.low * 2 ^ interval.exponent

def upper (interval : Interval) : ℚ :=
  interval.high * 2 ^ interval.exponent

/-- A number lies in an interval, at an end only if it is closed. -/
structure Contains (interval : Interval) (q : ℚ) : Prop where
  lower_le : interval.lower ≤ q
  le_upper : q ≤ interval.upper
  closed_of_lower : q = interval.lower → interval.closed = true
  closed_of_upper : q = interval.upper → interval.closed = true

end Interval

theorem natPow_toNat {base : ℚ} (nonzero : base ≠ 0) (exponent : Int) :
    base ^ exponent.toNat = base ^ exponent * base ^ (-exponent).toNat := by
  rw [← zpow_natCast, ← zpow_natCast, ← zpow_add₀ nonzero]
  congr 1
  omega

/-- The zeros that are left out do not count. -/
theorem magnitude_ofScaled (n : Nat) (exponent : Int) :
    (Digits.ofScaled n exponent).magnitude = n * 10 ^ exponent := by
  let kept := (Nat.toDigits 10 n).rdropWhile (· == '0')
  obtain ⟨count, all⟩ : ∃ count, Nat.toDigits 10 n = kept ++ List.replicate count '0' := by
    have zeros : ∀ c ∈ (Nat.toDigits 10 n).rtakeWhile (· == '0'), c = '0' := by
      intro c member
      have same : (c == '0') = true := List.mem_rtakeWhile_imp (p := (· == '0')) member
      exact eq_of_beq same
    have parted : kept ++ (Nat.toDigits 10 n).rtakeWhile (· == '0') = Nat.toDigits 10 n :=
      List.rdropWhile_append_rtakeWhile
    exact ⟨_, by rw [← List.eq_replicate_of_mem zeros, parted]⟩
  have power : ((Nat.toDigits 10 n).length : Int) + exponent - kept.length = exponent + count := by
    rw [all, List.length_append, List.length_replicate]
    omega
  have value : scaledValue (Nat.toDigits 10 n) exponent = n * 10 ^ exponent := by
    rw [scaledValue, digitsValue, Nat.ofDigitChars_ten_toDigits]
  have zeros := scaledValue_zeros kept count (exponent + count)
  rw [← all, add_sub_cancel_right, value] at zeros
  change scaledValue kept ((Nat.toDigits 10 n).length + exponent - kept.length) = _
  rw [power, zeros]

namespace BinaryFormat

variable (format : BinaryFormat)

theorem decode_succ (code : Nat) :
    (format.decode (code + 1)).exponent = (format.decode code).exponent ∧
        (format.decode (code + 1)).significand = (format.decode code).significand + 1 ∧
        ¬((format.decode (code + 1)).significand = Nat.pow 2 (format.precision - 1) ∧
          format.leastExponent < (format.decode (code + 1)).exponent) ∨
      (format.decode (code + 1)).exponent = (format.decode code).exponent + 1 ∧
        2 * (format.decode (code + 1)).significand = (format.decode code).significand + 1 ∧
        (format.decode (code + 1)).significand = Nat.pow 2 (format.precision - 1) ∧
          format.leastExponent < (format.decode (code + 1)).exponent := by
  have positive : 0 < Nat.pow 2 (format.precision - 1) := Nat.two_pow_pos _
  simp only [decode]
  generalize Nat.pow 2 (format.precision - 1) = implied at *
  have parts := Nat.mod_add_div code implied
  have small := Nat.mod_lt code positive
  generalize code / implied = field at *
  generalize code % implied = fraction at *
  rcases Nat.lt_or_eq_of_le (show fraction + 1 ≤ implied from small) with within | carry
  · obtain ⟨sameField, nextFraction⟩ : (code + 1) / implied = field ∧
        (code + 1) % implied = fraction + 1 :=
      (Nat.div_mod_unique positive).mpr ⟨by omega, within⟩
    rw [sameField, nextFraction]
    left
    by_cases subnormal : field = 0
    · simp [subnormal]
    · simp only [if_neg subnormal]
      exact ⟨trivial, by omega, by omega⟩
  · obtain ⟨nextField, noFraction⟩ : (code + 1) / implied = field + 1 ∧
        (code + 1) % implied = 0 := by
      refine (Nat.div_mod_unique positive).mpr ⟨?_, positive⟩
      rw [Nat.mul_succ]
      omega
    rw [nextField, noFraction]
    by_cases subnormal : field = 0
    · left
      simp [subnormal]
      omega
    · right
      simp only [if_neg subnormal, if_neg (Nat.succ_ne_zero field)]
      refine ⟨by omega, by omega, by omega, by omega⟩

/-- Neighbouring intervals meet. -/
theorem lower_succ (code : Nat) :
    (format.interval (code + 1)).lower = (format.interval code).upper := by
  have positive := format.decode_significand_pos (Nat.succ_ne_zero code)
  rcases format.decode_succ code with ⟨exponent, significand, long⟩ | ⟨exponent, significand, short⟩
  · have low : (format.interval (code + 1)).low = (format.interval code).high := by
      simp only [interval, if_neg long]
      omega
    have step : (format.interval (code + 1)).exponent = (format.interval code).exponent :=
      congrArg (· - 2) exponent
    rw [Interval.lower, Interval.upper, low, step]
  · have low : (format.interval code).high = (format.interval (code + 1)).low * 2 := by
      simp only [interval, if_pos short]
      omega
    have step : (format.interval (code + 1)).exponent = (format.interval code).exponent + 1 := by
      simp only [interval, exponent]
      omega
    rw [Interval.lower, Interval.upper, low, step, zpow_add_one₀ (by decide)]
    push_cast
    ring

theorem closed_succ (wide : 2 ≤ format.precision) (code : Nat) :
    (format.interval (code + 1)).closed = !(format.interval code).closed := by
  have even : Nat.pow 2 (format.precision - 1) % 2 = 0 := by
    obtain ⟨rest, same⟩ := Nat.exists_eq_add_of_le' wide
    rw [same]
    exact Nat.mul_mod_left _ _
  simp only [interval]
  rcases format.decode_succ code with ⟨-, significand, -⟩ | ⟨-, significand, short, -⟩
  · rw [significand, Bool.eq_iff_iff]
    simp only [decide_eq_true_eq, Bool.not_eq_true', decide_eq_false_iff_not]
    omega
  · have odd : (format.decode code).significand % 2 ≠ 0 := by omega
    rw [short, even, decide_eq_false odd]
    rfl

theorem lower_lt_upper (code : Nat) :
    (format.interval code).lower < (format.interval code).upper := by
  have less : (format.interval code).low < (format.interval code).high := by
    simp only [interval]
    omega
  exact mul_lt_mul_of_pos_right (Nat.cast_lt.mpr less) (zpow_pos (by decide) _)

theorem upper_le_lower {code other : Nat} (less : code < other) :
    (format.interval code).upper ≤ (format.interval other).lower := by
  induction less with
  | refl => exact (format.lower_succ code).ge
  | step less ih =>
      rw [format.lower_succ]
      exact ih.trans (format.lower_lt_upper _).le

/-- No number lies in the intervals of two magnitudes. -/
theorem not_contains_both (wide : 2 ≤ format.precision) {code other : Nat} (less : code < other)
    {q : ℚ} (first : (format.interval code).Contains q) :
    ¬(format.interval other).Contains q := by
  intro second
  have meet := format.upper_le_lower less
  have atUpper := le_antisymm first.le_upper (meet.trans second.lower_le)
  have atLower := le_antisymm (atUpper ▸ meet) second.lower_le
  rcases Nat.lt_or_eq_of_le (show code + 1 ≤ other from less) with apart | rfl
  · have strict := (format.lower_lt_upper (code + 1)).trans_le (format.upper_le_lower apart)
    rw [format.lower_succ] at strict
    exact absurd (atUpper.symm.trans atLower) strict.ne
  · have closed := first.closed_of_upper atUpper
    have closed' := second.closed_of_lower atLower
    rw [format.closed_succ wide, closed] at closed'
    cases closed'

end BinaryFormat

theorem Interval.contains_of_lt {interval : Interval} {q : ℚ} (above : interval.lower < q)
    (below : q < interval.upper) : interval.Contains q where
  lower_le := above.le
  le_upper := below.le
  closed_of_lower same := absurd same above.ne'
  closed_of_upper same := absurd same below.ne

theorem Interval.contains_onGrid {interval : Interval} {tie : Tie} {grid : Int} {n : Nat}
    (found : interval.onGrid? tie grid = some n) : interval.Contains (n * 10 ^ grid) := by
  have inside := onGrid?_inside found
  extract_lets unit scale at inside
  -- Both sides of each comparison carry the same positive factor.
  let factor : ℚ := 2 ^ (-interval.exponent).toNat * 10 ^ (-grid).toNat
  have positive : 0 < factor := mul_pos (pow_pos (by decide) _) (pow_pos (by decide) _)
  have unit_eq : ((n * unit : Nat) : ℚ) = n * 10 ^ grid * factor := by
    simp only [unit, factor, Nat.pow_eq, Nat.cast_mul, Nat.cast_pow, Nat.cast_ofNat,
      natPow_toNat (show (10 : ℚ) ≠ 0 by decide) grid]
    ring
  have scale_eq (bound : Nat) :
      ((bound * scale : Nat) : ℚ) = bound * 2 ^ interval.exponent * factor := by
    simp only [scale, factor, Nat.pow_eq, Nat.cast_mul, Nat.cast_pow, Nat.cast_ofNat,
      natPow_toNat (show (2 : ℚ) ≠ 0 by decide) interval.exponent]
    ring
  split at inside
  next closed =>
    obtain ⟨above, below⟩ := inside
    rw [← Nat.cast_le (α := ℚ), unit_eq, scale_eq, mul_le_mul_iff_of_pos_right positive] at above
    rw [← Nat.cast_le (α := ℚ), unit_eq, scale_eq, mul_le_mul_iff_of_pos_right positive] at below
    exact ⟨above, below, fun _ => closed, fun _ => closed⟩
  next =>
    obtain ⟨above, below⟩ := inside
    rw [← Nat.cast_lt (α := ℚ), unit_eq, scale_eq, mul_lt_mul_iff_of_pos_right positive] at above
    rw [← Nat.cast_lt (α := ℚ), unit_eq, scale_eq, mul_lt_mul_iff_of_pos_right positive] at below
    exact contains_of_lt above below

namespace BinaryFormat

variable (format : BinaryFormat)

theorem contains_value {code : Nat} (nonzero : code ≠ 0) :
    (format.interval code).Contains
      ((format.interval code).value * 2 ^ (format.interval code).exponent) := by
  have significand := format.decode_significand_pos nonzero
  have low : (format.interval code).low < (format.interval code).value := by
    dsimp only [interval]
    split <;> omega
  have high : (format.interval code).value < (format.interval code).high := by
    dsimp only [interval]
    omega
  have power : (0 : ℚ) < 2 ^ (format.interval code).exponent := zpow_pos (by decide) _
  exact Interval.contains_of_lt (mul_lt_mul_of_pos_right (Nat.cast_lt.mpr low) power)
    (mul_lt_mul_of_pos_right (Nat.cast_lt.mpr high) power)

theorem contains_shortest (tie : Tie) {code : Nat} (nonzero : code ≠ 0) :
    (format.interval code).Contains (format.shortest tie code).magnitude := by
  unfold shortest
  extract_lets interval whole halvings leading found
  cases same : found with
  | some digits =>
      obtain ⟨places, -, placed⟩ := List.exists_of_findSome?_eq_some same
      obtain ⟨n, onGrid, rfl⟩ := Option.map_eq_some_iff.mp placed
      rw [Option.getD_some, magnitude_ofScaled]
      exact Interval.contains_onGrid onGrid
  | none =>
      have exact : ((whole * Nat.pow 5 halvings : Nat) : ℚ) * 10 ^ (-halvings : Int) =
          interval.value * 2 ^ interval.exponent := by
        have tens : (10 : ℚ) ^ halvings = 5 ^ halvings * 2 ^ halvings := by
          rw [← mul_pow]
          norm_num
        have shift : (2 : ℚ) ^ interval.exponent.toNat = 2 ^ interval.exponent * 2 ^ halvings :=
          natPow_toNat (by decide) _
        simp only [whole, Nat.pow_eq, Nat.cast_mul, Nat.cast_pow, Nat.cast_ofNat, shift]
        rw [zpow_neg, zpow_natCast, tens]
        field_simp
      rw [Option.getD_none, magnitude_ofScaled, exact]
      exact format.contains_value nonzero

theorem magnitude_shortest_pos (tie : Tie) {code : Nat} (nonzero : code ≠ 0) :
    0 < (format.shortest tie code).magnitude := by
  have low : (0 : ℚ) < (format.interval code).lower :=
    mul_pos (Nat.cast_pos.mpr (format.interval_low_pos nonzero)) (zpow_pos (by decide) _)
  exact low.trans_le (format.contains_shortest tie nonzero).lower_le

theorem magnitude_ne (wide : 2 ≤ format.precision) (tie : Tie) {code other : Nat}
    (less : code < other) :
    (format.digits tie code).magnitude ≠ (format.digits tie other).magnitude := by
  have nonzero : other ≠ 0 := Nat.ne_of_gt (Nat.zero_lt_of_lt less)
  have digits_eq {code : Nat} (nonzero : code ≠ 0) :
      format.digits tie code = format.shortest tie code :=
    if_neg nonzero
  rw [digits_eq nonzero]
  intro same
  have second := format.contains_shortest tie nonzero
  by_cases zero : code = 0
  · have none : (format.digits tie code).magnitude = 0 := by
      rw [digits, if_pos zero, Digits.magnitude, scaledValue]
      exact zero_mul _
    exact absurd (none.symm.trans same) (format.magnitude_shortest_pos tie nonzero).ne
  · rw [digits_eq zero] at same
    exact format.not_contains_both wide less (same ▸ format.contains_shortest tie zero) second

/-- The number that its digits denote determines a magnitude. -/
theorem eq_of_magnitude_eq (wide : 2 ≤ format.precision) (tie : Tie) {code other : Nat}
    (same : (format.digits tie code).magnitude = (format.digits tie other).magnitude) :
    code = other := by
  rcases Nat.lt_trichotomy code other with less | equal | more
  · exact absurd same (format.magnitude_ne wide tie less)
  · exact equal
  · exact absurd same.symm (format.magnitude_ne wide tie more)

end BinaryFormat

end VectorSearch.Number
