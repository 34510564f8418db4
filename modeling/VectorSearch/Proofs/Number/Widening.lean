import VectorSearch.Proofs.Number.Codes
import VectorSearch.Proofs.Number.Digits

namespace VectorSearch.Number

open Float.Model UnpackedFloat

/-- How many digits a significand lacks of those of a double. -/
def lacking (significand : Nat) : Nat :=
  52 - significand.log2

theorem log2_filled {significand : Nat} (positive : 0 < significand)
    (short : significand < 2 ^ 53) : (significand * 2 ^ lacking significand).log2 = 52 := by
  have digits := (Nat.log2_lt (Nat.ne_of_gt positive)).mpr short
  rw [log2_mul_two_pow positive, lacking]
  omega

theorem filled_bounds {significand : Nat} (positive : 0 < significand)
    (short : significand < 2 ^ 53) :
    2 ^ 52 ≤ significand * 2 ^ lacking significand ∧
      significand * 2 ^ lacking significand < 2 ^ 53 :=
  (Nat.log2_eq_iff (Nat.ne_of_gt (Nat.mul_pos positive (Nat.two_pow_pos _)))).mp
    (log2_filled positive short)

theorem decode_filled {field significand : Nat} (least : 2 ^ 52 ≤ significand)
    (most : significand < 2 ^ 53) :
    binary64.decode (field * 2 ^ 52 + significand) = ⟨significand, field - 1074⟩ := by
  have quotient : (field * 2 ^ 52 + significand) / 2 ^ 52 = field + 1 := by omega
  have remainder : (field * 2 ^ 52 + significand) % 2 ^ 52 = significand - 2 ^ 52 := by omega
  simp only [BinaryFormat.decode, binary64, Nat.pow_eq, Nat.add_one_sub_one, quotient, remainder]
  rw [if_neg (Nat.succ_ne_zero field), Nat.sub_add_cancel least]
  congr 1

theorem encode_short {significand : Nat} {exponent : Int} (positive : 0 < significand)
    (short : significand < 2 ^ 53) (low : -1022 ≤ exponent) (high : exponent ≤ 900) :
    binary64.encode ⟨significand, exponent⟩ =
      (exponent - lacking significand + 1074).toNat * 2 ^ 52 +
        significand * 2 ^ lacking significand := by
  have digits : significand.log2 < 53 := (Nat.log2_lt (Nat.ne_of_gt positive)).mpr short
  have lacks : (lacking significand : Int) = 52 - significand.log2 := by
    rw [lacking]
    omega
  have step : max (exponent + ((significand.log2 : Int) + 1) - (53 : Nat)) (-1074) =
      exponent - lacking significand := by omega
  have shift : (exponent - (exponent - lacking significand)).toNat = lacking significand := by
    omega
  have finite : (exponent - lacking significand - -1074).toNat * 2 ^ 52 +
      significand * 2 ^ lacking significand < 0x7ff0000000000000 := by
    have := (filled_bounds positive short).2
    omega
  simp only [BinaryFormat.encode, binary64, if_neg (Nat.ne_of_gt positive), step,
    if_pos (Int.sub_le_self exponent (Int.natCast_nonneg _)), shift, Nat.pow_eq, Nat.reduceSub]
  rw [if_pos finite, Int.sub_neg]

/-- What a single-precision number becomes as a double: itself, with as many digits as a double
has. -/
inductive Widens : UnpackedFloat → UnpackedFloat → Prop
  | notANumber : Widens .notANumber .notANumber
  | infinity {sign : Sign} : Widens (.infinity sign) (.infinity sign)
  | zero {sign : Sign} : Widens (.zero sign) (.zero sign)
  | finite {sign : Sign} {significand : Nat} {exponent : Int} (positive : 0 < significand) :
      significand < 2 ^ 24 → -149 ≤ exponent → exponent ≤ 104 →
      Widens (.finite sign significand exponent positive)
        (.finite sign (significand * 2 ^ lacking significand) (exponent - lacking significand)
          (Nat.mul_pos positive (Nat.two_pow_pos _)))

theorem number_encode {significand : Nat} {exponent : Int} (positive : 0 < significand)
    (short : significand < 2 ^ 53) (low : -1022 ≤ exponent) (high : exponent ≤ 900) (sign : Sign) :
    binary64.encode ⟨significand, exponent⟩ < binary64.infinity ∧
      binary64.number sign (binary64.encode ⟨significand, exponent⟩) =
        .finite sign (significand * 2 ^ lacking significand) (exponent - lacking significand)
          (Nat.mul_pos positive (Nat.two_pow_pos _)) := by
  have lacks : lacking significand ≤ 52 := Nat.sub_le _ _
  obtain ⟨least, most⟩ := filled_bounds positive short
  have finite : binary64.encode ⟨significand, exponent⟩ < binary64.infinity := by
    rw [encode_short positive short low high]
    change _ < 0x7ff0000000000000
    omega
  have decoded : binary64.decode (binary64.encode ⟨significand, exponent⟩) =
      ⟨significand * 2 ^ lacking significand, exponent - lacking significand⟩ := by
    rw [encode_short positive short low high, decode_filled least most]
    congr 1
    omega
  refine ⟨finite, ?_⟩
  rw [BinaryFormat.number, if_pos finite]
  simp only [decoded]
  exact dif_pos (Nat.mul_pos positive (Nat.two_pow_pos _))

theorem Widens.same_kind {x y : UnpackedFloat} (widened : Widens x y) :
    y.isNaN = x.isNaN ∧ y.isInf = x.isInf := by
  cases widened <;> exact ⟨rfl, rfl⟩

theorem BinaryFormat.leastExponent_le (format : BinaryFormat) (code : Nat) :
    format.leastExponent ≤ (format.decode code).exponent := by
  rw [decode]
  split
  next => exact Int.le_refl _
  next => exact Int.le_add_of_nonneg_right (Int.natCast_nonneg _)

theorem convert_widens (sign : Sign) (code : Nat) :
    binary32.convert binary64 code < 2 ^ 63 ∧
      Widens (binary32.number sign code)
        (binary64.number sign (binary32.convert binary64 code)) := by
  rw [BinaryFormat.convert, BinaryFormat.number]
  by_cases finite : code < binary32.infinity
  · obtain ⟨short, high⟩ := binary32_decode_le finite
    have low : -149 ≤ (binary32.decode code).exponent := binary32.leastExponent_le code
    rw [if_pos finite, if_pos finite]
    by_cases positive : 0 < (binary32.decode code).significand
    · obtain ⟨small, number⟩ := number_encode positive (Nat.lt_trans short (by decide))
        (by omega) (Int.le_trans high (by decide)) sign
      rw [dif_pos positive, number]
      exact ⟨Nat.lt_trans small (by decide), .finite positive short low high⟩
    · have zero : binary64.encode (binary32.decode code) = 0 :=
        if_pos (Nat.eq_zero_of_not_pos positive)
      rw [dif_neg positive, zero]
      exact ⟨by decide, .zero⟩
  · rw [if_neg finite, if_neg finite]
    by_cases infinite : code = binary32.infinity
    · rw [if_pos infinite, if_pos infinite]
      exact ⟨by decide, .infinity⟩
    · rw [if_neg infinite, if_neg infinite]
      exact ⟨by decide, .notANumber⟩

theorem widens (x : Float32) : Widens x.toModel.unpack (widen x).toModel.unpack := by
  obtain ⟨small, widened⟩ := convert_widens (bitSign (magnitude32 x).2) (magnitude32 x).1
  rw [unpack_single, widen, unpack_ofBits]
  simp only [Nat.pow_eq]
  generalize binary32.convert binary64 (magnitude32 x).1 = wide at small widened ⊢
  cases negative : (magnitude32 x).2 with
  | true =>
      have bits : (UInt64.ofNat (wide + 2 ^ 63)).toNat = wide + 2 ^ 63 :=
        UInt64.toNat_ofNat_of_lt (Nat.add_lt_add_right small _)
      have signed : decide (2 ^ 63 ≤ wide + 2 ^ 63) = true := decide_eq_true (Nat.le_add_left _ _)
      rw [negative] at widened
      rwa [if_pos rfl, bits, signed, Nat.add_mod_right, Nat.mod_eq_of_lt small]
  | false =>
      have bits : (UInt64.ofNat wide).toNat = wide :=
        UInt64.toNat_ofNat_of_lt (Nat.lt_trans small (by decide))
      have signed : decide (2 ^ 63 ≤ wide) = false := decide_eq_false (Nat.not_le.mpr small)
      rw [negative] at widened
      rwa [if_neg Bool.false_ne_true, bits, signed, Nat.mod_eq_of_lt small]

end VectorSearch.Number
