import VectorSearch.Proofs.Number.Digits
import VectorSearch.Proofs.Number.Rounding

namespace VectorSearch.Number

open Float.Model UnpackedFloat

/-! The quick reading of numerals does not fail on small ones.

Scaling by a power of ten fails only where a product becomes infinite. The exponents of the factors
bound the exponent of a product, so a product of two numbers of moderate exponents is finite.
-/

theorem log2_le {n width : Nat} (narrow : n < 2 ^ width) : n.log2 ≤ width := by
  rcases Nat.eq_zero_or_pos n with rfl | positive
  · exact Nat.zero_le _
  · exact Nat.le_of_lt ((Nat.log2_lt (Nat.ne_of_gt positive)).mpr narrow)

/-- Rounding raises an exponent by little more than the digits of the significand. -/
theorem within_roundWithAccuracy {mantissa width : Nat} (narrow : mantissa < 2 ^ width)
    {exponent bound : Int} (above : exponent + 2 * width ≤ bound) (wide : width ≤ bound)
    (sign : Sign) (accuracy : Accuracy) :
    Within bound (roundWithAccuracy .binary64 sign mantissa exponent accuracy) := by
  have digits := log2_le narrow
  have count : (dropped .binary64 mantissa exponent : Int) =
      max 0 (max ((mantissa.log2 : Int) + 1 - 53) (-1074 - exponent)) :=
    dropped_eq .binary64 mantissa exponent
  have rounds := rounds_roundWithAccuracy .binary64 sign mantissa exponent accuracy
  generalize roundWithAccuracy .binary64 sign mantissa exponent accuracy = result at rounds ⊢
  cases rounds with
  | zero => trivial
  | kept =>
      change _ ≤ bound
      omega
  | carried full =>
      -- Nothing carries out of a significand without digits.
      have some : width ≠ 0 := by
        rintro rfl
        rw [Nat.lt_one_iff.mp narrow, Nat.zero_div] at full
        exact absurd full (by decide)
      change _ ≤ bound
      omega

theorem within_unpack_packComponents {sign : Sign} {biased : BitVec 11} {fraction : BitVec 52}
    {bound : Int} (low : -1074 ≤ bound) (finite : biased.toNat < 2047)
    (high : (biased.toNat : Int) - 1075 ≤ bound) :
    Within bound (unpack .binary64 (packComponents .binary64 sign biased fraction)) := by
  have notAll : biased ≠ -1#11 := by
    rintro rfl
    exact absurd finite (by decide)
  have bias : ((Format.binary64.exponentBias : Int) + 52) = 1075 := by decide
  simp only [UnpackedFloat.unpack, unpackExponent_packComponents, unpackMantissa_packComponents]
  rw [if_neg notAll]
  split
  next zero =>
    split
    next => trivial
    next =>
      subst zero
      change ((0 : Int) - (Format.binary64.exponentBias + 52)) + 1 ≤ bound
      omega
  next =>
    change (biased.toNat : Int) - (Format.binary64.exponentBias + 52) ≤ bound
    omega

theorem within_unpack_pack {x : UnpackedFloat} {bound : Int} (within : Within bound x)
    (low : -1074 ≤ bound) (high : bound ≤ 971) :
    Within bound (unpack .binary64 (pack .binary64 x)) := by
  match x, within with
  | .zero sign, _ => exact within_unpack_packComponents low (by decide) (by simp; omega)
  | .finite sign mantissa exponent positive, within =>
      change exponent ≤ bound at within
      have bias : (Format.binary64.exponentBias : Int) = 1023 := by decide
      rw [UnpackedFloat.pack]
      dsimp only
      rw [if_neg (by omega)]
      split
      next =>
        have field : ∀ n, (BitVec.ofNat 11 n).toNat = n % 2 ^ 11 := fun n => BitVec.toNat_ofNat n 11
        refine within_unpack_packComponents low ?_ ?_
        · rw [field]
          omega
        · rw [field]
          omega
      next => exact within_unpack_packComponents low (by decide) (by simp; omega)

theorem within_mul {x y : UnpackedFloat} {first second bound : Int} (left : Within first x)
    (right : Within second y) (above : first + second + 212 ≤ bound) (wide : 106 ≤ bound)
    (narrowLeft : ∀ {sign mantissa exponent positive},
      x = .finite sign mantissa exponent positive → mantissa < 2 ^ 53)
    (narrowRight : ∀ {sign mantissa exponent positive},
      y = .finite sign mantissa exponent positive → mantissa < 2 ^ 53) :
    Within bound (UnpackedFloat.mul .binary64 x y) := by
  match x, y, left, right with
  | .zero _, .zero _, _, _ => trivial
  | .zero _, .finite .., _, _ => trivial
  | .finite .., .zero _, _, _ => trivial
  | .finite _ mantissa exponent _, .finite _ mantissa' exponent' _, left, right =>
      change exponent ≤ first at left
      change exponent' ≤ second at right
      have product : mantissa * mantissa' < 2 ^ 106 := by
        rw [Nat.pow_add 2 53 53]
        exact Nat.mul_lt_mul'' (narrowLeft rfl) (narrowRight rfl)
      exact within_roundWithAccuracy product (by omega) wide _ _

theorem mul_isInf_eq_false {x y : Float} {first second : Int}
    (left : Within first x.toModel.unpack) (right : Within second y.toModel.unpack)
    (moderate : first + second ≤ 759) : (x * y).isInf = false := by
  have product : Within 971 (UnpackedFloat.mul .binary64 x.toModel.unpack y.toModel.unpack) :=
    within_mul left right (by omega) (by decide) (fun unpacked => (digits_of_unpack unpacked).1)
      fun unpacked => (digits_of_unpack unpacked).1
  have packed : Within 971 (x * y).toModel.unpack :=
    within_unpack_pack product (by decide) (by decide)
  change (x * y).toModel.unpack.isInf = false
  revert packed
  cases (x * y).toModel.unpack with
  | infinity => exact False.elim
  | _ => exact fun _ => rfl

theorem within_toFloat (n : UInt64) : Within 232 n.toFloat.toModel.unpack := by
  refine within_unpack_pack ?_ (by decide) (by decide)
  change Within 232 (UnpackedFloat.normalize .binary64 n.toNat 0 .positive)
  rw [UnpackedFloat.normalize]
  split
  next negative =>
    have below : (n.toNat : Int) < 0 := Int.compare_eq_lt.mp negative
    omega
  next => trivial
  next =>
    let target := Format.binary64.targetExponent (totalExponent n.toNat 0)
    have low : -52 ≤ target := by
      change -52 ≤ max ((n.toNat.log2 : Int) + 1 + 0 - 53) (-1074)
      omega
    have shift : (0 - target).toNat ≤ 52 := by omega
    have shifted : n.toNat <<< (0 - target).toNat < 2 ^ 116 := by
      rw [Nat.shiftLeft_eq, Nat.pow_add 2 64 52]
      exact Nat.mul_lt_mul_of_lt_of_le n.toNat_lt (Nat.pow_le_pow_right (by decide) shift)
        (Nat.two_pow_pos _)
    exact within_roundWithAccuracy shifted (by omega) (by decide) _ _

theorem within_power {exponent : Nat} (small : exponent ≤ 100) :
    Within 280 (Float.ofScientific 1 false exponent).toModel.unpack := by
  have powers : ∀ exponent < 101,
      Within 280 (Float.ofScientific 1 false exponent).toModel.unpack := by decide +kernel
  exact powers exponent (Nat.lt_succ_of_le small)

theorem within_double (n : Nat) : Within 232 (double n).toModel.unpack := by
  rw [double, if_neg (Int.not_lt.mpr (Int.natCast_nonneg n))]
  exact within_toFloat _

namespace Numeral

theorem scale?_isSome_of_neg {x : Float} {exponent : Int} (below : exponent < 0) :
    (scale? x exponent).isSome = true := by
  fun_induction scale? x exponent with
  | case1 => rfl
  | case2 x exponent _ power notBelow => exact absurd below notBelow
  | case3 => rfl
  | case4 => rfl
  | case5 x exponent _ _ notBelow => exact absurd below (Int.not_lt.mpr notBelow)
  | case6 x exponent far _ _ ih => exact ih (by omega)

theorem scale?_isSome {x : Float} {exponent : Int} (within : Within 232 x.toModel.unpack)
    (small : exponent ≤ 100) : (scale? x exponent).isSome = true := by
  rcases Int.lt_or_le exponent 0 with below | above
  · exact scale?_isSome_of_neg below
  · have power := within_power (by omega : exponent.natAbs ≤ 100)
    have finite := mul_isInf_eq_false within power (by decide)
    rw [scale?, if_pos (by omega)]
    simp only [if_neg (Int.not_lt.mpr above), finite]
    rfl

theorem foldl_putWhole_exponent_le (digits : List Char) (gathered : Gathered) :
    (digits.foldl Gathered.putWhole gathered).exponent ≤ gathered.exponent + digits.length := by
  induction digits generalizing gathered with
  | nil => simp
  | cons digit rest ih =>
      have next : (gathered.putWhole digit).exponent ≤ gathered.exponent + 1 := by
        rw [Gathered.putWhole]
        split <;> dsimp only <;> omega
      have later := ih (gathered.putWhole digit)
      rw [List.foldl_cons, List.length_cons]
      omega

theorem foldl_putFraction_exponent_le (digits : List Char) (gathered : Gathered) :
    (digits.foldl Gathered.putFraction gathered).exponent ≤ gathered.exponent := by
  induction digits generalizing gathered with
  | nil => exact Int.le_refl _
  | cons digit rest ih =>
      have next : (gathered.putFraction digit).exponent ≤ gathered.exponent := by
        rw [Gathered.putFraction]
        split <;> dsimp only <;> omega
      exact Int.le_trans (ih _) next

theorem gather_exponent_le (numeral : Numeral) :
    numeral.gather.exponent ≤ numeral.whole.length := by
  have whole := foldl_putWhole_exponent_le numeral.whole ⟨0, 0, false⟩
  have fraction := foldl_putFraction_exponent_le numeral.fraction
    { numeral.whole.foldl Gathered.putWhole ⟨0, 0, false⟩ with full := false }
  rw [gather]
  dsimp only at whole fraction ⊢
  omega

theorem quick?_isSome {numeral : Numeral}
    (small : numeral.whole.length + numeral.exponentValue ≤ 100) :
    numeral.quick?.isSome = true := by
  have gathered := numeral.gather_exponent_le
  have least : Int32.minValue.toInt ≤ 0 := by decide
  have greatest : 100 ≤ Int32.maxValue.toInt := by decide
  rw [quick?]
  dsimp only
  rw [Option.isSome_map]
  split
  next far =>
    split
    next beyond => omega
    next => rfl
  next => exact scale?_isSome (within_double _) (by omega)

end Numeral

end VectorSearch.Number
