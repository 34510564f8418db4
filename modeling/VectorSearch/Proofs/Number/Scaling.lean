import VectorSearch.Proofs.Number.Codes
import VectorSearch.Proofs.Number.Quick

namespace VectorSearch.Number

open Float.Model UnpackedFloat

/-- A quotient by a number with all digits has an exponent not far above the difference of both. -/
theorem within_div {x y : UnpackedFloat} {first low high bound : Int} (left : Within first x)
    (right : Full .binary64 low high y) (above : first - low + 316 ≤ bound) (wide : 158 ≤ bound)
    (narrow : ∀ {sign mantissa exponent positive},
      x = .finite sign mantissa exponent positive → mantissa < 2 ^ 53) :
    Within bound (UnpackedFloat.div .binary64 x y) := by
  match x, y, left, right with
  | .zero _, .finite .positive _ _ _, _, _ => trivial
  | .finite _ mantissa exponent _, .finite .positive mantissa' exponent' positive', left, right =>
      change exponent ≤ first at left
      obtain ⟨digits, least, -⟩ := right
      have width : mantissa'.log2 = 52 := Nat.succ.inj digits
      let target := min (exponent - exponent') (Format.binary64.targetExponent
        (totalExponent mantissa exponent - totalExponent mantissa' exponent'))
      have low : exponent - exponent' - 105 ≤ target := by
        change _ ≤ min (exponent - exponent') (max ((mantissa.log2 : Int) + 1 + exponent -
          (mantissa'.log2 + 1 + exponent') - 53) (-1074))
        omega
      have shift : (exponent - exponent' - target).toNat ≤ 105 := by omega
      have quotient : mantissa <<< (exponent - exponent' - target).toNat / mantissa' < 2 ^ 158 := by
        refine Nat.lt_of_le_of_lt (Nat.div_le_self _ _) ?_
        rw [Nat.shiftLeft_eq, Nat.pow_add 2 53 105]
        exact Nat.mul_lt_mul_of_lt_of_le (narrow rfl) (Nat.pow_le_pow_right (by decide) shift)
          (Nat.two_pow_pos _)
      have below : target ≤ exponent - exponent' := Int.min_le_left _ _
      exact within_roundWithAccuracy quotient (by omega) wide _ _

theorem isFinite_of_within {x : Float} {bound : Int} (within : Within bound x.toModel.unpack) :
    x.isFinite = true := by
  change x.toModel.unpack.isFinite = true
  revert within
  cases x.toModel.unpack with
  | zero | finite => exact fun _ => rfl
  | infinity | notANumber => exact False.elim

theorem binary64_exponent_le {code : Nat} (finite : code < binary64.infinity) :
    (binary64.decode code).exponent ≤ 971 := by
  have field : code / Nat.pow 2 52 < 2047 := Nat.div_lt_of_lt_mul finite
  by_cases subnormal : code / Nat.pow 2 52 = 0
  · have decoded : binary64.decode code = ⟨code % Nat.pow 2 52, -1074⟩ := if_pos subnormal
    rw [decoded]
    change (-1074 : Int) ≤ 971
    decide
  · have decoded : binary64.decode code =
        ⟨code % Nat.pow 2 52 + Nat.pow 2 52, -1074 + (code / Nat.pow 2 52 - 1 : Nat)⟩ :=
      if_neg subnormal
    rw [decoded]
    dsimp only
    omega

theorem within_of_isFinite {x : Float} (finite : x.isFinite = true) :
    Within 971 x.toModel.unpack := by
  have code := double_isFinite_iff.mp finite
  rw [unpack_double, BinaryFormat.number, if_pos code]
  split
  next => exact binary64_exponent_le code
  next => trivial

theorem isFinite_neg {x : Float} (finite : x.isFinite = true) : (-x).isFinite = true := by
  have within := within_of_isFinite finite
  have negated : Within 971 (UnpackedFloat.neg x.toModel.unpack) := by
    revert within
    cases x.toModel.unpack <;> exact id
  exact isFinite_unpack_pack negated (by decide)

instance (low high : Int) (x : UnpackedFloat) : Decidable (Full .binary64 low high x) :=
  match x with
  | .finite .positive mantissa exponent _ =>
      inferInstanceAs (Decidable (mantissa.log2 + 1 = Format.binary64.mantissaBits ∧
        low ≤ exponent ∧ exponent ≤ high))
  | .finite .negative _ _ _ => inferInstanceAs (Decidable False)
  | .zero _ => inferInstanceAs (Decidable False)
  | .infinity _ => inferInstanceAs (Decidable False)
  | .notANumber => inferInstanceAs (Decidable False)

/-- A power of ten is rounded from a number that has more digits than a double. -/
theorem full_ofScientific {exponent : Nat} (small : exponent < 308) :
    Full .binary64 (-52) 971 (UnpackedFloat.ofScientific .binary64 1 exponent) := by
  let mantissa := (1 <<< 53) * 10 ^ exponent
  have positive : mantissa ≠ 0 := Nat.mul_ne_zero (by decide) (Nat.pow_pos (by decide)).ne'
  have low : Format.binary64.mantissaBits ≤ mantissa.log2 := by
    refine (Nat.le_log2 positive).mpr ?_
    exact Nat.le_mul_of_pos_right _ (Nat.pow_pos (by decide))
  have high : mantissa.log2 < 215 * 5 := by
    refine (Nat.log2_lt positive).mpr ?_
    have most : exponent ≤ 100 * 3 + 7 := Nat.le_of_lt_succ small
    have power : 10 ^ exponent ≤ (10 ^ 100) ^ 3 * 10 ^ 7 := calc
      10 ^ exponent ≤ 10 ^ (100 * 3 + 7) := pow_le_pow_right₀ (by decide) most
      _ = (10 ^ 100) ^ 3 * 10 ^ 7 := by rw [pow_add, pow_mul]
    calc
      mantissa ≤ (1 <<< 53) * ((10 ^ 100) ^ 3 * 10 ^ 7) := Nat.mul_le_mul_left _ power
      _ < (2 ^ 215) ^ 5 := by decide
      _ = 2 ^ (215 * 5) := (pow_mul 2 215 5).symm
  have full : Full .binary64 _ _ (roundWithAccuracy .binary64 .positive mantissa (-53) .exact) :=
    full_roundWithAccuracy (Nat.le_succ_of_le low) (by decide) _
  have bits : (Format.binary64.mantissaBits : Int) = 53 := rfl
  have range : (2 : Int) ^ Format.binary64.exponentBits = 2048 := rfl
  rw [UnpackedFloat.ofScientific, dif_neg (by decide), range, if_neg (by omega), if_neg (by omega),
    if_pos (Int.natCast_nonneg exponent)]
  exact full.mono (by omega) (by omega)

theorem full_last {exponent : Nat} (last : exponent = 308) :
    Full .binary64 971 971 (Float.ofScientific 1 false exponent).toModel.unpack := by
  have power : ∀ exponent < 309, exponent = 308 →
      Full .binary64 971 971 (Float.ofScientific 1 false exponent).toModel.unpack := by
    decide +kernel
  exact power exponent (by omega) last

theorem full_power {exponent : Nat} (small : exponent ≤ 308) :
    Full .binary64 (-52) 971 (Float.ofScientific 1 false exponent).toModel.unpack := by
  -- Small powers are exact and come from a table, and the last one is almost too large.
  rcases Nat.lt_or_ge exponent 23 with least | above
  · have powers : ∀ exponent < 23,
        Full .binary64 (-52) 971 (Float.ofScientific 1 false exponent).toModel.unpack := by
      decide +kernel
    exact powers exponent least
  · rcases Nat.lt_or_eq_of_le small with below | last
    · have full := full_ofScientific below
      rw [Float.ofScientific, dif_neg (by omega)]
      change Full .binary64 (-52) 971 (UnpackedFloat.unpack .binary64
        (UnpackedFloat.pack .binary64 (UnpackedFloat.ofScientific .binary64 1 exponent)))
      rwa [unpack_pack_full full (by decide) (by decide)]
    · exact (full_last last).mono (by decide) (by decide)

theorem Full.within {low high : Int} {x : UnpackedFloat} (full : Full .binary64 low high x) :
    Within high x := by
  match x, full with
  | .finite .positive _ _ _, ⟨_, _, most⟩ => exact most

/-- A product of finite numbers is finite unless it is infinite. -/
theorem isFinite_mul_of_not_isInf {x y : Float} {first second : Int}
    (left : Within first x.toModel.unpack) (right : Within second y.toModel.unpack)
    (bounded : (x * y).isInf = false) : (x * y).isFinite = true := by
  have number : (UnpackedFloat.mul .binary64 x.toModel.unpack y.toModel.unpack).isNaN = false := by
    revert left right
    cases x.toModel.unpack with
    | zero => cases y.toModel.unpack <;> first | exact fun _ _ => rfl | exact fun _ => False.elim
    | finite =>
        cases y.toModel.unpack with
        | finite =>
            intro _ _
            rw [isNaN_eq_isNone_sign?, UnpackedFloat.mul, sign?_roundWithAccuracy]
            rfl
        | zero => exact fun _ _ => rfl
        | _ => exact fun _ => False.elim
    | _ => exact False.elim
  rw [← isNaN_unpack_pack] at number
  change (x * y).toModel.unpack.isNaN = false at number
  change (x * y).toModel.unpack.isInf = false at bounded
  change (x * y).toModel.unpack.isFinite = true
  revert number bounded
  cases (x * y).toModel.unpack with
  | zero | finite => exact fun _ _ => rfl
  | infinity => exact fun _ bounded => nomatch bounded
  | notANumber => exact fun number _ => nomatch number

theorem within_div_last {x : Float} {exponent : Nat} (within : Within 232 x.toModel.unpack)
    (last : exponent = 308) :
    Within 232 (x / Float.ofScientific 1 false exponent).toModel.unpack := by
  have quotient : Within 232 _ := within_div within (full_last last) (by decide) (by decide)
    fun unpacked => (digits_of_unpack unpacked).1
  exact within_unpack_pack quotient (by decide) (by decide)

namespace Numeral

theorem isFinite_scale? {x y : Float} {exponent : Int} (within : Within 232 x.toModel.unpack)
    (scaled : scale? x exponent = some y) : y.isFinite = true := by
  fun_induction scale? x exponent with
  | case1 x exponent small power below =>
      cases scaled
      have quotient : Within 600 _ := within_div within (full_power small) (by decide) (by decide)
        fun unpacked => (digits_of_unpack unpacked).1
      have packed : Within 600 (x / power).toModel.unpack :=
        within_unpack_pack quotient (by decide) (by decide)
      exact isFinite_of_within packed
  | case2 => cases scaled
  | case3 x exponent small power _ bounded =>
      cases scaled
      exact isFinite_mul_of_not_isInf within (full_power small).within
        (Bool.eq_false_iff.mpr bounded)
  | case4 =>
      cases scaled
      exact isFinite_of_within within
  | case5 => cases scaled
  | case6 x exponent far nonzero below ih => exact ih (within_div_last within rfl) scaled

theorem isFinite_quick? {numeral : Numeral} {x : Float} (read : numeral.quick? = some x) :
    x.isFinite = true := by
  rw [quick?] at read
  dsimp only at read
  obtain ⟨magnitude, found, rfl⟩ := Option.map_eq_some_iff.mp read
  have finite : magnitude.isFinite = true := by
    split at found
    next =>
      split at found
      next => cases found
      next =>
        cases found
        decide
    next => exact isFinite_scale? (within_double _) found
  split
  next => exact isFinite_neg finite
  next => exact finite

end Numeral

end VectorSearch.Number
