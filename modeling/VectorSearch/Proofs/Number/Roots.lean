import VectorSearch.Proofs.Number.Overflow
import VectorSearch.Proofs.Number.Widening

namespace VectorSearch.Number

open Float.Model UnpackedFloat

/-! Quotients by the roots of two singles.

The root of a single above zero is infinite with it, or else a double with all its digits and an
exponent so moderate that a product of two is neither zero nor infinite.
-/

variable {spec : Format}

theorem full_mul {low high low' high' : Int} {x y : UnpackedFloat} (left : Full spec low high x)
    (right : Full spec low' high' y) (above : spec.minExponent ≤ low + low') :
    Full spec (low + low' + spec.mantissaBitsWithoutImplicit)
      (high + high' + spec.mantissaBitsWithoutImplicit + 2) (UnpackedFloat.mul spec x y) := by
  match x, y, left, right with
  | .finite .positive m d mPos, .finite .positive n e nPos, left, right =>
      obtain ⟨mDigits, dLow, dHigh⟩ := left
      obtain ⟨nDigits, eLow, eHigh⟩ := right
      have width : spec.mantissaBits = 1 + spec.mantissaBitsWithoutImplicit := rfl
      obtain ⟨least, most⟩ := log2_mul_bounds mPos nPos
      exact (full_roundWithAccuracy (by omega) (by omega) .exact).mono (by omega) (by omega)

theorem log2_sqrt {n : Nat} (positive : 0 < n) : n.sqrt.log2 = n.log2 / 2 := by
  refine (Nat.log2_eq_iff (Nat.ne_of_gt (Nat.sqrt_pos.mpr positive))).mpr ⟨?_, ?_⟩
  · rw [Nat.le_sqrt, ← Nat.pow_add]
    calc
      2 ^ (n.log2 / 2 + n.log2 / 2) ≤ 2 ^ n.log2 := Nat.pow_le_pow_right Nat.two_pos (by omega)
      _ ≤ n := Nat.log2_self_le (Nat.ne_of_gt positive)
  · rw [Nat.sqrt_lt, ← Nat.pow_add]
    calc
      n < 2 ^ (n.log2 + 1) := Nat.lt_log2_self
      _ ≤ 2 ^ (n.log2 / 2 + 1 + (n.log2 / 2 + 1)) := Nat.pow_le_pow_right Nat.two_pos (by omega)

theorem full_sqrt {low high : Int} {x : UnpackedFloat} (full : Full .binary64 low high x)
    (moderate : -2000 ≤ low) :
    Full .binary64 (low / 2 - 26) (high / 2 - 25) (UnpackedFloat.sqrt .binary64 x) := by
  match x, full with
  | .finite .positive mantissa exponent positive, ⟨digits, least, most⟩ =>
      have width : mantissa.log2 = 52 := Nat.succ.inj digits
      have target : min (exponent.ediv 2) (Format.binary64.targetExponent
          ((totalExponent mantissa exponent + 1).ediv 2)) = exponent / 2 - 26 := by
        change min (exponent / 2)
          (max (((mantissa.log2 : Int) + 1 + exponent + 1) / 2 - 53) (-1074)) = _
        omega
      have root : (sqrtCore .binary64 mantissa exponent).1.log2 = 52 := by
        simp only [sqrtCore, target]
        rw [Nat.shiftLeft_eq, log2_sqrt (Nat.mul_pos positive (Nat.two_pow_pos _)),
          log2_mul_two_pow positive]
        omega
      have lowered : (sqrtCore .binary64 mantissa exponent).2.1 = exponent / 2 - 26 := by
        simp only [sqrtCore, target]
      have bits : Format.binary64.mantissaBits = 53 := rfl
      have minimum : Format.binary64.minExponent = -1074 := by decide
      change Full .binary64 _ _ (roundWithAccuracy .binary64 .positive
        (sqrtCore .binary64 mantissa exponent).1 (sqrtCore .binary64 mantissa exponent).2.1
        (sqrtCore .binary64 mantissa exponent).2.2)
      generalize sqrtCore .binary64 mantissa exponent = core at root lowered ⊢
      exact (full_roundWithAccuracy (by omega) (by omega) core.2.2).mono (by omega) (by omega)

theorem isNaN_div_full {low high : Int} {x y : UnpackedFloat} (full : Full spec low high y) :
    (UnpackedFloat.div spec x y).isNaN = x.isNaN := by
  match x, y, full with
  | .notANumber, .finite .positive _ _ _, _ => rfl
  | .infinity _, .finite .positive _ _ _, _ => rfl
  | .zero _, .finite .positive _ _ _, _ => rfl
  | .finite _ _ _ _, .finite .positive _ _ _, _ =>
      rw [isNaN_eq_isNone_sign?]
      exact congrArg Option.isNone (sign?_roundWithAccuracy _ _ _ _)

theorem isNaN_div_infinity (x : UnpackedFloat) (sign : Sign) :
    (UnpackedFloat.div spec x (.infinity sign)).isNaN = (x.isNaN || x.isInf) := by
  cases x <;> rfl

/-- The root of a single that is above zero: infinite with it, and otherwise a full number of
moderate size. -/
theorem sqrt_widen {x : Float32} (positive : NotNegative x) (nonzero : (x == 0) = false) :
    (x.isInf = true ∧ (widen x).sqrt.toModel.unpack = .infinity .positive) ∨
      (x.isInf = false ∧ Full .binary64 (-127) 27 (widen x).sqrt.toModel.unpack) := by
  have widened := widens x
  change sign? x.toModel.unpack = some .positive at positive
  change x.toModel.unpack.beq (.zero .positive) = false at nonzero
  change (x.toModel.unpack.isInf = true ∧ UnpackedFloat.unpack .binary64
      (UnpackedFloat.pack .binary64 (UnpackedFloat.sqrt .binary64 (widen x).toModel.unpack)) = _) ∨
    (x.toModel.unpack.isInf = false ∧ Full _ _ _ (UnpackedFloat.unpack .binary64
      (UnpackedFloat.pack .binary64 (UnpackedFloat.sqrt .binary64 (widen x).toModel.unpack))))
  generalize x.toModel.unpack = single at positive nonzero widened ⊢
  generalize (widen x).toModel.unpack = double at widened ⊢
  cases widened with
  | notANumber => contradiction
  | zero =>
      cases positive
      contradiction
  | infinity =>
      cases positive
      exact .inl ⟨rfl, unpack_packedInfinity _⟩
  | @finite _ significand exponent filled short low high =>
      cases positive
      have lacks : lacking significand ≤ 52 := Nat.sub_le _ _
      have digits := log2_filled filled (Nat.lt_trans short (by decide))
      have full : Full .binary64 (-201) 104 (.finite .positive (significand * 2 ^ lacking significand)
          (exponent - lacking significand) (Nat.mul_pos filled (Nat.two_pow_pos _))) :=
        ⟨congrArg Nat.succ digits, by omega, by omega⟩
      have root := full_sqrt full (by decide)
      rw [unpack_pack_full root (by decide) (by decide)]
      exact .inr ⟨rfl, root⟩

theorem mul_infinity_full {low high : Int} {x : UnpackedFloat} (full : Full spec low high x) :
    UnpackedFloat.mul spec (.infinity .positive) x = .infinity .positive ∧
      UnpackedFloat.mul spec x (.infinity .positive) = .infinity .positive := by
  match x, full with
  | .finite .positive _ _ _, _ => exact ⟨rfl, rfl⟩

theorem sqrt_mul_sqrt {x y : Float32} (xPositive : NotNegative x) (yPositive : NotNegative y)
    (xNonzero : (x == 0) = false) (yNonzero : (y == 0) = false) :
    ((x.isInf || y.isInf) = true ∧
        ((widen x).sqrt * (widen y).sqrt).toModel.unpack = .infinity .positive) ∨
      ((x.isInf || y.isInf) = false ∧
        Full .binary64 (-202) 108 ((widen x).sqrt * (widen y).sqrt).toModel.unpack) := by
  have product : ((widen x).sqrt * (widen y).sqrt).toModel.unpack =
      UnpackedFloat.unpack .binary64 (UnpackedFloat.pack .binary64 (UnpackedFloat.mul .binary64
        (widen x).sqrt.toModel.unpack (widen y).sqrt.toModel.unpack)) := rfl
  have infinite : UnpackedFloat.unpack .binary64
      (UnpackedFloat.pack .binary64 (.infinity .positive)) = .infinity .positive :=
    unpack_packedInfinity _
  rw [product]
  rcases sqrt_widen xPositive xNonzero with ⟨xInf, xRoot⟩ | ⟨xInf, xRoot⟩ <;>
    rcases sqrt_widen yPositive yNonzero with ⟨yInf, yRoot⟩ | ⟨yInf, yRoot⟩ <;>
    rw [xInf, yInf]
  · rw [xRoot, yRoot]
    exact .inl ⟨rfl, infinite⟩
  · rw [xRoot, (mul_infinity_full yRoot).1]
    exact .inl ⟨rfl, infinite⟩
  · rw [yRoot, (mul_infinity_full xRoot).2]
    exact .inl ⟨rfl, infinite⟩
  · have full := full_mul xRoot yRoot (by decide)
    rw [unpack_pack_full full (by decide) (by decide)]
    exact .inr ⟨rfl, full⟩

/-- A quotient by roots of singles above zero fails to be a number where the dividend is none, and
where the dividend and the divisor are infinite. -/
theorem isNaN_div_sqrt {dividend x y : Float32} (xPositive : NotNegative x)
    (yPositive : NotNegative y) (xNonzero : (x == 0) = false) (yNonzero : (y == 0) = false) :
    (widen dividend / ((widen x).sqrt * (widen y).sqrt)).isNaN =
      (dividend.isNaN || dividend.isInf && (x.isInf || y.isInf)) := by
  have quotient : (widen dividend / ((widen x).sqrt * (widen y).sqrt)).isNaN =
      (UnpackedFloat.div .binary64 (widen dividend).toModel.unpack
        ((widen x).sqrt * (widen y).sqrt).toModel.unpack).isNaN := isNaN_unpack_pack _
  obtain ⟨isNaN, isInf⟩ := (widens dividend).same_kind
  rw [quotient]
  rcases sqrt_mul_sqrt xPositive yPositive xNonzero yNonzero with
    ⟨infinite, divisor⟩ | ⟨finite, divisor⟩
  · rw [infinite, divisor, isNaN_div_infinity, isNaN, isInf, Bool.and_true]
    rfl
  · rw [finite, isNaN_div_full divisor, isNaN, Bool.and_false, Bool.or_false]
    rfl

end VectorSearch.Number
