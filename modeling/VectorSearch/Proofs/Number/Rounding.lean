import Mathlib

namespace VectorSearch.Number

open Float.Model UnpackedFloat

/-! Rounding to a binary format.

A significand is shifted to the exponent that its digits call for, rounded there, and shifted once
more if that carries into another digit. Packing keeps what was rounded, but for a number whose
exponent does not fit: that becomes infinite. No rounding changes a sign.
-/

variable (spec : Format)

theorem log2_mul_two_pow {n : Nat} (positive : 0 < n) (count : Nat) :
    (n * 2 ^ count).log2 = n.log2 + count := by
  refine (Nat.log2_eq_iff (Nat.ne_of_gt (Nat.mul_pos positive (Nat.two_pow_pos count)))).mpr ?_
  constructor
  · rw [Nat.pow_add]
    exact Nat.mul_le_mul_right _ (Nat.log2_self_le (Nat.ne_of_gt positive))
  · rw [Nat.add_right_comm, Nat.pow_add]
    exact Nat.mul_lt_mul_of_pos_right Nat.lt_log2_self (Nat.two_pow_pos count)

theorem shiftRight_mantissa (extended : ExtendedMantissa) (count : Nat) :
    (extended >>> count).mantissa = extended.mantissa / 2 ^ count := by
  change (count.repeat ExtendedMantissa.shiftRightOne extended).mantissa = _
  induction count with
  | zero => exact (Nat.div_one _).symm
  | succ count ih =>
      change (count.repeat ExtendedMantissa.shiftRightOne extended).mantissa / 2 = _
      rw [ih, Nat.div_div_eq_div_mul, Nat.pow_succ]

theorem le_roundedMantissa (extended : ExtendedMantissa) :
    extended.mantissa ≤ extended.roundedMantissa := by
  obtain ⟨mantissa, round, sticky⟩ := extended
  cases round <;> cases sticky <;>
    simp only [ExtendedMantissa.roundedMantissa, ExtendedMantissa.accuracy,
      Accuracy.roundToNearestEven] <;> omega

theorem roundedMantissa_le (extended : ExtendedMantissa) :
    extended.roundedMantissa ≤ extended.mantissa + 1 := by
  obtain ⟨mantissa, round, sticky⟩ := extended
  cases round <;> cases sticky <;>
    simp only [ExtendedMantissa.roundedMantissa, ExtendedMantissa.accuracy,
      Accuracy.roundToNearestEven] <;> omega

/-- How many digits of a significand rounding drops. -/
def dropped (mantissa : Nat) (exponent : Int) : Nat :=
  (spec.targetExponent (totalExponent mantissa exponent) - exponent).toNat

theorem shiftToTargetExponent_eq (mantissa : Nat) (exponent : Int) (accuracy : Accuracy) :
    (shiftToTargetExponent spec mantissa exponent accuracy).1.mantissa =
        mantissa / 2 ^ dropped spec mantissa exponent ∧
      (shiftToTargetExponent spec mantissa exponent accuracy).2 =
        exponent + dropped spec mantissa exponent := by
  have given : (ExtendedMantissa.ofMantissaAndAccuracy mantissa accuracy).mantissa = mantissa := by
    unfold ExtendedMantissa.ofMantissaAndAccuracy
    split <;> rfl
  exact ⟨(shiftRight_mantissa _ _).trans (by rw [given]; rfl), rfl⟩

theorem dropped_eq (mantissa : Nat) (exponent : Int) :
    (dropped spec mantissa exponent : Int) =
      max 0 (max ((mantissa.log2 : Int) + 1 - spec.mantissaBits) (spec.minExponent - exponent)) := by
  simp only [dropped, Format.targetExponent, totalExponent]
  omega

/-- What is left of a significand has no more digits than the format. -/
theorem div_dropped_lt (mantissa : Nat) (exponent : Int) :
    mantissa / 2 ^ dropped spec mantissa exponent < 2 ^ spec.mantissaBits := by
  rw [Nat.div_lt_iff_lt_mul (Nat.two_pow_pos _), ← Nat.pow_add]
  rcases Nat.eq_zero_or_pos mantissa with rfl | positive
  · exact Nat.two_pow_pos _
  · have count := dropped_eq spec mantissa exponent
    exact (Nat.log2_lt (Nat.ne_of_gt positive)).mp (by omega)

/-- What rounding makes of a significand that is shifted to an exponent: the significand or the
next one, and a carry into another digit leaves a power of two. -/
inductive Rounds (spec : Format) (sign : Sign) (mantissa : Nat) (exponent : Int) :
    UnpackedFloat → Prop
  | zero : mantissa = 0 → Rounds spec sign mantissa exponent (.zero sign)
  | kept {rounded : Nat} (positive : 0 < rounded) : mantissa ≤ rounded → rounded ≤ mantissa + 1 →
      rounded < 2 ^ spec.mantissaBits →
      Rounds spec sign mantissa exponent (.finite sign rounded exponent positive)
  | carried : mantissa + 1 = 2 ^ spec.mantissaBits →
      Rounds spec sign mantissa exponent
        (.finite sign (2 ^ spec.mantissaBitsWithoutImplicit) (exponent + 1) (Nat.two_pow_pos _))

theorem rounds_roundWithAccuracy (sign : Sign) (mantissa : Nat) (exponent : Int)
    (accuracy : Accuracy) :
    Rounds spec sign (mantissa / 2 ^ dropped spec mantissa exponent)
      (exponent + dropped spec mantissa exponent)
      (roundWithAccuracy spec sign mantissa exponent accuracy) := by
  have least : spec.minExponent ≤ exponent + dropped spec mantissa exponent := by
    rw [dropped_eq]
    omega
  have small := div_dropped_lt spec mantissa exponent
  obtain ⟨left, shifted⟩ := shiftToTargetExponent_eq spec mantissa exponent accuracy
  rw [roundWithAccuracy]
  dsimp only
  rw [← left] at small ⊢
  rw [← shifted] at least ⊢
  generalize shiftToTargetExponent spec mantissa exponent accuracy = first at small least ⊢
  have low := le_roundedMantissa first.1
  have high := roundedMantissa_le first.1
  generalize first.1.roundedMantissa = rounded at low high ⊢
  obtain ⟨left', shifted'⟩ := shiftToTargetExponent_eq spec rounded first.2 .exact
  have again := dropped_eq spec rounded first.2
  rcases Nat.lt_or_ge rounded (2 ^ spec.mantissaBits) with fits | carries
  · have none : dropped spec rounded first.2 = 0 := by
      have digits : rounded.log2 < spec.mantissaBits := by
        rcases Nat.eq_zero_or_pos rounded with rfl | positive
        · exact Nat.lt_of_lt_of_le Nat.zero_lt_one (Nat.le_add_right 1 _)
        · exact (Nat.log2_lt (Nat.ne_of_gt positive)).mpr fits
      omega
    rw [none, Nat.pow_zero, Nat.div_one] at left'
    rw [none, Int.natCast_zero, Int.add_zero] at shifted'
    simp only [left', shifted']
    split
    next zero => exact .zero (by omega)
    next nonzero => exact .kept _ low high fits
  · have power : rounded = 2 ^ spec.mantissaBits := by omega
    have one : dropped spec rounded first.2 = 1 := by
      rw [power, Nat.log2_two_pow, ← power] at again
      omega
    have half : rounded / 2 = 2 ^ spec.mantissaBitsWithoutImplicit := by
      rw [power, Format.mantissaBits, Nat.pow_add]
      exact Nat.mul_div_cancel_left _ Nat.two_pos
    rw [one, Nat.pow_one, half] at left'
    rw [one] at shifted'
    simp only [left', shifted', Nat.ne_of_gt (Nat.two_pow_pos _), dite_false]
    exact .carried (by omega)

variable {spec}

/-- Zero, or a finite number whose least bit counts for no more than a power of two. -/
def Within (bound : Int) : UnpackedFloat → Prop
  | .zero _ => True
  | .finite _ _ exponent _ => exponent ≤ bound
  | _ => False

instance (bound : Int) (x : UnpackedFloat) : Decidable (Within bound x) :=
  match x with
  | .zero _ => inferInstanceAs (Decidable True)
  | .finite _ _ exponent _ => inferInstanceAs (Decidable (exponent ≤ bound))
  | .infinity _ => inferInstanceAs (Decidable False)
  | .notANumber => inferInstanceAs (Decidable False)

/-- A positive number with all digits of a format, and an exponent between two bounds. -/
def Full (spec : Format) (low high : Int) : UnpackedFloat → Prop
  | .finite .positive mantissa exponent _ =>
      mantissa.log2 + 1 = spec.mantissaBits ∧ low ≤ exponent ∧ exponent ≤ high
  | _ => False

theorem Full.mono {low high low' high' : Int} {x : UnpackedFloat} (full : Full spec low high x)
    (below : low' ≤ low) (above : high ≤ high') : Full spec low' high' x := by
  match x, full with
  | .finite .positive _ _ _, ⟨digits, least, most⟩ =>
      exact ⟨digits, Int.le_trans below least, Int.le_trans most above⟩

/-- A number that has the digits and does not lie too low keeps all digits of the format. -/
theorem full_roundWithAccuracy {mantissa : Nat} {exponent : Int}
    (digits : spec.mantissaBits ≤ mantissa.log2 + 1) (above : spec.minExponent ≤ exponent)
    (accuracy : Accuracy) :
    Full spec (exponent + mantissa.log2 + 1 - spec.mantissaBits)
      (exponent + mantissa.log2 + 2 - spec.mantissaBits)
      (roundWithAccuracy spec .positive mantissa exponent accuracy) := by
  have width : spec.mantissaBits = 1 + spec.mantissaBitsWithoutImplicit := rfl
  have count : dropped spec mantissa exponent = mantissa.log2 + 1 - spec.mantissaBits := by
    have := dropped_eq spec mantissa exponent
    omega
  have rounds := rounds_roundWithAccuracy spec .positive mantissa exponent accuracy
  rw [count] at rounds
  have least : 2 ^ spec.mantissaBitsWithoutImplicit ≤
      mantissa / 2 ^ (mantissa.log2 + 1 - spec.mantissaBits) := by
    rw [Nat.le_div_iff_mul_le (Nat.two_pow_pos _), ← Nat.pow_add]
    have nonzero : mantissa ≠ 0 := by
      rintro rfl
      have := spec.hm
      simp at digits
      omega
    refine Nat.le_trans (Nat.pow_le_pow_right Nat.two_pos ?_) (Nat.log2_self_le nonzero)
    omega
  generalize roundWithAccuracy spec .positive mantissa exponent accuracy = result at rounds ⊢
  cases rounds with
  | zero none =>
      have := Nat.two_pow_pos spec.mantissaBitsWithoutImplicit
      omega
  | kept positive low high fits =>
      refine ⟨?_, by omega, by omega⟩
      rw [(Nat.log2_eq_iff (Nat.ne_of_gt positive)).mpr
        ⟨Nat.le_trans least low, by rwa [Nat.add_comm, ← width]⟩, width, Nat.add_comm]
  | carried =>
      refine ⟨?_, by omega, by omega⟩
      rw [Nat.log2_two_pow, width, Nat.add_comm]

/-- The sign of a number. -/
def sign? : UnpackedFloat → Option Sign
  | .infinity sign => some sign
  | .zero sign => some sign
  | .finite sign _ _ _ => some sign
  | .notANumber => none

theorem isNaN_eq_isNone_sign? (x : UnpackedFloat) : x.isNaN = (sign? x).isNone := by
  cases x <;> rfl

theorem sign?_roundWithAccuracy (sign : Sign) (mantissa : Nat) (exponent : Int)
    (accuracy : Accuracy) :
    sign? (roundWithAccuracy spec sign mantissa exponent accuracy) = some sign := by
  rw [roundWithAccuracy]
  dsimp only
  split <;> rfl

theorem unpack_packedInfinity (sign : Sign) :
    unpack spec (packedInfinity spec sign) = .infinity sign := by
  simp [UnpackedFloat.unpack, packedInfinity]

theorem unpack_packComponents {biased : BitVec spec.exponentBits} (short : biased ≠ -1#_)
    (sign : Sign) (fraction : BitVec spec.mantissaBitsWithoutImplicit) :
    (unpack spec (packComponents spec sign biased fraction)).isFinite = true ∧
      sign? (unpack spec (packComponents spec sign biased fraction)) = some sign := by
  simp only [UnpackedFloat.unpack, unpackExponent_packComponents, unpackMantissa_packComponents,
    unpackSign_packComponents, Sign.ofBitVec_toBitVec, if_neg short]
  split
  next => split <;> exact ⟨rfl, rfl⟩
  next => exact ⟨rfl, rfl⟩

/-- The exponent from which on a number is infinite. -/
def overflowExponent (spec : Format) : Int :=
  (2 ^ spec.exponentBits : Nat) - 1 - spec.exponentBias - spec.mantissaBitsWithoutImplicit

theorem unpack_pack_of_overflow {sign : Sign} {mantissa : Nat} {exponent : Int}
    {positive : 0 < mantissa} (high : overflowExponent spec ≤ exponent) :
    unpack spec (pack spec (.finite sign mantissa exponent positive)) = .infinity sign := by
  rw [UnpackedFloat.pack]
  rw [if_pos, unpack_packedInfinity]
  rw [overflowExponent] at high
  omega

theorem unpack_pack_of_full {low high : Int} {x : UnpackedFloat} (full : Full spec low high x)
    (large : overflowExponent spec ≤ low) : unpack spec (pack spec x) = .infinity .positive := by
  match x, full with
  | .finite .positive _ _ _, ⟨_, least, _⟩ =>
      exact unpack_pack_of_overflow (Int.le_trans large least)

theorem ofNat_ne_neg_one {width n : Nat} (small : n + 1 < 2 ^ width) :
    BitVec.ofNat width n ≠ -1#_ := by
  intro same
  have value := congrArg BitVec.toNat same
  rw [BitVec.toNat_ofNat, Nat.mod_eq_of_lt (by omega), BitVec.neg_one_eq_allOnes,
    BitVec.toNat_allOnes] at value
  omega

theorem unpack_pack_of_lt {sign : Sign} {mantissa : Nat} {exponent : Int}
    {positive : 0 < mantissa} (low : exponent < overflowExponent spec) :
    (unpack spec (pack spec (.finite sign mantissa exponent positive))).isFinite = true ∧
      sign? (unpack spec (pack spec (.finite sign mantissa exponent positive))) = some sign := by
  have room : 1 < 2 ^ spec.exponentBits := Nat.one_lt_two_pow (Nat.ne_of_gt spec.he)
  have small : (exponent + spec.exponentBias + spec.mantissaBitsWithoutImplicit).toNat + 1 <
      2 ^ spec.exponentBits := by
    rw [overflowExponent] at low
    omega
  rw [UnpackedFloat.pack]
  rw [if_neg (Nat.not_le.mpr small)]
  split
  next => exact unpack_packComponents (ofNat_ne_neg_one small) _ _
  next =>
    have zero : (0#_ : BitVec spec.exponentBits) ≠ -1#_ := ofNat_ne_neg_one room
    exact unpack_packComponents zero _ _

theorem sign?_unpack_pack (x : UnpackedFloat) : sign? (unpack spec (pack spec x)) = sign? x := by
  cases x with
  | notANumber => exact congrArg sign? unpack_packedNaN
  | infinity sign => exact congrArg sign? (unpack_packedInfinity sign)
  | zero sign => exact congrArg sign? unpack_packedZero
  | finite sign mantissa exponent positive =>
      rcases Int.lt_or_le exponent (overflowExponent spec) with low | high
      · exact (unpack_pack_of_lt low).2
      · rw [unpack_pack_of_overflow high]
        rfl

theorem isNaN_unpack_pack (x : UnpackedFloat) : (unpack spec (pack spec x)).isNaN = x.isNaN := by
  rw [isNaN_eq_isNone_sign?, isNaN_eq_isNone_sign?, sign?_unpack_pack]

theorem isFinite_unpack_pack {bound : Int} {x : UnpackedFloat} (within : Within bound x)
    (small : bound < overflowExponent spec) :
    (unpack spec (pack spec x)).isFinite = true := by
  match x, within with
  | .zero sign, _ => exact congrArg UnpackedFloat.isFinite unpack_packedZero
  | .finite _ _ _ _, within => exact (unpack_pack_of_lt (Int.lt_of_le_of_lt within small)).1

theorem minExponent_eq :
    spec.minExponent = 1 - (spec.exponentBias : Int) - spec.mantissaBitsWithoutImplicit := by
  have one : 1 ≤ 2 ^ (spec.exponentBits - 1) := Nat.one_le_two_pow
  rw [Format.minExponent, Format.exponentBias, Format.mantissaBits, Nat.cast_sub one]
  push_cast
  omega

theorem toNat_append_one {width : Nat} (fraction : BitVec width) :
    (1#1 ++ fraction).toNat = 2 ^ width + fraction.toNat := by
  rw [BitVec.toNat_append, ← Nat.shiftLeft_add_eq_or_of_lt fraction.isLt, Nat.shiftLeft_eq]
  simp

/-- A number with all digits is packed without loss if its exponent fits. -/
theorem unpack_pack_full {low high : Int} {x : UnpackedFloat} (full : Full spec low high x)
    (above : spec.minExponent ≤ low) (small : high < overflowExponent spec) :
    unpack spec (pack spec x) = x := by
  match x, full with
  | .finite .positive mantissa exponent positive, ⟨digits, least, most⟩ =>
      have width : spec.mantissaBits = 1 + spec.mantissaBitsWithoutImplicit := rfl
      rw [UnpackedFloat.pack]
      generalize same : (exponent + spec.exponentBias +
        spec.mantissaBitsWithoutImplicit).toNat = biased
      have bias : (biased : Int) =
          exponent + spec.exponentBias + spec.mantissaBitsWithoutImplicit ∧ biased ≠ 0 ∧
          biased + 1 < 2 ^ spec.exponentBits := by
        rw [overflowExponent] at small
        rw [minExponent_eq] at above
        omega
      have short := ofNat_ne_neg_one bias.2.2
      have field : (BitVec.ofNat spec.exponentBits biased).toNat = biased := by
        rw [BitVec.toNat_ofNat, Nat.mod_eq_of_lt (by omega)]
      have nonzero : BitVec.ofNat spec.exponentBits biased ≠ 0#_ := by
        intro zero
        have value := congrArg BitVec.toNat zero
        rw [field] at value
        exact bias.2.1 (by simpa using value)
      have leading : 2 ^ spec.mantissaBitsWithoutImplicit ≤ mantissa ∧
          mantissa < 2 ^ spec.mantissaBitsWithoutImplicit * 2 := by
        have := (Nat.log2_eq_iff (Nat.ne_of_gt positive)).mp
          (by omega : mantissa.log2 = spec.mantissaBitsWithoutImplicit)
        rwa [Nat.pow_succ] at this
      have significand :
          (1#1 ++ BitVec.ofNat spec.mantissaBitsWithoutImplicit mantissa).toNat = mantissa := by
        rw [toNat_append_one, BitVec.toNat_ofNat, Nat.mod_eq_sub_mod leading.1,
          Nat.mod_eq_of_lt (by omega)]
        omega
      rw [if_neg (by omega), if_pos digits]
      simp only [UnpackedFloat.unpack, unpackExponent_packComponents,
        unpackMantissa_packComponents, unpackSign_packComponents, Sign.ofBitVec_toBitVec]
      rw [if_neg short, if_neg nonzero]
      simp only [significand, field]
      congr 1
      omega

/-- What is unpacked has no more digits than the format, and all of them but at the least
exponent. -/
theorem digits_of_unpack {bits : BitVec spec.numBits} {sign : Sign} {mantissa : Nat}
    {exponent : Int} {positive : 0 < mantissa}
    (unpacked : unpack spec bits = .finite sign mantissa exponent positive) :
    mantissa < 2 ^ spec.mantissaBits ∧ spec.minExponent ≤ exponent ∧
      (spec.mantissaBits = mantissa.log2 + 1 ∨ exponent = spec.minExponent) := by
  have width : spec.mantissaBits = spec.mantissaBitsWithoutImplicit + 1 := Nat.add_comm _ _
  have double : 2 ^ spec.mantissaBits = 2 ^ spec.mantissaBitsWithoutImplicit * 2 := by
    rw [width, Nat.pow_succ]
  rw [minExponent_eq]
  rw [UnpackedFloat.unpack] at unpacked
  split at unpacked
  next => split at unpacked <;> cases unpacked
  next =>
    split at unpacked
    next zero =>
      split at unpacked
      next => cases unpacked
      next =>
        cases unpacked
        have small := (unpackMantissa bits).isLt
        rw [zero]
        simp only [BitVec.toNat_ofNat, Nat.zero_mod, Int.natCast_zero]
        omega
    next nonzero =>
      cases unpacked
      have small := (unpackMantissa bits).isLt
      have field : (unpackExponent bits).toNat ≠ 0 := by
        intro zero
        exact nonzero (BitVec.eq_of_toNat_eq (by simpa using zero))
      rw [toNat_append_one]
      refine ⟨by omega, by omega, .inl ?_⟩
      rw [(Nat.log2_eq_iff (by omega)).mpr ⟨Nat.le_add_right _ _, by omega⟩, width]

end VectorSearch.Number
