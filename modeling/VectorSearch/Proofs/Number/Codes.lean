import VectorSearch.Number.Binary
import VectorSearch.Proofs.Number.Rounding

namespace VectorSearch.Number

open Float.Model UnpackedFloat

namespace BinaryFormat

/-- The number of a sign and a magnitude code. -/
def number (format : BinaryFormat) (sign : Sign) (code : Nat) : UnpackedFloat :=
  if code < format.infinity then
    if positive : 0 < (format.decode code).significand then
      .finite sign (format.decode code).significand (format.decode code).exponent positive
    else .zero sign
  else if code = format.infinity then .infinity sign
  else .notANumber

end BinaryFormat

theorem toNat_unpackMantissa {spec : Format} (bits : BitVec spec.numBits) :
    (unpackMantissa bits).toNat = bits.toNat % 2 ^ spec.mantissaBitsWithoutImplicit := by
  rw [unpackMantissa_def, BitVec.extractLsb'_toNat, Nat.shiftRight_zero]

theorem toNat_unpackExponent {spec : Format} (bits : BitVec spec.numBits) :
    (unpackExponent bits).toNat =
      bits.toNat / 2 ^ spec.mantissaBitsWithoutImplicit % 2 ^ spec.exponentBits := by
  rw [unpackExponent_def, BitVec.extractLsb'_toNat, Nat.shiftRight_eq_div_pow]

/-- A format of codes that lays out its bits as a format of packed numbers does. -/
structure Agrees (format : BinaryFormat) (spec : Format) : Prop where
  precision : format.precision = spec.mantissaBitsWithoutImplicit + 1
  leastExponent : format.leastExponent = spec.minExponent
  infinity : format.infinity =
    (2 ^ spec.exponentBits - 1) * 2 ^ spec.mantissaBitsWithoutImplicit

theorem agrees32 : Agrees binary32 .binary32 := ⟨rfl, by decide, by decide⟩

theorem agrees64 : Agrees binary64 .binary64 := ⟨rfl, by decide, by decide⟩

theorem Agrees.unpack_eq_number {format : BinaryFormat} {spec : Format}
    (agrees : Agrees format spec) (bits : BitVec spec.numBits) :
    UnpackedFloat.unpack spec bits = format.number (Sign.ofBitVec (unpackSign bits))
      (bits.toNat % 2 ^ (spec.mantissaBitsWithoutImplicit + spec.exponentBits)) := by
  have field : bits.toNat % 2 ^ (spec.mantissaBitsWithoutImplicit + spec.exponentBits) /
      2 ^ spec.mantissaBitsWithoutImplicit = (unpackExponent bits).toNat := by
    rw [toNat_unpackExponent, Nat.pow_add, Nat.mod_mul_right_div_self]
  have fraction : bits.toNat % 2 ^ (spec.mantissaBitsWithoutImplicit + spec.exponentBits) %
      2 ^ spec.mantissaBitsWithoutImplicit = (unpackMantissa bits).toNat := by
    rw [toNat_unpackMantissa, Nat.pow_add, Nat.mod_mul_right_mod]
  generalize bits.toNat % 2 ^ (spec.mantissaBitsWithoutImplicit + spec.exponentBits) = code
    at field fraction ⊢
  have code_eq := Nat.div_add_mod code (2 ^ spec.mantissaBitsWithoutImplicit)
  rw [field, fraction] at code_eq
  have fieldSmall := (unpackExponent bits).isLt
  have fractionSmall := (unpackMantissa bits).isLt
  have full : unpackExponent bits = -1#_ ↔
      (unpackExponent bits).toNat = 2 ^ spec.exponentBits - 1 := by
    rw [← BitVec.toNat_inj, BitVec.neg_one_eq_allOnes, BitVec.toNat_allOnes]
  have empty : unpackExponent bits = 0#_ ↔ (unpackExponent bits).toNat = 0 := by
    rw [← BitVec.toNat_inj, BitVec.toNat_ofNat, Nat.zero_mod]
  have none : unpackMantissa bits = 0#_ ↔ (unpackMantissa bits).toNat = 0 := by
    rw [← BitVec.toNat_inj, BitVec.toNat_ofNat, Nat.zero_mod]
  rw [BinaryFormat.number, BinaryFormat.decode, agrees.infinity, agrees.precision,
    agrees.leastExponent, minExponent_eq]
  simp only [Nat.add_sub_cancel, Nat.pow_eq, field, fraction]
  rw [UnpackedFloat.unpack]
  by_cases isFull : unpackExponent bits = -1#_
  · rw [full.mp isFull, Nat.mul_comm] at code_eq
    have beyond : ¬ code < (2 ^ spec.exponentBits - 1) * 2 ^ spec.mantissaBitsWithoutImplicit := by
      omega
    have infinite : code = (2 ^ spec.exponentBits - 1) * 2 ^ spec.mantissaBitsWithoutImplicit ↔
        unpackMantissa bits = 0#_ := by
      rw [none]
      omega
    simp only [if_pos isFull, if_neg beyond, infinite]
  · have below : (unpackExponent bits).toNat + 1 ≤ 2 ^ spec.exponentBits - 1 := by
      have := mt full.mpr isFull
      omega
    have finite : code < (2 ^ spec.exponentBits - 1) * 2 ^ spec.mantissaBitsWithoutImplicit := by
      refine Nat.lt_of_lt_of_le ?_ (Nat.mul_le_mul_right _ below)
      rw [Nat.add_mul, Nat.mul_comm, Nat.one_mul]
      omega
    rw [if_neg isFull, if_pos finite]
    by_cases isEmpty : unpackExponent bits = 0#_
    · rw [if_pos isEmpty]
      simp only [empty.mp isEmpty, if_true]
      by_cases zero : unpackMantissa bits = 0#_
      · simp [zero]
      · have positive : 0 < (unpackMantissa bits).toNat := by
          have := mt none.mpr zero
          omega
        rw [dif_neg zero, dif_pos positive]
        congr 1
        omega
    · rw [if_neg isEmpty]
      have nonzero := mt empty.mpr isEmpty
      simp only [if_neg nonzero, toNat_append_one]
      rw [dif_pos (Nat.add_pos_right _ (Nat.two_pow_pos _))]
      congr 1 <;> omega

theorem BinaryFormat.isFinite_number {format : BinaryFormat} {sign : Sign} {code : Nat} :
    (format.number sign code).isFinite = true ↔ code < format.infinity := by
  rw [number]
  split
  next finite =>
    split <;> exact iff_of_true rfl finite
  next beyond =>
    split <;> exact iff_of_false nofun beyond

/-- The sign that a sign bit stands for. -/
def bitSign (negative : Bool) : Sign :=
  if negative then .negative else .positive

theorem ofBitVec_unpackSign {spec : Format} (bits : BitVec spec.numBits) :
    Sign.ofBitVec (unpackSign bits) =
      bitSign (decide (2 ^ (spec.mantissaBitsWithoutImplicit + spec.exponentBits) ≤ bits.toNat)) := by
  have value : (unpackSign bits).toNat =
      bits.toNat / 2 ^ (spec.mantissaBitsWithoutImplicit + spec.exponentBits) % 2 := by
    rw [unpackSign_def, BitVec.extractLsb'_toNat, Nat.shiftRight_eq_div_pow, Nat.pow_one]
  have size : bits.toNat <
      2 * 2 ^ (spec.mantissaBitsWithoutImplicit + spec.exponentBits) := by
    have width : spec.numBits =
        1 + (spec.mantissaBitsWithoutImplicit + spec.exponentBits) := by
      change 1 + spec.exponentBits + spec.mantissaBitsWithoutImplicit = _
      omega
    rw [← Nat.pow_succ', Nat.succ_eq_one_add, ← width]
    exact bits.isLt
  have clear : unpackSign bits = 0#1 ↔ (unpackSign bits).toNat = 0 := by
    rw [← BitVec.toNat_inj, BitVec.toNat_ofNat, Nat.zero_mod]
  by_cases negative : 2 ^ (spec.mantissaBitsWithoutImplicit + spec.exponentBits) ≤ bits.toNat
  · have one : bits.toNat / 2 ^ (spec.mantissaBitsWithoutImplicit + spec.exponentBits) = 1 :=
      Nat.div_eq_of_lt_le (by omega) (by omega)
    rw [one] at value
    simp [Sign.ofBitVec, bitSign, clear, value, negative]
  · rw [Nat.div_eq_of_lt (by omega)] at value
    simp [Sign.ofBitVec, bitSign, clear, value, negative]

theorem unpack_single (x : Float32) :
    x.toModel.unpack = binary32.number (bitSign (magnitude32 x).2) (magnitude32 x).1 := by
  refine (agrees32.unpack_eq_number x.toModel.toBits.toBitVec).trans ?_
  rw [ofBitVec_unpackSign]
  rfl

theorem isFinite_iff_magnitude {x : Float32} :
    x.isFinite = true ↔ (magnitude32 x).1 < binary32.infinity := by
  change x.toModel.unpack.isFinite = true ↔ _
  rw [unpack_single, BinaryFormat.isFinite_number]

theorem unpack_double (x : Float) :
    x.toModel.unpack = binary64.number (bitSign (magnitude64 x).2) (magnitude64 x).1 := by
  refine (agrees64.unpack_eq_number x.toModel.toBits.toBitVec).trans ?_
  rw [ofBitVec_unpackSign]
  rfl

theorem double_isFinite_iff {x : Float} :
    x.isFinite = true ↔ (magnitude64 x).1 < binary64.infinity := by
  change x.toModel.unpack.isFinite = true ↔ _
  rw [unpack_double, BinaryFormat.isFinite_number]

theorem unpack_ofBits (bits : UInt64) :
    (Float.ofBits bits).toModel.unpack =
      binary64.number (bitSign (decide (2 ^ 63 ≤ bits.toNat))) (bits.toNat % 2 ^ 63) := by
  have same : (Float.ofBits bits).toModel.unpack =
      UnpackedFloat.unpack .binary64 bits.toBitVec := by
    change UnpackedFloat.unpack .binary64
      (UnpackedFloat.pack .binary64 (UnpackedFloat.unpack .binary64 bits.toBitVec)) = _
    rw [pack_unpack]
    split
    next invalid =>
      have parts := of_decide_eq_true invalid
      rw [unpack_packedNaN]
      simp [UnpackedFloat.unpack, parts]
    next => rfl
  rw [same, agrees64.unpack_eq_number, ofBitVec_unpackSign]
  rfl

end VectorSearch.Number
