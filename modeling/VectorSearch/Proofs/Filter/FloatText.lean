import VectorSearch.Filter.Wire
import VectorSearch.Proofs.Number.Codes
import VectorSearch.Proofs.Number.Literals
import VectorSearch.Proofs.Number.Order
import VectorSearch.Proofs.Number.Separation

namespace VectorSearch

open Number

namespace Number

theorem bits_of_magnitude {x y : Float} (same : magnitude64 x = magnitude64 y) :
    x.toBits = y.toBits := by
  obtain ⟨code, sign⟩ := Prod.mk.inj same
  have first := x.toBits.toNat_lt
  have second := y.toBits.toNat_lt
  rw [decide_eq_decide] at sign
  simp only [Nat.pow_eq] at code sign
  rw [← UInt64.toNat_inj]
  omega

theorem beq_zero_iff {x : Float} (finite : x.isFinite = true) :
    (x == 0) = true ↔ (magnitude64 x).1 = 0 := by
  have code := double_isFinite_iff.mp finite
  have zero : place 0 = some (toLex (0, toLex (0, 0))) := rfl
  rw [doubleBeq_iff, zero, place, unpack_double, BinaryFormat.number, if_pos code]
  split
  next positive =>
    have nonzero : (magnitude64 x).1 ≠ 0 := by
      intro none
      rw [none] at positive
      cases positive
    refine iff_of_false ?_ nonzero
    rintro ⟨p, here, there⟩
    cases there
    cases sign : bitSign (magnitude64 x).2 <;> rw [sign] at here <;> cases here
  next none =>
    refine iff_of_true ⟨_, rfl, rfl⟩ ?_
    by_contra nonzero
    exact none (binary64.decode_significand_pos nonzero)

end Number

/-- The numeral that a finite double is written as. -/
def wireNumeral (x : Float) : Numeral :=
  let (code, negative) := magnitude64 x
  let digits := binary64.digits .up code
  if code = 0 ∨ (0.001 ≤ x.abs ∧ x.abs < 10000000) then (digits.plainNumeral negative).pointed
  else (digits.scientificNumeral negative).pointed

def plainTextNumeral (x : Float) : Numeral :=
  (binary64.digits .up (magnitude64 x).1).plainNumeral (magnitude64 x).2

section Texts

variable {x : Float} (finite : x.isFinite = true)

include finite

theorem plainText_eq : plainText x = String.ofList (plainTextNumeral x).text := by
  have code := double_isFinite_iff.mp finite
  rw [plainText, plainTextNumeral, Digits.text_plainNumeral]
  dsimp only
  rw [if_neg (Nat.not_lt.mpr code.le), if_neg code.ne]

theorem floatWireText_eq : floatWireText x = (wireNumeral x).spelled 'E' := by
  have code := double_isFinite_iff.mp finite
  rw [floatWireText, wireNumeral]
  dsimp only
  rw [if_neg (Nat.not_lt.mpr code.le), if_neg code.ne]
  split
  next => exact (Digits.text_positionalNumeral _).symm
  next => exact (Digits.spelled_scientificNumeral _ _).symm

theorem isSome_exponent_iff : (wireNumeral x).exponent.isSome = true ↔
    (x == 0) = false ∧ ¬(0.001 ≤ x.abs ∧ x.abs < 10000000) := by
  rw [← Bool.not_eq_true, beq_zero_iff finite, ← not_or, wireNumeral]
  dsimp only
  split
  next positional => exact iff_of_false Bool.false_ne_true (not_not_intro positional)
  next scientific => exact iff_of_true rfl scientific

end Texts

section Numerals

variable (x : Float)

theorem proper_wireNumeral : (wireNumeral x).Proper := by
  have proper := binary64.proper_digits .up (magnitude64 x).1
  rw [wireNumeral]
  dsimp only
  split
  next => exact (proper.plainNumeral _).pointed
  next => exact (proper.scientificNumeral _).pointed

theorem fraction_wireNumeral_ne_nil : (wireNumeral x).fraction ≠ [] := by
  rw [wireNumeral]
  dsimp only
  split <;> exact Numeral.fraction_pointed_ne_nil _

theorem negative_wireNumeral : (wireNumeral x).negative = (magnitude64 x).2 := by
  rw [wireNumeral]
  dsimp only
  split <;> rfl

theorem magnitude_wireNumeral :
    (wireNumeral x).magnitude = (binary64.digits .up (magnitude64 x).1).magnitude := by
  have proper := binary64.proper_digits .up (magnitude64 x).1
  rw [wireNumeral]
  dsimp only
  split
  next => rw [Numeral.magnitude_pointed, Digits.magnitude_plainNumeral]
  next => rw [Numeral.magnitude_pointed, Digits.magnitude_scientificNumeral proper]

/-- One digit other than zero stands before the point of a number with an exponent. -/
theorem whole_wireNumeral (scientific : (wireNumeral x).exponent.isSome = true) :
    ∃ c, (wireNumeral x).whole = [c] ∧ c ≠ '0' := by
  have proper := binary64.proper_digits .up (magnitude64 x).1
  rw [wireNumeral] at scientific ⊢
  dsimp only at scientific ⊢
  split at scientific
  next => cases scientific
  next outside =>
    rw [if_neg outside]
    rcases proper.whole with zero | ⟨c, rest, spelled, nonzero, -⟩
    · have none : (binary64.digits .up (magnitude64 x).1).magnitude = 0 := by
        rw [Digits.magnitude, scaledValue, zero]
        exact zero_mul _
      have nonzero : (magnitude64 x).1 ≠ 0 := fun code => outside (.inl code)
      rw [BinaryFormat.digits, if_neg nonzero] at none
      exact absurd none (binary64.magnitude_shortest_pos .up nonzero).ne'
    · exact ⟨c, congrArg (List.take 1) spelled, nonzero⟩

end Numerals

/-- The text of a finite double keeps all of it. -/
theorem toBits_eq_of_floatWireText_eq {x y : Float} (finite : x.isFinite = true)
    (finite' : y.isFinite = true) (same : floatWireText x = floatWireText y) :
    x.toBits = y.toBits := by
  rw [floatWireText_eq finite, floatWireText_eq finite'] at same
  have numerals := Numeral.spelled_inj (proper_wireNumeral x) (proper_wireNumeral y) same
  have signs := congrArg Numeral.negative numerals
  have magnitudes := congrArg Numeral.magnitude numerals
  rw [negative_wireNumeral, negative_wireNumeral] at signs
  rw [magnitude_wireNumeral, magnitude_wireNumeral] at magnitudes
  have codes := binary64.eq_of_magnitude_eq (by decide) .up magnitudes
  exact bits_of_magnitude (Prod.ext codes signs)

theorem point_mem_floatWireText {x : Float} (finite : x.isFinite = true) :
    '.' ∈ floatWireText x := by
  rw [floatWireText_eq finite, Numeral.spelled]
  simp [fraction_wireNumeral_ne_nil x]

theorem point_notMem_wholeText (n : Int) : '.' ∉ wholeText n := by
  have whole : (Numeral.ofInt n).isWhole = true := rfl
  have spelled : (Numeral.ofInt n).text = wholeText n := Numeral.text_of_isWhole whole
  exact spelled ▸ Numeral.point_notMem_text (Numeral.properWhole_toDigits _) whole

/-- The text of a finite double is a numeral with a point, and an exponent behind one digit other than
zero exactly if the double is not zero and outside of [0.001, 10000000). It denotes the number that the
plain text denotes, sign of zero included. No whole number, no boolean and no other finite double has
the text. -/
theorem Scalar.float_wireText {x : Float} (finite : x.isFinite = true) :
    (∃ wire plain : Numeral, (Scalar.float x).wireText = String.ofList (wire.spelled 'E') ∧
      wire.Proper ∧ wire.fraction ≠ [] ∧
      (wire.exponent.isSome = true ↔
        (x == 0) = false ∧ ¬(0.001 ≤ x.abs ∧ x.abs < 10000000)) ∧
      (wire.exponent.isSome = true → ∃ c, wire.whole = [c] ∧ c ≠ '0') ∧
      plainText x = String.ofList plain.text ∧ plain.Proper ∧ plain.exponent = none ∧
      wire.negative = plain.negative ∧ wire.magnitude = plain.magnitude) ∧
    (∀ n, (Scalar.float x).wireText ≠ (Scalar.integer n).wireText) ∧
    (∀ b, (Scalar.float x).wireText ≠ (Scalar.boolean b).wireText) ∧
    ∀ y : Float, y.isFinite = true → (Scalar.float x).wireText = (Scalar.float y).wireText →
      x.toBits = y.toBits := by
  have proper := binary64.proper_digits .up (magnitude64 x).1
  refine ⟨⟨wireNumeral x, plainTextNumeral x, ?_, proper_wireNumeral x,
    fraction_wireNumeral_ne_nil x, isSome_exponent_iff finite, whole_wireNumeral x,
    plainText_eq finite, proper.plainNumeral _, rfl, negative_wireNumeral x, ?_⟩, ?_, ?_, ?_⟩
  · exact congrArg String.ofList (floatWireText_eq finite)
  · rw [magnitude_wireNumeral, plainTextNumeral, Digits.magnitude_plainNumeral]
  · intro n same
    have texts : floatWireText x = wholeText n := String.ofList_injective same
    exact point_notMem_wholeText n (texts ▸ point_mem_floatWireText finite)
  · intro b same
    have texts : floatWireText x = (Scalar.boolean b).wireChars := String.ofList_injective same
    have point := texts ▸ point_mem_floatWireText finite
    cases b <;> simp [Scalar.wireChars] at point
  · intro y finite' same
    exact toBits_eq_of_floatWireText_eq finite finite' (String.ofList_injective same)

theorem Scalar.float_wireText_ten_million :
    (10000000 : Float).isFinite = true ∧
      (∃ wire plain : Numeral, "1.0E7" = String.ofList (wire.spelled 'E') ∧
        "10000000" = String.ofList plain.text ∧ wire.exponent.isSome = true ∧
        wire.magnitude = plain.magnitude) ∧
      "1.0E7" ≠ (Scalar.integer 10000000).wireText ∧
      ∀ y : Float, y.isFinite = true → "1.0E7" = (Scalar.float y).wireText →
        (10000000 : Float).toBits = y.toBits := by
  have finite : (10000000 : Float).isFinite = true := by decide +kernel
  have text : (Scalar.float 10000000).wireText = "1.0E7" := by decide +kernel
  have plainText : plainText 10000000 = "10000000" := by decide +kernel
  have outside : ((10000000 : Float) == 0) = false ∧
      ¬(0.001 ≤ (10000000 : Float).abs ∧ (10000000 : Float).abs < 10000000) := by
    decide +kernel
  obtain ⟨⟨wire, plain, spelled, -, -, exponent, -, plainSpelled, -, -, -, magnitude⟩, integers, -,
    floats⟩ := Scalar.float_wireText finite
  rw [text] at spelled integers floats
  rw [plainText] at plainSpelled
  exact ⟨finite, ⟨wire, plain, spelled, plainSpelled, exponent.mpr outside, magnitude⟩,
    integers 10000000, floats⟩

end VectorSearch
