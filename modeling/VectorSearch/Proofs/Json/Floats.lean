import VectorSearch.Proofs.Json.Reading
import VectorSearch.Proofs.Number.Codes
import VectorSearch.Proofs.Number.Quick

namespace VectorSearch.Json

open Number

/-! Floating-point numbers in texts.

The numeral of a finite number has a point or an exponent, so it is never read as a whole number. A
double need not be read back as the same one. A finite single is always read as some number, and one
that is not finite has no numeral.
-/

theorem read?_floatNumeral (format : BinaryFormat) (range : PositionalRange) (code : Nat)
    (negative : Bool) :
    (floatNumeral format range code negative).read? =
      (floatNumeral format range code negative).quick?.map .float := by
  have point : (floatNumeral format range code negative).isWhole = false := by
    dsimp only [floatNumeral]
    split
    next =>
      dsimp only [Numeral.isWhole, Digits.positionalNumeral]
      split
      next => rfl
      next places => simp [places]
    next => exact Bool.and_false _
  simp only [Numeral.read?, point, Bool.false_and, Bool.false_eq_true, if_false]

theorem value_floatOutline_eq_ok_iff {format : BinaryFormat} {range : PositionalRange} {code : Nat}
    {negative : Bool} {depth : Nat} {x : Float} :
    (floatOutline format range code negative).value depth = .ok (.float x) ↔
      code < format.infinity ∧ (floatNumeral format range code negative).quick? = some x := by
  rw [floatOutline]
  split
  next finite =>
    rw [Outline.value, read?_floatNumeral]
    cases (floatNumeral format range code negative).quick? <;> simp [finite]
  next infinite => simp [infinite, Outline.value]

/-- A double is read back exactly if it is finite and the reading of its own numeral, which may
differ from the nearest double, gives it. -/
theorem parse_float_eq_ok_iff {x : Float} :
    parse (Json.float x).print = .ok (.float x) ↔
      (magnitude64 x).1 < binary64.infinity ∧
        (floatNumeral binary64 doubleRange (magnitude64 x).1 (magnitude64 x).2).quick? =
          some x := by
  rw [parse, readWith_print, outlined, value_floatOutline_eq_ok_iff]

/-- The double that the text of a single is read as. -/
theorem parse_single_eq_ok_iff {x : Float32} {y : Float} :
    parse (Json.single x).print = .ok (.float y) ↔
      (magnitude32 x).1 < binary32.infinity ∧
        (floatNumeral binary32 singleRange (magnitude32 x).1 (magnitude32 x).2).quick? =
          some y := by
  rw [parse, readWith_print, outlined, value_floatOutline_eq_ok_iff]

theorem length_split_le (digits : Digits) : (digits.split.1.length : Int) ≤ max 1 digits.point := by
  rw [Digits.split]
  split
  next => exact Int.le_max_left 1 _
  next =>
    split
    next => simp; omega
    next => simp; omega

theorem exponentValue_scientificNumeral (digits : Digits) (negative : Bool) :
    (digits.scientificNumeral negative).exponentValue = digits.point - 1 := by
  have magnitude : digitsValue (Nat.toDigits 10 (digits.point - 1).natAbs) =
      (digits.point - 1).natAbs := Nat.ofDigitChars_ten_toDigits
  simp only [Numeral.exponentValue, Digits.scientificNumeral, magnitude, decide_eq_true_eq]
  split <;> omega

theorem quick?_single_isSome {code : Nat} (finite : code < binary32.infinity) (negative : Bool) :
    (floatNumeral binary32 singleRange code negative).quick?.isSome = true := by
  have point := binary32_point_le .toEven finite
  rw [floatNumeral]
  split
  next places =>
    have whole := length_split_le (binary32.digits .toEven code)
    have upTo : singleRange.upTo = 13 := rfl
    refine Numeral.quick?_isSome ?_
    simp only [Digits.positionalNumeral, Numeral.exponentValue]
    omega
  next =>
    refine Numeral.quick?_isSome ?_
    rw [exponentValue_scientificNumeral]
    simp only [Digits.scientificNumeral, List.length_take]
    omega

/-- The text of a single is read as a number exactly if the single is finite. -/
theorem single_isOk_iff {x : Float32} {depth : Nat} :
    (Shape.single depth (Json.single x).outlined).isOk = true ↔ x.isFinite = true := by
  rw [isFinite_iff_magnitude, outlined, floatOutline]
  split
  next finite =>
    obtain ⟨y, read⟩ := Option.isSome_iff_exists.mp (quick?_single_isSome finite (magnitude32 x).2)
    simp [Shape.single, Shape.number, read?_floatNumeral, read, finite, Except.isOk, Except.toBool]
  next infinite => simp [infinite, Shape.single, Shape.number, Except.isOk, Except.toBool]

end VectorSearch.Json
