import Mathlib.Algebra.Order.Field.Power
import Mathlib.Algebra.Order.Field.Rat
import VectorSearch.Proofs.Number.Digits

namespace VectorSearch.Number

/-- Digits as a whole number, times a power of ten. -/
def scaledValue (digits : List Char) (power : Int) : ℚ :=
  digitsValue digits * 10 ^ power

theorem scaledValue_zeros (digits : List Char) (count : Nat) (power : Int) :
    scaledValue (digits ++ List.replicate count '0') (power - count) = scaledValue digits power := by
  have value : digitsValue (digits ++ List.replicate count '0') =
      10 ^ count * digitsValue digits := by
    rw [digitsValue, Nat.ofDigitChars_append, Nat.ofDigitChars_replicate_zero]
    rfl
  have ten : (10 : ℚ) ≠ 0 := by decide
  rw [scaledValue, scaledValue, value, Nat.cast_mul, Nat.cast_pow, Nat.cast_ofNat,
    mul_comm (10 ^ count), mul_assoc, ← zpow_natCast, ← zpow_add₀ ten, add_sub_cancel]

theorem digitsValue_zeros (count : Nat) (digits : List Char) :
    digitsValue (List.replicate count '0' ++ digits) = digitsValue digits := by
  rw [digitsValue, Nat.ofDigitChars_append, Nat.ofDigitChars_replicate_zero, Nat.mul_zero]
  rfl

namespace Numeral

/-- What a numeral denotes apart from its sign. -/
def magnitude (numeral : Numeral) : ℚ :=
  scaledValue (numeral.whole ++ numeral.fraction)
    (numeral.exponentValue - numeral.fraction.length)

/-- The numeral as it is spelled with a mark before its exponent. -/
def spelled (mark : Char) (numeral : Numeral) : List Char :=
  signText numeral.negative ++ numeral.whole ++
    (if numeral.fraction.isEmpty then [] else '.' :: numeral.fraction) ++
    match numeral.exponent with
    | none => []
    | some (down, digits) => mark :: signText down ++ digits

theorem spelled_lower (numeral : Numeral) : numeral.spelled 'e' = numeral.text :=
  rfl

/-- The numeral with a `.0` where it has no point. -/
def pointed (numeral : Numeral) : Numeral :=
  { numeral with fraction := if numeral.fraction = [] then ['0'] else numeral.fraction }

theorem fraction_pointed_ne_nil (numeral : Numeral) : numeral.pointed.fraction ≠ [] := by
  dsimp only [pointed]
  split
  next => exact List.cons_ne_nil _ _
  next nonempty => exact nonempty

theorem magnitude_pointed (numeral : Numeral) : numeral.pointed.magnitude = numeral.magnitude := by
  obtain ⟨negative, whole, fraction, exponent⟩ := numeral
  cases fraction with
  | nil =>
      have zeros := scaledValue_zeros whole 1 (exponentValue ⟨negative, whole, [], exponent⟩)
      simp only [magnitude, List.append_nil, List.length_nil, Nat.cast_zero, Int.sub_zero]
      exact zeros
  | cons c rest => rfl

theorem Proper.pointed {numeral : Numeral} (proper : numeral.Proper) : numeral.pointed.Proper where
  whole := proper.whole
  fraction := by
    dsimp only [Numeral.pointed]
    split
    next => simp [Char.isDigit]
    next => exact proper.fraction
  exponent := proper.exponent

theorem toLower_digit {c : Char} (digit : c.isDigit = true) : c.toLower = c := by
  delta Char.toLower
  split
  next upper =>
    simp only [Char.isDigit, Bool.and_eq_true, decide_eq_true_eq] at digit
    have above : 65 ≤ c.toNat := upper.1
    have below : c.toNat ≤ 57 := digit.2
    omega
  next => rfl

theorem map_toLower_digits {chars : List Char} (all : ∀ c ∈ chars, c.isDigit = true) :
    chars.map Char.toLower = chars := by
  rw [List.map_congr_left fun c member => toLower_digit (all c member), List.map_id']

theorem map_toLower_signText (negative : Bool) :
    (signText negative).map Char.toLower = signText negative := by
  cases negative <;> rfl

/-- A digit is no letter, so to lower the mark is to lower the whole text. -/
theorem toLower_spelled {numeral : Numeral} (proper : numeral.Proper) :
    (numeral.spelled 'E').map Char.toLower = numeral.text := by
  have fraction : (if numeral.fraction.isEmpty then [] else '.' :: numeral.fraction).map
      Char.toLower = if numeral.fraction.isEmpty then [] else '.' :: numeral.fraction := by
    split
    next => rfl
    next => exact congrArg ('.' :: ·) (map_toLower_digits proper.fraction)
  rw [← spelled_lower, spelled, spelled]
  simp only [List.map_append, map_toLower_signText, map_toLower_digits proper.whole.all, fraction]
  congr 1
  cases exponent : numeral.exponent with
  | none => rfl
  | some part =>
      obtain ⟨down, digits⟩ := part
      have digits := map_toLower_digits (proper.exponent _ _ exponent).2
      simp only [List.cons_append, List.map_cons, List.map_append, map_toLower_signText, digits]
      rfl

/-- Proper numerals with the same text are the same. -/
theorem spelled_inj {numeral other : Numeral} (proper : numeral.Proper) (proper' : other.Proper)
    (same : numeral.spelled 'E' = other.spelled 'E') : numeral = other := by
  have texts : numeral.text = other.text := by
    rw [← toLower_spelled proper, same, toLower_spelled proper']
  have first := scan_text proper stops_nil
  have second := scan_text proper' stops_nil
  rw [texts, second] at first
  cases first
  rfl

end Numeral

namespace Digits

variable {digits : Digits}

def magnitude (digits : Digits) : ℚ :=
  scaledValue digits.text (digits.point - digits.text.length)

/-- What the positional layout without a superfluous point spells. -/
def plainNumeral (digits : Digits) (negative : Bool) : Numeral :=
  ⟨negative, digits.split.1, digits.split.2, none⟩

theorem Proper.plainNumeral (proper : digits.Proper) (negative : Bool) :
    (digits.plainNumeral negative).Proper where
  whole := proper.whole_split
  fraction := proper.all_split
  exponent := nofun

theorem text_plainNumeral (negative : Bool) :
    (digits.plainNumeral negative).text = signText negative ++ digits.positional false := by
  cases same : digits.split.2 <;>
    simp [Numeral.text, plainNumeral, positional, fractionText, signText, same]

theorem spelled_scientificNumeral (mark : Char) (negative : Bool) :
    (digits.scientificNumeral negative).pointed.spelled mark =
      signText negative ++ digits.scientific mark true := by
  cases same : digits.text.drop 1 <;>
    simp [Numeral.spelled, Numeral.pointed, scientificNumeral, scientific, fractionText, signText,
      wholeText, same]

theorem magnitude_plainNumeral (negative : Bool) :
    (digits.plainNumeral negative).magnitude = digits.magnitude := by
  dsimp only [Numeral.magnitude, plainNumeral, Numeral.exponentValue, magnitude]
  rw [split]
  split
  next small =>
    have zeros := digitsValue_zeros (1 + (-digits.point).toNat) digits.text
    have power : (0 : Int) - (List.replicate (-digits.point).toNat '0' ++ digits.text).length =
        digits.point - digits.text.length := by
      rw [List.length_append, List.length_replicate]
      omega
    rw [List.replicate_add, List.append_assoc] at zeros
    rw [scaledValue, scaledValue, power]
    exact congrArg (fun value : Nat => (value : ℚ) * _) zeros
  next =>
    split
    next whole =>
      have power : digits.point - digits.text.length -
          ((digits.point - digits.text.length).toNat : Int) = 0 := by
        omega
      have zeros := scaledValue_zeros digits.text (digits.point - digits.text.length).toNat
        (digits.point - digits.text.length)
      rw [power] at zeros
      rw [List.append_nil]
      exact zeros
    next fraction =>
      have power : (0 : Int) - (digits.text.drop digits.point.toNat).length =
          digits.point - digits.text.length := by
        rw [List.length_drop]
        omega
      rw [List.take_append_drop, power]

theorem magnitude_scientificNumeral (proper : digits.Proper) (negative : Bool) :
    (digits.scientificNumeral negative).magnitude = digits.magnitude := by
  have exponent : (digits.scientificNumeral negative).exponentValue = digits.point - 1 := by
    dsimp only [Numeral.exponentValue, scientificNumeral]
    rw [digitsValue, Nat.ofDigitChars_ten_toDigits]
    split
    next down =>
      have below := of_decide_eq_true down
      omega
    next up =>
      have above := of_decide_eq_false (Bool.eq_false_iff.mpr up)
      omega
  have nonempty : 0 < digits.text.length := by
    obtain ⟨c, rest, spelled, -⟩ := proper.whole.exists_cons
    rw [spelled]
    exact Nat.succ_pos _
  have power : digits.point - 1 - ((digits.text.drop 1).length : Int) =
      digits.point - digits.text.length := by
    rw [List.length_drop]
    omega
  rw [Numeral.magnitude, exponent, magnitude, ← power]
  dsimp only [scientificNumeral]
  rw [List.take_append_drop]

end Digits

end VectorSearch.Number
