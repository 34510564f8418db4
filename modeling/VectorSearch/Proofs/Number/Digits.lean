import Mathlib.Algebra.Group.Nat.Defs
import Mathlib.Data.List.DropRight
import VectorSearch.Number.Layout
import VectorSearch.Proofs.Number.Numeral

namespace VectorSearch.Number

namespace Digits

/-- Digits that start with a zero only if there is no other. -/
structure Proper (digits : Digits) : Prop where
  whole : ProperWhole digits.text
  zero : digits.text = ['0'] → digits.point = 1

theorem proper_ofScaled {n : Nat} (positive : 0 < n) (exponent : Int) :
    (ofScaled n exponent).Proper := by
  obtain ⟨c, rest, spelled, nonzero⟩ := Numeral.exists_leading positive
  let kept := (Nat.toDigits 10 n).rdropWhile (· == '0')
  have shortened : kept <+: c :: rest := spelled ▸ List.rdropWhile_prefix _ _
  have leading : ∃ tail, kept = c :: tail := by
    cases same : kept with
    | nil =>
        have zeros := List.rdropWhile_eq_nil_iff.mp same c (by simp [spelled])
        exact absurd (beq_iff_eq.mp zeros) nonzero
    | cons first tail =>
        rw [same] at shortened
        exact ⟨tail, by rw [(List.cons_prefix_cons.mp shortened).1]⟩
  obtain ⟨tail, same⟩ := leading
  have all : ∀ digit ∈ kept, digit.isDigit = true := fun digit member =>
    Nat.isDigit_of_mem_toDigits (b := 10) (by decide) (by decide)
      (spelled ▸ shortened.subset member)
  exact ⟨.inr ⟨c, tail, same, nonzero, all⟩,
    fun zero => absurd (List.cons.inj (same.symm.trans zero)).1 nonzero⟩

end Digits

theorem BinaryFormat.decode_significand_pos (format : BinaryFormat) {code : Nat}
    (nonzero : code ≠ 0) : 0 < (format.decode code).significand := by
  have implied : 0 < Nat.pow 2 (format.precision - 1) := Nat.two_pow_pos _
  rw [decode]
  split
  next field =>
    rw [Nat.mod_eq_of_lt ((Nat.div_eq_zero_iff_lt implied).mp field)]
    exact Nat.pos_of_ne_zero nonzero
  next => exact Nat.add_pos_right _ implied

/-- A multiple of a power of ten that stands for a value lies in its interval. -/
theorem Interval.onGrid?_inside {interval : Interval} {tie : Tie} {grid : Int} {n : Nat}
    (found : interval.onGrid? tie grid = some n) :
    let unit := Nat.pow 2 (-interval.exponent).toNat * Nat.pow 10 grid.toNat
    let scale := Nat.pow 2 interval.exponent.toNat * Nat.pow 10 (-grid).toNat
    if interval.closed then interval.low * scale ≤ n * unit ∧ n * unit ≤ interval.high * scale
    else interval.low * scale < n * unit ∧ n * unit < interval.high * scale := by
  unfold onGrid? at found
  extract_lets unit scale value below inside at found
  have held : inside n = true := by
    split at found
    next lowIn highIn =>
      split at found <;> rw [← Option.some.inj found]
      · exact lowIn
      · exact highIn
      · rcases Nat.mod_two_eq_zero_or_one below with even | odd
        · rw [even]
          exact lowIn
        · rw [odd]
          exact highIn
      · exact highIn
    next lowIn _ => exact Option.some.inj found ▸ lowIn
    next _ highIn => exact Option.some.inj found ▸ highIn
    next => cases found
  intro unit scale
  dsimp only [inside] at held
  split at held
  next closed =>
    rw [if_pos closed]
    simpa using held
  next isOpen =>
    rw [if_neg isOpen]
    simpa using held

/-- Zero is outside an interval that starts above it. -/
theorem Interval.onGrid?_pos {interval : Interval} (low : 0 < interval.low) {tie : Tie}
    {grid : Int} {n : Nat} (found : interval.onGrid? tie grid = some n) : 0 < n := by
  have inside := onGrid?_inside found
  have scaled : 0 < interval.low *
      (Nat.pow 2 interval.exponent.toNat * Nat.pow 10 (-grid).toNat) :=
    Nat.mul_pos low (Nat.mul_pos (Nat.pow_pos (by decide)) (Nat.pow_pos (by decide)))
  refine Nat.pos_of_ne_zero fun zero => ?_
  simp only [zero, Nat.zero_mul] at inside
  split at inside <;> omega

theorem BinaryFormat.interval_low_pos (format : BinaryFormat) {code : Nat} (nonzero : code ≠ 0) :
    0 < (format.interval code).low := by
  have significand := format.decode_significand_pos nonzero
  dsimp only [interval]
  split <;> omega

theorem BinaryFormat.proper_shortest (format : BinaryFormat) (tie : Tie) {code : Nat}
    (nonzero : code ≠ 0) : (format.shortest tie code).Proper := by
  have value : 0 < (format.interval code).value :=
    Nat.mul_pos (by decide) (format.decode_significand_pos nonzero)
  unfold shortest
  extract_lets interval whole halvings leading found
  cases same : found with
  | some digits =>
      obtain ⟨places, -, placed⟩ := List.exists_of_findSome?_eq_some same
      obtain ⟨n, onGrid, rfl⟩ := Option.map_eq_some_iff.mp placed
      exact Digits.proper_ofScaled (Interval.onGrid?_pos (format.interval_low_pos nonzero) onGrid) _
  | none =>
      have positive : 0 < whole * Nat.pow 5 halvings :=
        Nat.mul_pos (Nat.mul_pos value (Nat.pow_pos (by decide))) (Nat.pow_pos (by decide))
      exact Digits.proper_ofScaled positive _

theorem BinaryFormat.proper_digits (format : BinaryFormat) (tie : Tie) (code : Nat) :
    (format.digits tie code).Proper := by
  rw [digits]
  split
  next => exact ⟨.inl rfl, fun _ => rfl⟩
  next nonzero => exact format.proper_shortest tie nonzero

theorem Digits.point_ofScaled_le {n width : Nat} (bound : n < 10 ^ width) (positive : 0 < width)
    (exponent : Int) : (ofScaled n exponent).point ≤ width + exponent := by
  have short := (Nat.length_toDigits_le_iff (by decide) positive).mpr bound
  simp only [ofScaled]
  omega

theorem leadingExponent_le {numerator denominator width : Nat} (bound : numerator < 10 ^ width)
    (positive : 0 < width) : leadingExponent numerator denominator ≤ width := by
  rw [leadingExponent]
  split
  next =>
    have quotient : numerator / denominator < 10 ^ width :=
      Nat.lt_of_le_of_lt (Nat.div_le_self ..) bound
    have short := (Nat.length_toDigits_le_iff (by decide) positive).mpr quotient
    omega
  next => omega

theorem Interval.onGrid?_lt {interval : Interval} {tie : Tie} {grid : Int} {n width : Nat}
    (found : interval.onGrid? tie grid = some n)
    (bound : interval.value * Nat.pow 2 interval.exponent.toNat + 1 < 10 ^ width) :
    n < 10 ^ (width + (-grid).toNat) := by
  simp only [onGrid?, ← Nat.mul_assoc] at found
  generalize interval.value * Nat.pow 2 interval.exponent.toNat = whole at *
  generalize Nat.pow 2 (-interval.exponent).toNat * Nat.pow 10 grid.toNat = unit at *
  have near : n ≤ whole * Nat.pow 10 (-grid).toNat / unit + 1 := by
    generalize whole * Nat.pow 10 (-grid).toNat / unit = below at *
    split at found
    next => split at found <;> cases found <;> omega
    all_goals cases found <;> omega
  have small := Nat.div_le_self (whole * Nat.pow 10 (-grid).toNat) unit
  have power : 0 < 10 ^ (-grid).toNat := Nat.pow_pos (by decide)
  calc
    n ≤ whole * 10 ^ (-grid).toNat + 1 := Nat.le_trans near (Nat.succ_le_succ small)
    _ ≤ (whole + 1) * 10 ^ (-grid).toNat := by rw [Nat.succ_mul]; omega
    _ < 10 ^ width * 10 ^ (-grid).toNat := Nat.mul_lt_mul_of_pos_right bound power
    _ = 10 ^ (width + (-grid).toNat) := (Nat.pow_add ..).symm

/-- A magnitude below a power of ten has its point within twice as many places. -/
theorem BinaryFormat.point_shortest_le (format : BinaryFormat) (tie : Tie) {code width : Nat}
    (positive : 0 < width)
    (bound : (format.interval code).value * Nat.pow 2 (format.interval code).exponent.toNat + 1 <
      10 ^ width) : (format.shortest tie code).point ≤ 2 * width := by
  unfold shortest
  extract_lets interval whole halvings leading found
  have below : whole < 10 ^ width := Nat.lt_of_succ_lt bound
  have leadingBound : leading ≤ width := leadingExponent_le below positive
  cases same : found with
  | some digits =>
      obtain ⟨places, -, placed⟩ := List.exists_of_findSome?_eq_some same
      obtain ⟨n, onGrid, rfl⟩ := Option.map_eq_some_iff.mp placed
      have small := Interval.onGrid?_lt onGrid bound
      have point := Digits.point_ofScaled_le small (by omega) (leading - places)
      simp only [Option.getD_some]
      omega
  | none =>
      have small : whole * Nat.pow 5 halvings < 10 ^ (width + halvings) := by
        rw [Nat.pow_add]
        exact Nat.mul_lt_mul_of_lt_of_le below (Nat.pow_le_pow_left (by decide) halvings)
          (Nat.pow_pos (by decide))
      have point := Digits.point_ofScaled_le small (by omega) (-halvings)
      simp only [Option.getD_none]
      omega

theorem binary32_decode_le {code : Nat} (finite : code < binary32.infinity) :
    (binary32.decode code).significand < 2 ^ 24 ∧ (binary32.decode code).exponent ≤ 104 := by
  have field : code / Nat.pow 2 23 ≤ 254 :=
    Nat.le_of_lt_succ (Nat.div_lt_of_lt_mul finite)
  have fraction : code % Nat.pow 2 23 < 2 ^ 23 := Nat.mod_lt _ (by decide)
  by_cases subnormal : code / Nat.pow 2 23 = 0
  · have decoded : binary32.decode code = ⟨code % Nat.pow 2 23, -149⟩ := if_pos subnormal
    rw [decoded]
    have low : (-149 : Int) ≤ 104 := by decide
    exact ⟨Nat.lt_trans fraction (by decide), low⟩
  · have decoded : binary32.decode code =
        ⟨code % Nat.pow 2 23 + Nat.pow 2 23, -149 + (code / Nat.pow 2 23 - 1 : Nat)⟩ :=
      if_neg subnormal
    rw [decoded]
    have high : -149 + ((code / Nat.pow 2 23 - 1 : Nat) : Int) ≤ 104 := by omega
    exact ⟨Nat.add_lt_add_right fraction _, high⟩

theorem binary32_point_le (tie : Tie) {code : Nat} (finite : code < binary32.infinity) :
    (binary32.digits tie code).point ≤ 78 := by
  obtain ⟨significand, exponent⟩ := binary32_decode_le finite
  rw [BinaryFormat.digits]
  split
  next => decide
  next =>
    refine binary32.point_shortest_le tie (by decide : 0 < 39) ?_
    have shift : (binary32.interval code).exponent.toNat ≤ 102 := by
      simp only [BinaryFormat.interval]
      omega
    have value : (binary32.interval code).value ≤ 4 * (2 ^ 24 - 1) := by
      simp only [BinaryFormat.interval]
      omega
    calc
      (binary32.interval code).value * Nat.pow 2 (binary32.interval code).exponent.toNat + 1
        ≤ 4 * (2 ^ 24 - 1) * 2 ^ 102 + 1 :=
          Nat.succ_le_succ (Nat.mul_le_mul value (Nat.pow_le_pow_right (by decide) shift))
      _ < 10 ^ 39 := by decide

namespace Digits

variable {digits : Digits}

theorem Proper.all (proper : digits.Proper) : ∀ c ∈ digits.text, c.isDigit = true := by
  rcases proper.whole with zero | ⟨-, -, -, -, all⟩
  · simp [zero, Char.isDigit]
  · exact all

/-- What the positional layout with a point spells. -/
def positionalNumeral (digits : Digits) (negative : Bool) : Numeral :=
  ⟨negative, digits.split.1, if digits.split.2 = [] then ['0'] else digits.split.2, none⟩

/-- What the scientific layout without a superfluous point spells. -/
def scientificNumeral (digits : Digits) (negative : Bool) : Numeral :=
  ⟨negative, digits.text.take 1, digits.text.drop 1,
    some (decide (digits.point - 1 < 0), Nat.toDigits 10 (digits.point - 1).natAbs)⟩

theorem text_positionalNumeral (negative : Bool) :
    (digits.positionalNumeral negative).text = signText negative ++ digits.positional true := by
  cases same : digits.split.2 <;>
    simp [Numeral.text, positionalNumeral, positional, fractionText, signText, same]

theorem text_scientificNumeral (negative : Bool) :
    (digits.scientificNumeral negative).text =
      signText negative ++ digits.scientific 'e' false := by
  cases same : digits.text.drop 1 <;>
    simp [Numeral.text, scientificNumeral, scientific, fractionText, signText, wholeText, same]

theorem Proper.whole_split (proper : digits.Proper) : ProperWhole digits.split.1 := by
  rw [split]
  split
  next => exact .inl rfl
  next beyond =>
    rcases proper.whole with zero | ⟨c, rest, spelled, nonzero, all⟩
    · rw [if_pos (by simp [zero, proper.zero zero]), zero, proper.zero zero]
      exact .inl rfl
    · split
      next =>
        refine .inr ⟨c, _, by rw [spelled]; rfl, nonzero, fun digit member => ?_⟩
        rcases List.mem_append.mp member with own | zeros
        · exact all digit own
        · rw [List.eq_of_mem_replicate zeros]
          rfl
      next =>
        obtain ⟨places, same⟩ : ∃ places, digits.point.toNat = places + 1 :=
          Nat.exists_eq_add_one.mpr (by omega)
        exact .inr ⟨c, rest.take places, by rw [spelled, same]; rfl, nonzero,
          fun digit member => all digit (List.mem_of_mem_take member)⟩

theorem Proper.all_split (proper : digits.Proper) : ∀ c ∈ digits.split.2, c.isDigit = true := by
  intro c member
  rw [split] at member
  split at member
  next =>
    rcases List.mem_append.mp member with zeros | own
    · rw [List.eq_of_mem_replicate zeros]
      rfl
    · exact proper.all c own
  next =>
    split at member
    next => cases member
    next => exact proper.all c (List.mem_of_mem_drop member)

theorem Proper.positionalNumeral (proper : digits.Proper) (negative : Bool) :
    (digits.positionalNumeral negative).Proper where
  whole := proper.whole_split
  fraction := by
    dsimp only [Digits.positionalNumeral]
    split
    next => simp [Char.isDigit]
    next => exact proper.all_split
  exponent := nofun

theorem Proper.scientificNumeral (proper : digits.Proper) (negative : Bool) :
    (digits.scientificNumeral negative).Proper where
  whole := by
    rcases proper.whole with zero | ⟨c, rest, spelled, nonzero, all⟩
    · exact .inl (congrArg (List.take 1) zero)
    · exact .inr ⟨c, [], congrArg (List.take 1) spelled, nonzero,
        fun digit member => all digit (List.mem_of_mem_take member)⟩
  fraction := fun c member => proper.all c (List.mem_of_mem_drop member)
  exponent := by
    intro down places same
    cases same
    exact ⟨Nat.toDigits_ne_nil, fun c member =>
      Nat.isDigit_of_mem_toDigits (by decide) (by decide) member⟩

end Digits

end VectorSearch.Number
