import VectorSearch.Number.Layout
import VectorSearch.Proofs.Number.Numeral
import VectorSearch.Proofs.Number.Scaling

namespace VectorSearch.Number

theorem digitChar_toNat {c : Char} (digit : c.isDigit = true) :
    c.toNat - '0'.toNat < 10 ∧ Nat.digitChar (c.toNat - '0'.toNat) = c := by
  simp only [Char.isDigit, Bool.and_eq_true, decide_eq_true_eq] at digit
  have low : 48 ≤ c.toNat := digit.1
  have high : c.toNat ≤ 57 := digit.2
  have small : c.toNat - '0'.toNat < 10 := by
    change c.toNat - 48 < 10
    omega
  refine ⟨small, Char.toNat_inj.mp ?_⟩
  rw [Nat.toNat_digitChar_of_lt_ten small]
  change 48 + (c.toNat - 48) = c.toNat
  omega

/-- Digits behind those of a number other than zero make the digits of a longer number. -/
theorem toDigits_append {digits : List Char} (all : ∀ c ∈ digits, c.isDigit = true) {n : Nat}
    (positive : 0 < n) :
    Nat.toDigits 10 n ++ digits = Nat.toDigits 10 (Nat.ofDigitChars 10 digits n) := by
  induction digits generalizing n with
  | nil => exact List.append_nil _
  | cons c rest ih =>
      obtain ⟨small, same⟩ := digitChar_toNat (all c List.mem_cons_self)
      have next := Nat.toDigits_append_toDigits (by decide : 1 < 10) positive small
      have later := ih (fun d member => all d (List.mem_cons_of_mem c member))
        (by omega : 0 < 10 * n + (c.toNat - '0'.toNat))
      rw [Nat.toDigits_of_lt_base small, same] at next
      rw [Nat.ofDigitChars_cons, ← later, ← next, List.append_assoc, List.singleton_append]

theorem toDigits_digitsValue {digits : List Char} (proper : ProperWhole digits) :
    Nat.toDigits 10 (digitsValue digits) = digits := by
  rcases proper with rfl | ⟨c, rest, rfl, nonzero, all⟩
  · rfl
  · obtain ⟨small, same⟩ := digitChar_toNat (all c List.mem_cons_self)
    have positive : 0 < c.toNat - '0'.toNat := by
      refine Nat.pos_of_ne_zero fun zero => nonzero ?_
      rw [← same, zero]
      rfl
    have joined := toDigits_append (fun d member => all d (List.mem_cons_of_mem c member)) positive
    rw [Nat.toDigits_of_lt_base small, same] at joined
    rw [digitsValue, Nat.ofDigitChars_cons, Nat.mul_zero, Nat.zero_add, ← joined]
    rfl

namespace Numeral

theorem scanWhole_spells {text whole rest : List Char}
    (scanned : scanWhole text = some (whole, rest)) : text = whole ++ rest ∧ ProperWhole whole := by
  cases text with
  | nil => cases scanned
  | cons c tail =>
      rw [scanWhole] at scanned
      split at scanned
      next zero =>
        split at scanned
        next => cases scanned
        next =>
          cases scanned
          exact ⟨congrArg (· :: _) zero, .inl rfl⟩
      next nonzero =>
        split at scanned
        next digit =>
          cases scanned
          refine ⟨congrArg (c :: ·) List.takeWhile_append_dropWhile.symm, .inr ⟨c, _, rfl, nonzero,
            fun d member => ?_⟩⟩
          rcases List.mem_cons.mp member with rfl | behind
          · exact digit
          · exact List.mem_takeWhile_imp behind
        next => cases scanned

theorem scanFraction_spells {text fraction rest : List Char}
    (scanned : scanFraction text = some (fraction, rest)) :
    rest <:+ text ∧ (fraction = [] → rest = text) := by
  unfold scanFraction at scanned
  split at scanned
  next tail =>
    dsimp only at scanned
    split at scanned
    next => cases scanned
    next nonempty =>
      cases scanned
      exact ⟨(List.dropWhile_suffix _).trans (List.suffix_cons _ _),
        fun empty => absurd (List.isEmpty_iff.mpr empty) nonempty⟩
  next =>
    cases scanned
    exact ⟨List.suffix_rfl, fun _ => rfl⟩

theorem scanSign_suffix (text : List Char) : (scanSign text).2 <:+ text := by
  unfold scanSign
  split
  next => exact List.suffix_cons _ _
  next => exact List.suffix_cons _ _
  next => exact List.suffix_rfl

theorem scanExponent_spells {text rest : List Char} {exponent : Option (Bool × List Char)}
    (scanned : scanExponent text = some (exponent, rest)) :
    rest <:+ text ∧ (exponent = none → rest = text) := by
  cases text with
  | nil =>
      cases scanned
      exact ⟨List.suffix_rfl, fun _ => rfl⟩
  | cons c tail =>
      rw [scanExponent] at scanned
      split at scanned
      next =>
        dsimp only at scanned
        split at scanned
        next => cases scanned
        next =>
          cases scanned
          have behind := (scanSign_suffix tail).trans (List.suffix_cons c tail)
          exact ⟨(List.dropWhile_suffix _).trans behind,
            fun absent => absurd absent (Option.some_ne_none _)⟩
      next =>
        cases scanned
        exact ⟨List.suffix_rfl, fun _ => rfl⟩

theorem scan_sign (text : List Char) :
    ∃ negative unsigned, text = signText negative ++ unsigned ∧
      scan text = scanUnsigned negative unsigned := by
  by_cases signed : text.head? = some '-'
  · obtain ⟨rest, rfl⟩ := List.head?_eq_some_iff.mp signed
    exact ⟨true, rest, rfl, rfl⟩
  · refine ⟨false, text, rfl, scan_signed ?_ false⟩
    rintro c first rfl
    exact signed first

/-- A numeral is read from the characters in front of what is left, and a whole one is spelled by
them. -/
theorem scan_spells {text rest : List Char} {numeral : Numeral}
    (scanned : scan text = some (numeral, rest)) :
    ∃ literal, text = literal ++ rest ∧ ProperWhole numeral.whole ∧
      (numeral.isWhole = true → literal = numeral.text) := by
  obtain ⟨negative, unsigned, rfl, same⟩ := scan_sign text
  rw [same, scanUnsigned] at scanned
  simp only [bind, Option.bind_eq_some_iff, pure, Option.some.injEq, Prod.mk.injEq] at scanned
  obtain ⟨⟨whole, afterWhole⟩, foundWhole, ⟨fraction, afterFraction⟩, foundFraction,
    ⟨exponent, afterExponent⟩, foundExponent, rfl, rfl⟩ := scanned
  obtain ⟨rfl, proper⟩ := scanWhole_spells foundWhole
  obtain ⟨fractionSuffix, noFraction⟩ := scanFraction_spells foundFraction
  obtain ⟨exponentSuffix, noExponent⟩ := scanExponent_spells foundExponent
  obtain ⟨places, spelled⟩ := exponentSuffix.trans fractionSuffix
  refine ⟨signText negative ++ (whole ++ places), ?_, proper, ?_⟩
  · dsimp only at spelled
    rw [← spelled, List.append_assoc, List.append_assoc]
  · intro isWhole
    obtain ⟨empty, none⟩ := Bool.and_eq_true_iff.mp isWhole
    obtain rfl : fraction = [] := List.isEmpty_iff.mp empty
    obtain rfl : exponent = .none := Option.isNone_iff_eq_none.mp none
    have unchanged : afterExponent = afterWhole := (noExponent rfl).trans (noFraction rfl)
    have without : places = [] := by
      dsimp only at spelled
      rw [unchanged] at spelled
      exact List.append_left_eq_self.mp spelled
    rw [without, text]
    simp [signText]

/-- The number that a numeral without a point or an exponent denotes. -/
def signed (numeral : Numeral) : Int :=
  if numeral.negative then -(digitsValue numeral.whole : Int) else digitsValue numeral.whole

/-- A whole number that has 64 bits with the sign; negative zero counts as none. -/
structure FitsI64 (numeral : Numeral) : Prop where
  whole : numeral.isWhole = true
  nonzero : numeral.negative = true → digitsValue numeral.whole ≠ 0
  low : Int64.minValue.toInt ≤ numeral.signed
  high : numeral.signed ≤ Int64.maxValue.toInt

theorem text_of_isWhole {numeral : Numeral} (whole : numeral.isWhole = true) :
    numeral.text = signText numeral.negative ++ numeral.whole := by
  obtain ⟨fraction, exponent⟩ := Bool.and_eq_true_iff.mp whole
  rw [text, Option.isNone_iff_eq_none.mp exponent, fraction]
  simp [signText]

theorem proper_of_isWhole {numeral : Numeral} (proper : ProperWhole numeral.whole)
    (whole : numeral.isWhole = true) : numeral.Proper := by
  obtain ⟨fraction, exponent⟩ := Bool.and_eq_true_iff.mp whole
  refine ⟨proper, ?_, ?_⟩
  · rw [List.isEmpty_iff.mp fraction]
    nofun
  · rw [Option.isNone_iff_eq_none.mp exponent]
    nofun

theorem point_notMem_text {numeral : Numeral} (proper : ProperWhole numeral.whole)
    (whole : numeral.isWhole = true) : '.' ∉ numeral.text := by
  rw [text_of_isWhole whole]
  intro member
  rcases List.mem_append.mp member with sign | digit
  · rw [signText] at sign
    split at sign <;> simp at sign
  · cases proper.all '.' digit

theorem wholeText_signed {numeral : Numeral} (proper : ProperWhole numeral.whole)
    (fits : numeral.FitsI64) : wholeText numeral.signed = numeral.text := by
  have digits := toDigits_digitsValue proper
  rw [text_of_isWhole fits.whole, wholeText, signed]
  cases sign : numeral.negative with
  | true =>
      have negative : (-(digitsValue numeral.whole : Int)) < 0 := by
        have := fits.nonzero sign
        omega
      rw [if_pos rfl, decide_eq_true negative, Int.natAbs_neg, Int.natAbs_natCast, digits]
  | false =>
      have positive : ¬(digitsValue numeral.whole : Int) < 0 := by omega
      rw [if_neg Bool.false_ne_true, decide_eq_false positive, Int.natAbs_natCast, digits]

theorem read?_of_fits {numeral : Numeral} (fits : numeral.FitsI64) :
    numeral.read? = some (.int numeral.signed) := by
  have greatest : Int64.maxValue.toInt < (UInt64.size : Int) := by decide
  have low := fits.low
  have high := fits.high
  rw [read?, fits.whole]
  cases sign : numeral.negative with
  | false =>
      have value : numeral.signed = digitsValue numeral.whole := by
        rw [signed, sign, if_neg Bool.false_ne_true]
      have small : digitsValue numeral.whole < UInt64.size := by omega
      rw [value]
      simp only [Bool.not_false, Bool.true_and, decide_eq_true small, if_true]
  | true =>
      have value : numeral.signed = -(digitsValue numeral.whole : Int) := by
        rw [signed, if_pos sign]
      have positive := Nat.pos_of_ne_zero (fits.nonzero sign)
      rw [value] at low ⊢
      simp only [Bool.not_true, Bool.and_false, Bool.false_and, Bool.false_eq_true, if_false,
        Bool.true_and, decide_eq_true positive, decide_eq_true low, if_true]

/-- A numeral that does not fit is read as a number above all that fit, or as a finite double. -/
theorem read?_of_not_fits {numeral : Numeral} {quantity : Quantity} (beyond : ¬numeral.FitsI64)
    (read : numeral.read? = some quantity) :
    (∃ n : Nat, quantity = .int n ∧ Int64.maxValue.toInt < n) ∨
      ∃ x, quantity = .float x ∧ x.isFinite = true := by
  have least : Int64.minValue.toInt ≤ 0 := by decide
  have greatest : 0 ≤ Int64.maxValue.toInt := by decide
  rw [read?] at read
  split at read
  next natural =>
    cases read
    simp only [Bool.and_eq_true, Bool.not_eq_true', decide_eq_true_eq] at natural
    obtain ⟨⟨whole, sign⟩, -⟩ := natural
    refine .inl ⟨_, rfl, Int.not_le.mp fun high => beyond ?_⟩
    have value : numeral.signed = digitsValue numeral.whole := by
      rw [signed, sign, if_neg Bool.false_ne_true]
    exact ⟨whole, fun negative => absurd (sign.symm.trans negative) Bool.false_ne_true,
      by omega, by omega⟩
  next =>
    split at read
    next integer =>
      simp only [Bool.and_eq_true, decide_eq_true_eq] at integer
      obtain ⟨⟨⟨whole, sign⟩, positive⟩, low⟩ := integer
      have value : numeral.signed = -(digitsValue numeral.whole : Int) := by
        rw [signed, if_pos sign]
      exact absurd ⟨whole, fun _ => positive.ne', by omega, by omega⟩ beyond
    next =>
      obtain ⟨x, quick, rfl⟩ := Option.map_eq_some_iff.mp read
      exact .inr ⟨x, rfl, isFinite_quick? quick⟩

end Numeral

end VectorSearch.Number
