import VectorSearch.Number.Numeral

namespace VectorSearch.Number

theorem takeWhile_append_of_stop {test : Char → Bool} {run : List Char}
    (passes : ∀ c ∈ run, test c = true) {rest : List Char}
    (stop : ∀ c ∈ rest.head?, test c = false) : (run ++ rest).takeWhile test = run := by
  rw [List.takeWhile_append_of_pos passes]
  cases rest with
  | nil => simp
  | cons c tail => simp [stop c rfl]

theorem dropWhile_append_of_stop {test : Char → Bool} {run : List Char}
    (passes : ∀ c ∈ run, test c = true) {rest : List Char}
    (stop : ∀ c ∈ rest.head?, test c = false) : (run ++ rest).dropWhile test = rest := by
  rw [List.dropWhile_append_of_pos passes]
  cases rest with
  | nil => rfl
  | cons c tail => simp [stop c rfl]

/-- Digits as they may stand before a point: no zero comes before another digit. -/
def ProperWhole (digits : List Char) : Prop :=
  digits = ['0'] ∨ ∃ c rest, digits = c :: rest ∧ c ≠ '0' ∧ ∀ c ∈ digits, c.isDigit = true

theorem ProperWhole.exists_cons {digits : List Char} (proper : ProperWhole digits) :
    ∃ c rest, digits = c :: rest ∧ c.isDigit = true := by
  rcases proper with rfl | ⟨c, rest, rfl, -, all⟩
  · exact ⟨'0', [], rfl, rfl⟩
  · exact ⟨c, rest, rfl, all c (List.mem_cons_self ..)⟩

theorem ProperWhole.all {digits : List Char} (proper : ProperWhole digits) :
    ∀ c ∈ digits, c.isDigit = true := by
  rcases proper with rfl | ⟨-, -, -, -, all⟩
  · simp [Char.isDigit]
  · exact all

/-- What can follow a numeral without being taken for a part of it. -/
def Stops (rest : List Char) : Prop :=
  ∀ c ∈ rest.head?, c.isDigit = false ∧ c ≠ '.' ∧ c ≠ 'e' ∧ c ≠ 'E'

theorem stops_nil : Stops [] := nofun

namespace Numeral

/-- A numeral whose text is a number of a JSON text. -/
structure Proper (numeral : Numeral) : Prop where
  whole : ProperWhole numeral.whole
  fraction : ∀ c ∈ numeral.fraction, c.isDigit = true
  exponent : ∀ down digits, numeral.exponent = some (down, digits) →
    digits ≠ [] ∧ ∀ c ∈ digits, c.isDigit = true

theorem scanWhole_append {digits rest : List Char} (proper : ProperWhole digits)
    (stop : ∀ c ∈ rest.head?, c.isDigit = false) :
    scanWhole (digits ++ rest) = some (digits, rest) := by
  rcases proper with rfl | ⟨c, tail, rfl, nonzero, all⟩
  · cases rest with
    | nil => rfl
    | cons next tail => simp [scanWhole, stop next rfl]
  · have tailDigits : ∀ next ∈ tail, next.isDigit = true :=
      fun next member => all next (List.mem_cons_of_mem c member)
    simp only [List.cons_append, scanWhole, if_neg nonzero, all c (List.mem_cons_self ..), if_true,
      takeWhile_append_of_stop tailDigits stop, dropWhile_append_of_stop tailDigits stop]

theorem scanFraction_append {digits rest : List Char} (all : ∀ c ∈ digits, c.isDigit = true)
    (stop : ∀ c ∈ rest.head?, c.isDigit = false ∧ c ≠ '.') :
    scanFraction ((if digits.isEmpty then [] else '.' :: digits) ++ rest) = some (digits, rest) := by
  have stopDigit : ∀ c ∈ rest.head?, c.isDigit = false := fun c member => (stop c member).1
  cases digits with
  | nil =>
      cases rest with
      | nil => rfl
      | cons c tail =>
          have noPoint : c ≠ '.' := (stop c rfl).2
          simp only [List.isEmpty_nil, if_true, List.nil_append]
          unfold scanFraction
          split
          next same => exact absurd (List.cons.inj same).1 noPoint
          next => rfl
  | cons c tail =>
      simp only [List.isEmpty_cons, Bool.false_eq_true, if_false, List.cons_append, scanFraction]
      rw [← List.cons_append, takeWhile_append_of_stop all stopDigit,
        dropWhile_append_of_stop all stopDigit]
      rfl

theorem scanSign_append {digits rest : List Char} (nonempty : digits ≠ [])
    (all : ∀ c ∈ digits, c.isDigit = true) (down : Bool) :
    scanSign ((if down then ['-'] else []) ++ digits ++ rest) = (down, digits ++ rest) := by
  cases down with
  | true => rfl
  | false =>
      obtain ⟨c, tail, rfl⟩ := List.exists_cons_of_ne_nil nonempty
      have digit := all c (List.mem_cons_self ..)
      simp only [Bool.false_eq_true, if_false, List.nil_append, List.cons_append]
      unfold scanSign
      split
      next same => simp [(List.cons.inj same).1, Char.isDigit] at digit
      next same => simp [(List.cons.inj same).1, Char.isDigit] at digit
      next => rfl

/-- The text of an exponent part. -/
def exponentText : Option (Bool × List Char) → List Char
  | none => []
  | some (down, digits) => 'e' :: (if down then ['-'] else []) ++ digits

theorem scanExponent_append {exponent : Option (Bool × List Char)} {rest : List Char}
    (proper : ∀ down digits, exponent = some (down, digits) →
      digits ≠ [] ∧ ∀ c ∈ digits, c.isDigit = true) (stops : Stops rest) :
    scanExponent (exponentText exponent ++ rest) = some (exponent, rest) := by
  cases exponent with
  | none =>
      cases rest with
      | nil => rfl
      | cons c tail =>
          obtain ⟨-, -, lower, upper⟩ := stops c rfl
          simp [exponentText, scanExponent, lower, upper]
  | some part =>
      obtain ⟨down, digits⟩ := part
      obtain ⟨nonempty, all⟩ := proper down digits rfl
      have stopDigit : ∀ c ∈ rest.head?, c.isDigit = false := fun c member => (stops c member).1
      simp only [exponentText, List.cons_append, scanExponent, true_or, if_true,
        scanSign_append nonempty all down, takeWhile_append_of_stop all stopDigit,
        dropWhile_append_of_stop all stopDigit]
      simp [nonempty]

theorem text_eq (numeral : Numeral) :
    numeral.text = (if numeral.negative then ['-'] else []) ++ (numeral.whole ++
      ((if numeral.fraction.isEmpty then [] else '.' :: numeral.fraction) ++
        exponentText numeral.exponent)) := by
  rw [text, ← List.append_assoc, ← List.append_assoc]
  rfl

theorem head_exponentText {exponent : Option (Bool × List Char)} {rest : List Char}
    (stops : Stops rest) :
    ∀ c ∈ (exponentText exponent ++ rest).head?, c.isDigit = false ∧ c ≠ '.' := by
  intro c member
  cases exponent with
  | none =>
      obtain ⟨noDigit, noPoint, -⟩ := stops c member
      exact ⟨noDigit, noPoint⟩
  | some part =>
      have mark : 'e' = c := by simpa [exponentText] using member
      subst mark
      decide

/-- The numeral behind a sign. -/
def scanUnsigned (negative : Bool) (text : List Char) : Option (Numeral × List Char) := do
  let (whole, rest) ← scanWhole text
  let (fraction, rest) ← scanFraction rest
  let (exponent, rest) ← scanExponent rest
  return (⟨negative, whole, fraction, exponent⟩, rest)

theorem scan_signed {text : List Char} (noSign : ∀ c ∈ text.head?, c ≠ '-') (negative : Bool) :
    scan ((if negative then ['-'] else []) ++ text) = scanUnsigned negative text := by
  cases negative with
  | true => rfl
  | false =>
      simp only [Bool.false_eq_true, if_false, List.nil_append]
      cases text with
      | nil => rfl
      | cons c rest =>
          have different : c ≠ '-' := noSign c rfl
          unfold scan
          split
          next negative unsigned parted =>
              split at parted
              next minus => exact absurd (List.cons.inj minus).1 different
              next =>
                  cases parted
                  rfl

/-- A proper numeral is scanned back from its own text, and what follows it is left. -/
theorem scan_text {numeral : Numeral} (proper : numeral.Proper) {rest : List Char}
    (stops : Stops rest) : scan (numeral.text ++ rest) = some (numeral, rest) := by
  let afterFraction := exponentText numeral.exponent ++ rest
  let afterWhole :=
    (if numeral.fraction.isEmpty then [] else '.' :: numeral.fraction) ++ afterFraction
  have fractionStop : ∀ c ∈ afterFraction.head?, c.isDigit = false ∧ c ≠ '.' :=
    head_exponentText stops
  have wholeStop : ∀ c ∈ afterWhole.head?, c.isDigit = false := by
    intro c member
    cases fraction : numeral.fraction with
    | nil =>
        simp only [afterWhole, fraction, List.isEmpty_nil, if_true, List.nil_append] at member
        exact (fractionStop c member).1
    | cons first others =>
        have point : '.' = c := by simpa [afterWhole, fraction] using member
        subst point
        rfl
  have spelled : numeral.text ++ rest =
      (if numeral.negative then ['-'] else []) ++ (numeral.whole ++ afterWhole) := by
    simp only [text_eq, afterWhole, afterFraction, List.append_assoc]
  have noSign : ∀ c ∈ (numeral.whole ++ afterWhole).head?, c ≠ '-' := by
    obtain ⟨first, others, whole, digit⟩ := proper.whole.exists_cons
    rw [whole]
    rintro c ⟨⟩ rfl
    exact Bool.noConfusion digit
  rw [spelled, scan_signed noSign, scanUnsigned, scanWhole_append proper.whole wholeStop]
  simp only [Option.bind_eq_bind, Option.bind_some, afterWhole,
    scanFraction_append proper.fraction fractionStop, afterFraction,
    scanExponent_append proper.exponent stops]
  rfl

theorem exists_leading {n : Nat} (positive : 0 < n) :
    ∃ c rest, Nat.toDigits 10 n = c :: rest ∧ c ≠ '0' := by
  induction n using Nat.strongRecOn with
  | ind n ih =>
      rw [Nat.toDigits_eq_if (by decide)]
      by_cases small : n < 10
      · rw [if_pos small]
        refine ⟨_, [], rfl, ?_⟩
        have digits : ∀ digit < 10, 0 < digit → Nat.digitChar digit ≠ '0' := by decide
        exact digits n small positive
      · rw [if_neg small]
        obtain ⟨c, rest, same, nonzero⟩ := ih (n / 10) (by omega) (by omega)
        exact ⟨c, rest ++ [Nat.digitChar (n % 10)], by rw [same]; rfl, nonzero⟩

theorem properWhole_toDigits (n : Nat) : ProperWhole (Nat.toDigits 10 n) := by
  rcases Nat.eq_zero_or_pos n with rfl | positive
  · exact .inl rfl
  · obtain ⟨c, rest, same, nonzero⟩ := exists_leading positive
    exact .inr ⟨c, rest, same, nonzero,
      fun digit member => Nat.isDigit_of_mem_toDigits (by decide) (by decide) member⟩

def ofInt (n : Int) : Numeral :=
  ⟨n < 0, Nat.toDigits 10 n.natAbs, [], none⟩

theorem proper_ofInt (n : Int) : (ofInt n).Proper :=
  ⟨properWhole_toDigits _, nofun, nofun⟩

theorem read?_ofInt {n : Int} (low : Int64.minValue.toInt ≤ n) (high : n < UInt64.size) :
    (ofInt n).read? = some (.int n) := by
  have magnitude : digitsValue (ofInt n).whole = n.natAbs := Nat.ofDigitChars_ten_toDigits
  have whole : (ofInt n).isWhole = true := rfl
  rw [read?, magnitude, whole]
  by_cases negative : n < 0
  · have sign : (ofInt n).negative = true := decide_eq_true negative
    have positive : 0 < n.natAbs := by omega
    have value : -(n.natAbs : Int) = n := by omega
    rw [sign, value]
    simp only [Bool.not_true, Bool.and_false, Bool.false_and, Bool.false_eq_true, if_false,
      Bool.true_and, decide_eq_true positive, decide_eq_true low, if_true]
  · have sign : (ofInt n).negative = false := decide_eq_false negative
    have range : n.natAbs < UInt64.size := by omega
    have value : (n.natAbs : Int) = n := by omega
    rw [sign, value]
    simp only [Bool.not_false, Bool.true_and, decide_eq_true range, if_true]

end Numeral

end VectorSearch.Number
