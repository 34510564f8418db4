import VectorSearch.Number.Binary

namespace VectorSearch.Number

/-! Decimal numerals: their grammar and the numbers they stand for.

`scan` takes the longest numeral a text starts with. `exact` rounds a numeral correctly;
`quick` is the reading of JSON texts, which collects up to 64 bits of digits and scales
them by one power of ten at a time, so that the last bit may differ from `exact`.
-/

structure Numeral where
  negative : Bool
  whole : List Char
  fraction : List Char
  exponent : Option (Bool × List Char)
deriving DecidableEq, Repr

/-- What a numeral without a point or exponent denotes, if it fits, is a whole number;
all else is a double. -/
inductive Quantity where
  | int (value : Int)
  | float (value : Float)

def digitsValue (digits : List Char) : Nat :=
  Nat.ofDigitChars 10 digits 0

namespace Numeral

def isWhole (numeral : Numeral) : Bool :=
  numeral.fraction.isEmpty && numeral.exponent.isNone

/-- The numeral as it is spelled with a lower-case exponent mark. -/
def text (numeral : Numeral) : List Char :=
  (if numeral.negative then ['-'] else []) ++ numeral.whole ++
    (if numeral.fraction.isEmpty then [] else '.' :: numeral.fraction) ++
    match numeral.exponent with
    | none => []
    | some (down, digits) => 'e' :: (if down then ['-'] else []) ++ digits

/-- The digits before the point: a single zero, or digits that start with another one. -/
def scanWhole : List Char → Option (List Char × List Char)
  | [] => none
  | c :: rest =>
      if c = '0' then
        if (rest.head?.map Char.isDigit).getD false then none else some (['0'], rest)
      else if c.isDigit then some (c :: rest.takeWhile Char.isDigit, rest.dropWhile Char.isDigit)
      else none

/-- A point and at least one digit, or nothing. -/
def scanFraction : List Char → Option (List Char × List Char)
  | '.' :: rest =>
      let digits := rest.takeWhile Char.isDigit
      if digits.isEmpty then none else some (digits, rest.dropWhile Char.isDigit)
  | rest => some ([], rest)

/-- The sign of an exponent, which may be left out. -/
def scanSign : List Char → Bool × List Char
  | '-' :: rest => (true, rest)
  | '+' :: rest => (false, rest)
  | rest => (false, rest)

/-- A mark, an optional sign and at least one digit, or nothing. -/
def scanExponent : List Char → Option (Option (Bool × List Char) × List Char)
  | [] => some (none, [])
  | c :: rest =>
      if c = 'e' ∨ c = 'E' then
        let (down, rest) := scanSign rest
        let digits := rest.takeWhile Char.isDigit
        if digits.isEmpty then none else some (some (down, digits), rest.dropWhile Char.isDigit)
      else some (none, c :: rest)

/-- The numeral at the start of a text and what follows it. -/
def scan (text : List Char) : Option (Numeral × List Char) := do
  let (negative, rest) := match text with
    | '-' :: rest => (true, rest)
    | rest => (false, rest)
  let (whole, rest) ← scanWhole rest
  let (fraction, rest) ← scanFraction rest
  let (exponent, rest) ← scanExponent rest
  return (⟨negative, whole, fraction, exponent⟩, rest)

theorem dropWhile_length (test : Char → Bool) (text : List Char) :
    (text.dropWhile test).length ≤ text.length :=
  (List.dropWhile_suffix test).length_le

theorem scanWhole_length {text whole rest : List Char}
    (scanned : scanWhole text = some (whole, rest)) : rest.length < text.length := by
  cases text with
  | nil => simp [scanWhole] at scanned
  | cons c tail =>
      have shorter := dropWhile_length Char.isDigit tail
      simp only [scanWhole] at scanned
      split at scanned
      · split at scanned
        · simp at scanned
        · simp only [Option.some.injEq, Prod.mk.injEq] at scanned
          simp [← scanned.2]
      · split at scanned
        · simp only [Option.some.injEq, Prod.mk.injEq] at scanned
          simp only [← scanned.2, List.length_cons]; omega
        · simp at scanned

theorem scanFraction_length {text fraction rest : List Char}
    (scanned : scanFraction text = some (fraction, rest)) : rest.length ≤ text.length := by
  unfold scanFraction at scanned
  split at scanned
  · rename_i tail
    have shorter := dropWhile_length Char.isDigit tail
    dsimp only at scanned
    split at scanned
    · simp at scanned
    · simp only [Option.some.injEq, Prod.mk.injEq] at scanned
      simp only [← scanned.2, List.length_cons]; omega
  · simp only [Option.some.injEq, Prod.mk.injEq] at scanned
    simp [scanned.2]

theorem scanSign_length (text : List Char) : (scanSign text).2.length ≤ text.length := by
  unfold scanSign
  split <;> simp

theorem scanExponent_length {text rest : List Char} {exponent : Option (Bool × List Char)}
    (scanned : scanExponent text = some (exponent, rest)) : rest.length ≤ text.length := by
  cases text with
  | nil => simp_all [scanExponent]
  | cons c tail =>
      have sign := scanSign_length tail
      have shorter := dropWhile_length Char.isDigit (scanSign tail).2
      simp only [scanExponent] at scanned
      split at scanned
      · split at scanned
        · simp at scanned
        · simp only [Option.some.injEq, Prod.mk.injEq] at scanned
          simp only [← scanned.2, List.length_cons]; omega
      · simp only [Option.some.injEq, Prod.mk.injEq] at scanned
        simp [← scanned.2]

theorem scan_length {text rest : List Char} {numeral : Numeral}
    (scanned : scan text = some (numeral, rest)) : rest.length < text.length := by
  unfold scan at scanned
  have signed : (match text with
    | '-' :: rest => (true, rest)
    | rest => (false, rest)).2.length ≤ text.length := by
    split <;> simp
  revert scanned signed
  generalize (match text with
    | '-' :: rest => (true, rest)
    | rest => (false, rest)) = start
  intro scanned signed
  simp only [bind, Option.bind_eq_some_iff, pure, Option.some.injEq, Prod.mk.injEq] at scanned
  obtain ⟨⟨whole, afterWhole⟩, foundWhole, ⟨fraction, afterFraction⟩, foundFraction,
    ⟨exponent, afterExponent⟩, foundExponent, _, same⟩ := scanned
  have first := scanWhole_length foundWhole
  have second := scanFraction_length foundFraction
  have third := scanExponent_length foundExponent
  simp only at second third same
  subst same
  omega

/-- The power of ten that an exponent part adds. -/
def exponentValue (numeral : Numeral) : Int :=
  match numeral.exponent with
  | none => 0
  | some (down, digits) => if down then -(digitsValue digits : Int) else digitsValue digits

/-- The double nearest to a numeral; beyond all doubles it is infinite. -/
def exact (numeral : Numeral) : Float :=
  let digits := numeral.whole ++ numeral.fraction
  let significand := digitsValue digits
  let exponent := numeral.exponentValue - numeral.fraction.length
  let magnitude :=
    if significand = 0 then 0
    else if 310 < exponent + (Nat.toDigits 10 significand).length then Float.ofBits 0x7ff0000000000000
    else if exponent + (Nat.toDigits 10 significand).length < -330 then 0
    else Float.ofScientific significand (exponent < 0) exponent.natAbs
  if numeral.negative then -magnitude else magnitude

/-- Digits gathered into 64 bits. -/
structure Gathered where
  significand : Nat
  exponent : Int
  full : Bool

/-- From the first digit that does not fit on, each digit before the point counts as a
power of ten. -/
def Gathered.putWhole (gathered : Gathered) (digit : Char) : Gathered :=
  let next := gathered.significand * 10 + digitsValue [digit]
  if !gathered.full && next < UInt64.size then { gathered with significand := next }
  else { gathered with exponent := gathered.exponent + 1, full := true }

/-- From the first digit that does not fit on, the digits after the point are dropped. -/
def Gathered.putFraction (gathered : Gathered) (digit : Char) : Gathered :=
  let next := gathered.significand * 10 + digitsValue [digit]
  if !gathered.full && next < UInt64.size then
    { gathered with significand := next, exponent := gathered.exponent - 1 }
  else { gathered with full := true }

def gather (numeral : Numeral) : Gathered :=
  let whole := numeral.whole.foldl Gathered.putWhole ⟨0, 0, false⟩
  numeral.fraction.foldl Gathered.putFraction { whole with full := false }

/-- `x * 10 ^ exponent` with one operation where a power of ten up to 308 does, or
nothing when that is too large for a double. -/
def scale? (x : Float) (exponent : Int) : Option Float :=
  if exponent.natAbs ≤ 308 then
    let power := Float.ofScientific 1 false exponent.natAbs
    if exponent < 0 then some (x / power)
    else if (x * power).isInf then none else some (x * power)
  else if x == 0 then some x
  else if 0 ≤ exponent then none
  else scale? (x / Float.ofScientific 1 false 308) (exponent + 308)
termination_by (-exponent).toNat

/-- The double that a JSON numeral is read as; nothing when it is out of range. An
exponent beyond 32 bits decides alone, whatever the digits before it count for. -/
def quick? (numeral : Numeral) : Option Float :=
  let gathered := numeral.gather
  let shift := numeral.exponentValue
  let magnitude :=
    if Int32.maxValue.toInt < shift.natAbs then
      if gathered.significand ≠ 0 ∧ 0 < shift then none else some 0
    else
      let exponent := gathered.exponent + shift
      let exponent := max Int32.minValue.toInt (min Int32.maxValue.toInt exponent)
      scale? (double gathered.significand) exponent
  magnitude.map fun x => if numeral.negative then -x else x

/-- The number that a JSON numeral is read as: a whole number where it is one of at most
64 bits, unsigned above zero and signed below, and otherwise a double. -/
def read? (numeral : Numeral) : Option Quantity :=
  let magnitude := digitsValue numeral.whole
  if numeral.isWhole && !numeral.negative && magnitude < UInt64.size then some (.int magnitude)
  else if numeral.isWhole && numeral.negative && 0 < magnitude &&
      Int64.minValue.toInt ≤ -(magnitude : Int) then
    some (.int (-magnitude))
  else numeral.quick?.map .float

end Numeral

end VectorSearch.Number
