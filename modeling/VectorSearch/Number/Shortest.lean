import VectorSearch.Number.Binary

namespace VectorSearch.Number

/-- Which of two equally near decimals is taken. -/
inductive Tie where
  | toEven
  | up
deriving DecidableEq, Repr

/-- The magnitude `0.d₁d₂… * 10 ^ point` of a digit text. -/
structure Digits where
  text : List Char
  point : Int
deriving DecidableEq, Repr

namespace Digits

/-- The digits of `n * 10 ^ exponent`, without the zeros at their end. -/
def ofScaled (n : Nat) (exponent : Int) : Digits :=
  let all := Nat.toDigits 10 n
  let kept := (all.reverse.dropWhile (· == '0')).reverse
  ⟨kept, all.length + exponent⟩

end Digits

/-- The exponent of the leading decimal digit of `numerator / denominator`. -/
def leadingExponent (numerator denominator : Nat) : Int :=
  if denominator ≤ numerator then (Nat.toDigits 10 (numerator / denominator)).length - 1
  else -((Nat.toDigits 10 ((denominator - 1) / numerator)).length : Int)

/-- The reals that a reader rounds to one magnitude, in units of `2 ^ exponent`: from
`low` to `high`, the ends included exactly when `closed`. -/
structure Interval where
  low : Nat
  value : Nat
  high : Nat
  exponent : Int
  closed : Bool
deriving DecidableEq, Repr

/-- Half a step up and down; the step below a power of two is half as long. -/
def BinaryFormat.interval (format : BinaryFormat) (code : Nat) : Interval :=
  let value := format.decode code
  let shortBelow := value.significand = Nat.pow 2 (format.precision - 1) ∧
    format.leastExponent < value.exponent
  { low := 4 * value.significand - if shortBelow then 1 else 2
    value := 4 * value.significand
    high := 4 * value.significand + 2
    exponent := value.exponent - 2
    closed := value.significand % 2 = 0 }

namespace Interval

/-- The decimal multiple of `10 ^ grid` that stands for the value: of its two neighbours
the nearer one that lies in the interval. -/
def onGrid? (interval : Interval) (tie : Tie) (grid : Int) : Option Nat :=
  let unit := Nat.pow 2 (-interval.exponent).toNat * Nat.pow 10 grid.toNat
  let scale := Nat.pow 2 interval.exponent.toNat * Nat.pow 10 (-grid).toNat
  let value := interval.value * scale
  let below := value / unit
  let inside (n : Nat) : Bool :=
    if interval.closed then interval.low * scale ≤ n * unit && n * unit ≤ interval.high * scale
    else interval.low * scale < n * unit && n * unit < interval.high * scale
  match inside below, inside (below + 1) with
  | true, true =>
      match compare (value - below * unit) ((below + 1) * unit - value), tie with
      | .lt, _ => some below
      | .gt, _ => some (below + 1)
      | .eq, .toEven => some (below + below % 2)
      | .eq, .up => some (below + 1)
  | true, false => some below
  | false, true => some (below + 1)
  | false, false => none

end Interval

/-- The digits for a finite magnitude other than zero: the coarsest decimal grid with a
point in the interval wins. -/
def BinaryFormat.shortest (format : BinaryFormat) (tie : Tie) (code : Nat) : Digits :=
  let interval := format.interval code
  let whole := interval.value * Nat.pow 2 interval.exponent.toNat
  let halvings := (-interval.exponent).toNat
  let leading := leadingExponent whole (Nat.pow 2 halvings)
  let found := (List.range 17).findSome? fun (places : Nat) =>
    (interval.onGrid? tie (leading - places)).map (Digits.ofScaled · (leading - places))
  found.getD (Digits.ofScaled (whole * Nat.pow 5 halvings) (-halvings))

end VectorSearch.Number
