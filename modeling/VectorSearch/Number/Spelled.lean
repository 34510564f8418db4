import VectorSearch.Number.Numeral

namespace VectorSearch.Number

/-- A whole number from zero up that fits 64 bits. -/
def spelledNatural? (text : List Char) : Option Nat :=
  let digits := match text with
    | '+' :: rest => rest
    | text => text
  if !digits.isEmpty && digits.all Char.isDigit && digitsValue digits < UInt64.size then
    some (digitsValue digits)
  else none

/-- A sign, where there is one, and what follows it. -/
def spelledSign : List Char → Bool × List Char
  | '-' :: rest => (true, rest)
  | '+' :: rest => (false, rest)
  | rest => (false, rest)

/-- A decimal numeral without its sign: digits around an optional point, then an optional
exponent. -/
def spelledNumeral? (negative : Bool) (text : List Char) : Option Numeral := do
  let whole := text.takeWhile Char.isDigit
  let (fraction, rest) := match text.dropWhile Char.isDigit with
    | '.' :: rest => (rest.takeWhile Char.isDigit, rest.dropWhile Char.isDigit)
    | rest => ([], rest)
  if whole.isEmpty && fraction.isEmpty then none
  else
    match ← Numeral.scanExponent rest with
    | (exponent, []) => some ⟨negative, whole, fraction, exponent⟩
    | _ => none

/-- A double: a numeral, an infinity, or no number at all, in letters of either case. -/
def spelledDouble? (text : List Char) : Option Float :=
  let (negative, rest) := spelledSign text
  match String.ofList (rest.map Char.toLower) with
  | "inf" => some (Float.ofBits (if negative then 0xfff0000000000000 else 0x7ff0000000000000))
  | "infinity" => some (Float.ofBits (if negative then 0xfff0000000000000 else 0x7ff0000000000000))
  | "nan" => some (Float.ofBits 0x7ff8000000000000)
  | _ => Numeral.exact <$> spelledNumeral? negative rest

end VectorSearch.Number
