namespace VectorSearch.Number

/-! Binary floating-point numbers as whole significands times powers of two.

A finite magnitude is decoded to a `Dyadic`, and any dyadic is encoded to the nearest
magnitude of a format, an exact half going to the even neighbour. Changing the width of
a number is the composition of the two.
-/

/-- A binary interchange format: the bits of its significand, the exponent of its least
step, and the code of its infinity. -/
structure BinaryFormat where
  precision : Nat
  leastExponent : Int
  infinity : Nat
deriving DecidableEq, Repr

def binary64 : BinaryFormat := ⟨53, -1074, 0x7ff0000000000000⟩

def binary32 : BinaryFormat := ⟨24, -149, 0x7f800000⟩

/-- The magnitude `significand * 2 ^ exponent`. -/
structure Dyadic where
  significand : Nat
  exponent : Int
deriving DecidableEq, Repr

/-- `n / 2 ^ shift`, rounded to the nearest whole number and to the even one on a tie. -/
def halfEven (n shift : Nat) : Nat :=
  let unit := Nat.pow 2 shift
  let quotient := n / unit
  let twice := 2 * (n % unit)
  if twice < unit then quotient
  else if unit < twice then quotient + 1
  else quotient + quotient % 2

namespace BinaryFormat

def decode (format : BinaryFormat) (code : Nat) : Dyadic :=
  let implied := Nat.pow 2 (format.precision - 1)
  let field := code / implied
  let fraction := code % implied
  if field = 0 then ⟨fraction, format.leastExponent⟩
  else ⟨fraction + implied, format.leastExponent + (field - 1 : Nat)⟩

/-- The code of the nearest magnitude; one that is too large becomes infinity. Codes of
neighbouring magnitudes are neighbours, so a carry out of the significand needs no case. -/
def encode (format : BinaryFormat) (value : Dyadic) : Nat :=
  if value.significand = 0 then 0
  else
    let width : Int := value.significand.log2 + 1
    let step := max (value.exponent + width - format.precision) format.leastExponent
    let significand :=
      if step ≤ value.exponent then value.significand * Nat.pow 2 (value.exponent - step).toNat
      else halfEven value.significand (step - value.exponent).toNat
    let field := (step - format.leastExponent).toNat
    let code := field * Nat.pow 2 (format.precision - 1) + significand
    if code < format.infinity then code else format.infinity

/-- Re-encodes a magnitude code; every code above infinity is not a number. -/
def convert (source target : BinaryFormat) (code : Nat) : Nat :=
  if code < source.infinity then target.encode (source.decode code)
  else if code = source.infinity then target.infinity
  else target.infinity + Nat.pow 2 (target.precision - 2)

end BinaryFormat

/-- The code of a double's magnitude, and whether its sign bit is set. -/
def magnitude64 (x : Float) : Nat × Bool :=
  let bits := x.toBits.toNat
  (bits % Nat.pow 2 63, Nat.pow 2 63 ≤ bits)

def magnitude32 (x : Float32) : Nat × Bool :=
  let bits := x.toBits.toNat
  (bits % Nat.pow 2 31, Nat.pow 2 31 ≤ bits)

/-- Every single-precision number is a double. -/
def widen (x : Float32) : Float :=
  let (code, negative) := magnitude32 x
  let wide := binary32.convert binary64 code
  Float.ofBits (UInt64.ofNat (if negative then wide + Nat.pow 2 63 else wide))

/-- The single-precision number nearest to a double. -/
def narrow (x : Float) : Float32 :=
  let (code, negative) := magnitude64 x
  let short := binary64.convert binary32 code
  Float32.ofBits (UInt32.ofNat (if negative then short + Nat.pow 2 31 else short))

/-- The double nearest to a whole number that fits 64 bits. -/
def double (n : Int) : Float :=
  let magnitude := (UInt64.ofNat n.natAbs).toFloat
  if n < 0 then -magnitude else magnitude

/-- The single-precision number nearest to a whole number that fits 64 bits, rounded once. -/
def single (n : Int) : Float32 :=
  let magnitude := (UInt64.ofNat n.natAbs).toFloat32
  if n < 0 then -magnitude else magnitude

end VectorSearch.Number
