import VectorSearch.Number.Shortest

namespace VectorSearch.Number

namespace Digits

/-- The places before the decimal point, at least one, and those after it. -/
def split (digits : Digits) : List Char × List Char :=
  if digits.point ≤ 0 then (['0'], List.replicate (-digits.point).toNat '0' ++ digits.text)
  else if digits.text.length ≤ digits.point then
    (digits.text ++ List.replicate (digits.point - digits.text.length).toNat '0', [])
  else (digits.text.take digits.point.toNat, digits.text.drop digits.point.toNat)

end Digits

/-- A point and what stands after it; where nothing does, `.0` or no point at all. -/
def fractionText (keepPoint : Bool) : List Char → List Char
  | [] => if keepPoint then ['.', '0'] else []
  | places => '.' :: places

def signText (negative : Bool) : List Char :=
  if negative then ['-'] else []

/-- A whole number in decimal, with a minus sign where it is negative. -/
def wholeText (n : Int) : List Char :=
  signText (n < 0) ++ Nat.toDigits 10 n.natAbs

namespace Digits

def positional (digits : Digits) (keepPoint : Bool) : List Char :=
  digits.split.1 ++ fractionText keepPoint digits.split.2

def scientific (digits : Digits) (mark : Char) (keepPoint : Bool) : List Char :=
  digits.text.take 1 ++ fractionText keepPoint (digits.text.drop 1) ++
    mark :: wholeText (digits.point - 1)

end Digits

/-- The digits of a finite magnitude; zero has the one digit `0`. -/
def BinaryFormat.digits (format : BinaryFormat) (tie : Tie) (code : Nat) : Digits :=
  if code = 0 then ⟨['0'], 1⟩ else format.shortest tie code

/-- The positional text of any double, with no point in a whole number and no exponent. -/
def plainText (x : Float) : String :=
  let (code, negative) := magnitude64 x
  if binary64.infinity < code then "NaN"
  else
    String.ofList (signText negative ++
      if code = binary64.infinity then ['i', 'n', 'f']
      else (binary64.digits .up code).positional false)

end VectorSearch.Number
