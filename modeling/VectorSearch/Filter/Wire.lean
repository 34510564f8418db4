import VectorSearch.Filter.Basic
import VectorSearch.Number.Layout

namespace VectorSearch

open Number

/-- The text of a double as a filter value. -/
def floatWireText (x : Float) : List Char :=
  let (code, negative) := magnitude64 x
  if binary64.infinity < code then ['N', 'a', 'N']
  else if code = binary64.infinity then
    signText negative ++ ['I', 'n', 'f', 'i', 'n', 'i', 't', 'y']
  else
    let digits := binary64.digits .up code
    signText negative ++
      if code = 0 ∨ (0.001 ≤ x.abs ∧ x.abs < 10000000) then digits.positional true
      else digits.scientific 'E' true

namespace Scalar

def wireChars : Scalar → List Char
  | .boolean true => ['t', 'r', 'u', 'e']
  | .boolean false => ['f', 'a', 'l', 's', 'e']
  | .integer n => wholeText n
  | .float x => floatWireText x
  | .string text => text.toList

def wireText (scalar : Scalar) : String :=
  String.ofList scalar.wireChars

end Scalar

namespace Operand

/-- List items stand side by side with commas between them, none of it escaped. -/
def wireText : Operand → String
  | .one scalar => scalar.wireText
  | .many scalars => String.intercalate "," (scalars.map Scalar.wireText)

end Operand

end VectorSearch
