import VectorSearch.Json.Value
import VectorSearch.Number.Layout
import VectorSearch.Text.Hexadecimal

namespace VectorSearch.Json

open Number Text

/-- From which to which position of the point a number is written without an exponent. -/
structure PositionalRange where
  above : Int
  upTo : Int

def doubleRange : PositionalRange := ⟨-5, 16⟩

def singleRange : PositionalRange := ⟨-6, 13⟩

def digitsText (range : PositionalRange) (digits : Digits) : List Char :=
  if range.above < digits.point ∧ digits.point ≤ range.upTo then digits.positional true
  else digits.scientific 'e' false

/-- The numeral of a floating-point magnitude, or `null`. -/
def floatText (format : BinaryFormat) (range : PositionalRange) (code : Nat) (negative : Bool) :
    List Char :=
  if code < format.infinity then
    signText negative ++ digitsText range (format.digits .toEven code)
  else ['n', 'u', 'l', 'l']

def doubleText (x : Float) : List Char :=
  floatText binary64 doubleRange (magnitude64 x).1 (magnitude64 x).2

def singleText (x : Float32) : List Char :=
  floatText binary32 singleRange (magnitude32 x).1 (magnitude32 x).2

/-- A character inside quotes. -/
def escape (c : Char) : List Char :=
  match c with
  | '"' => ['\\', '"']
  | '\\' => ['\\', '\\']
  | '\x08' => ['\\', 'b']
  | '\x0c' => ['\\', 'f']
  | '\n' => ['\\', 'n']
  | '\r' => ['\\', 'r']
  | '\t' => ['\\', 't']
  | c => if c < ' ' then '\\' :: 'u' :: hexText 4 c.toNat else [c]

def stringText (content : String) : List Char :=
  '"' :: content.toList.flatMap escape ++ ['"']

mutual

def chars : Json → List Char
  | .null => ['n', 'u', 'l', 'l']
  | .bool true => ['t', 'r', 'u', 'e']
  | .bool false => ['f', 'a', 'l', 's', 'e']
  | .int n => wholeText n
  | .float x => doubleText x
  | .single x => singleText x
  | .str content => stringText content
  | .arr [] => ['[', ']']
  | .arr (item :: rest) => '[' :: (item.chars ++ itemChars rest)
  | .obj [] => ['{', '}']
  | .obj ((key, value) :: rest) =>
      '{' :: (stringText key ++ ':' :: (value.chars ++ memberChars rest))

/-- The items after the first, and the closing bracket. -/
def itemChars : List Json → List Char
  | [] => [']']
  | item :: rest => ',' :: (item.chars ++ itemChars rest)

/-- The members after the first, and the closing brace. -/
def memberChars : List (String × Json) → List Char
  | [] => ['}']
  | (key, value) :: rest => ',' :: (stringText key ++ ':' :: (value.chars ++ memberChars rest))

end

def print (value : Json) : String :=
  String.ofList value.chars

end VectorSearch.Json
