import VectorSearch.Json.Value
import VectorSearch.Number.Numeral
import VectorSearch.Text.Hexadecimal

namespace VectorSearch.Toml

open Number Text

/-- Digits of a base, with underscores only between two digits. -/
def digits? (isDigit : Char → Bool) (text : List Char) : Option (List Char) :=
  let parts := text.splitOn '_'
  if parts.all fun part => !part.isEmpty && part.all isDigit then some parts.flatten else none

/-- A whole number that fits 64 bits, signed or unsigned. -/
def whole? (n : Int) : Option Json :=
  if Int64.minValue.toInt ≤ n ∧ n < UInt64.size then some (.int n) else none

/-- Digits that do not start with a superfluous zero. -/
def plainDigits? (text : List Char) : Option (List Char) := do
  let digits ← digits? Char.isDigit text
  if 1 < digits.length && digits.head? == some '0' then none else some digits

/-- An exponent: an optional sign and digits. -/
def exponent? (text : List Char) : Option (Bool × List Char) :=
  match text with
  | '-' :: rest => (digits? Char.isDigit rest).map (true, ·)
  | '+' :: rest => (digits? Char.isDigit rest).map (false, ·)
  | rest => (digits? Char.isDigit rest).map (false, ·)

/-- A number with a fraction, an exponent or both; one beyond all doubles is refused. -/
def float? (negative : Bool) (text : List Char) : Option Json := do
  let mantissa := text.takeWhile fun c => c ≠ 'e' && c ≠ 'E'
  let exponent ← match text.drop mantissa.length with
    | [] => some none
    | _ :: rest => some <$> exponent? rest
  let wholePart := mantissa.takeWhile (· ≠ '.')
  let fraction ← match mantissa.drop wholePart.length with
    | [] => some []
    | _ :: rest => digits? Char.isDigit rest
  let whole ← plainDigits? wholePart
  if fraction.isEmpty && exponent.isNone then none
  else
    let value := Numeral.exact ⟨negative, whole, fraction, exponent⟩
    if value.isInf then none else some (.float value)

def infinity : Float := Float.ofBits 0x7ff0000000000000

def notNumber : Float := Float.ofBits 0x7ff8000000000000

/-- A number after its sign, if it has one. Only decimal numbers may have one. -/
def number? (sign : Option Bool) (text : List Char) : Option Json :=
  let negative := sign.getD false
  match text, sign with
  | ['i', 'n', 'f'], _ => some (.float (if negative then -infinity else infinity))
  | ['n', 'a', 'n'], _ => some (.float notNumber)
  | '0' :: 'x' :: rest, none => do
      whole? (← hexNumber? (← digits? (fun c => (hexValue? c).isSome) rest))
  | '0' :: 'o' :: rest, none => do
      whole? (Nat.ofDigitChars 8 (← digits? (fun c => '0' ≤ c && c ≤ '7') rest) 0 : Nat)
  | '0' :: 'b' :: rest, none => do
      whole? (Nat.ofDigitChars 2 (← digits? (fun c => c == '0' || c == '1') rest) 0 : Nat)
  | text, _ =>
      match plainDigits? text with
      | some digits => whole? (if negative then -(digitsValue digits : Int) else digitsValue digits)
      | none => float? negative text

/-- A fixed count of decimal digits. -/
def fixed? (count : Nat) (text : List Char) : Option Nat :=
  if text.length = count && text.all Char.isDigit then some (digitsValue text) else none

def daysIn (year month : Nat) : Nat :=
  if month = 2 then
    if year % 4 = 0 ∧ (year % 100 ≠ 0 ∨ year % 400 = 0) then 29 else 28
  else if month = 4 ∨ month = 6 ∨ month = 9 ∨ month = 11 then 30
  else 31

def isDate (text : List Char) : Bool :=
  match text.splitOn '-' with
  | [year, month, day] =>
      match fixed? 4 year, fixed? 2 month, fixed? 2 day with
      | some year, some month, some day =>
          1 ≤ month && month ≤ 12 && 1 ≤ day && day ≤ daysIn year month
      | _, _, _ => false
  | _ => false

def isClock (text : List Char) : Bool :=
  match text.splitOn ':' with
  | [hour, minute] => (fixed? 2 hour).any (· < 24) && (fixed? 2 minute).any (· < 60)
  | [hour, minute, second] =>
      (fixed? 2 hour).any (· < 24) && (fixed? 2 minute).any (· < 60) &&
        (fixed? 2 (second.takeWhile (· ≠ '.'))).any (· ≤ 60) &&
        match second.dropWhile (· ≠ '.') with
        | [] => true
        | _ :: fraction => !fraction.isEmpty && fraction.all Char.isDigit
  | _ => false

/-- A time of day with an offset, which is a letter or a signed time. -/
def isOffsetClock (text : List Char) : Bool :=
  match text.reverse with
  | mark :: rest =>
      if mark = 'Z' ∨ mark = 'z' then isClock rest.reverse
      else
        let clock := text.takeWhile fun c => c ≠ '+' && c ≠ '-'
        match text.drop clock.length with
        | _ :: offset => isClock clock && offset.length == 5 && isClock offset
        | [] => false
  | [] => false

/-- A date, a time of day, or a date and a time with or without an offset. -/
def isMoment (text : List Char) : Bool :=
  let date := text.take 10
  if isDate date then
    match text.drop 10 with
    | [] => true
    | mark :: time =>
        (mark == 'T' || mark == 't' || mark == ' ') && (isClock time || isOffsetClock time)
  else isClock text

/-- The value that unquoted text denotes. A moment is an object that no setting has. -/
def scalar? (text : List Char) : Option Json :=
  match text with
  | ['t', 'r', 'u', 'e'] => some (.bool true)
  | ['f', 'a', 'l', 's', 'e'] => some (.bool false)
  | '+' :: rest => number? (some false) rest
  | '-' :: rest => number? (some true) rest
  | text =>
      if isMoment text then some (.obj [("moment", .str (String.ofList text))])
      else number? none text

end VectorSearch.Toml
