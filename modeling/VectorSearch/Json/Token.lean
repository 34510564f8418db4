import VectorSearch.Number.Numeral
import VectorSearch.Text.Hexadecimal

namespace VectorSearch.Json

open Number Text

/-! The tokens of a JSON text.

Reading goes on to the first place where no token can start, which is marked by `bad`.
A string that escapes half of a surrogate pair is a token without content: such a string
may be skipped over but not read.
-/

inductive Token where
  | openArray
  | closeArray
  | openObject
  | closeObject
  | comma
  | colon
  | null
  | bool (value : Bool)
  | number (numeral : Numeral)
  | text (content : Option String)
  | bad
deriving DecidableEq, Repr

/-- What has been read of a string: its characters, the last first, a high surrogate that
waits for its partner, and whether all surrogates so far had one. -/
structure Spelled where
  chars : List Char
  high : Option Nat
  paired : Bool

namespace Spelled

def empty : Spelled := ⟨[], none, true⟩

/-- No partner can follow a waiting surrogate any more. -/
def settle (spelled : Spelled) : Spelled :=
  { spelled with high := none, paired := spelled.paired && spelled.high.isNone }

def putChar (spelled : Spelled) (c : Char) : Spelled :=
  { spelled.settle with chars := c :: spelled.chars }

/-- Takes a 16-bit unit of an escape: a low surrogate completes the high one before it. -/
def putUnit (spelled : Spelled) (unit : Nat) : Spelled :=
  if 0xd800 ≤ unit ∧ unit < 0xdc00 then { spelled.settle with high := some unit }
  else if 0xdc00 ≤ unit ∧ unit < 0xe000 then
    match spelled.high with
    | some high =>
        { spelled with
          chars := Char.ofNat (0x10000 + (high - 0xd800) * 0x400 + (unit - 0xdc00)) :: spelled.chars
          high := none }
    | none => { spelled with paired := false }
  else spelled.putChar (Char.ofNat unit)

def content (spelled : Spelled) : Option String :=
  if spelled.settle.paired then some (String.ofList spelled.chars.reverse) else none

end Spelled

/-- The character for a letter after a backslash. -/
def unescape? (c : Char) : Option Char :=
  match c with
  | '"' => some '"'
  | '\\' => some '\\'
  | '/' => some '/'
  | 'b' => some '\x08'
  | 'f' => some '\x0c'
  | 'n' => some '\n'
  | 'r' => some '\r'
  | 't' => some '\t'
  | _ => none

/-- Reads a string after its opening quote, up to and with the closing one. -/
def scanText : List Char → Spelled → Option (Option String × List Char)
  | [], _ => none
  | '"' :: rest, spelled => some (spelled.content, rest)
  | '\\' :: 'u' :: a :: b :: c :: d :: rest, spelled => do
      scanText rest (spelled.putUnit (← hexNumber? [a, b, c, d]))
  | '\\' :: c :: rest, spelled => do
      scanText rest (spelled.putChar (← unescape? c))
  | c :: rest, spelled =>
      if c = '\\' ∨ c < ' ' then none else scanText rest (spelled.putChar c)

def scanWord : List Char → List Char → Option (List Char)
  | [], rest => some rest
  | _ :: _, [] => none
  | letter :: letters, c :: rest => if c = letter then scanWord letters rest else none

/-- The token at the start of a text and what follows it. -/
def scanToken : List Char → Option (Token × List Char)
  | [] => none
  | '[' :: rest => some (.openArray, rest)
  | ']' :: rest => some (.closeArray, rest)
  | '{' :: rest => some (.openObject, rest)
  | '}' :: rest => some (.closeObject, rest)
  | ',' :: rest => some (.comma, rest)
  | ':' :: rest => some (.colon, rest)
  | '"' :: rest => (scanText rest .empty).map fun (content, rest) => (.text content, rest)
  | 'n' :: rest => (scanWord ['u', 'l', 'l'] rest).map (.null, ·)
  | 't' :: rest => (scanWord ['r', 'u', 'e'] rest).map (.bool true, ·)
  | 'f' :: rest => (scanWord ['a', 'l', 's', 'e'] rest).map (.bool false, ·)
  | c :: rest => (Numeral.scan (c :: rest)).map fun (numeral, rest) => (.number numeral, rest)

/-- What may stand between tokens. -/
def isGap (c : Char) : Bool :=
  c == ' ' || c == '\n' || c == '\t' || c == '\r'

theorem scanText_length {text rest : List Char} {spelled : Spelled} {content : Option String}
    (scanned : scanText text spelled = some (content, rest)) : rest.length < text.length := by
  fun_induction scanText text spelled with
  | case1 => simp at scanned
  | case2 => simp only [Option.some.injEq, Prod.mk.injEq] at scanned; simp [scanned.2]
  | case3 a b c d rest spelled ih =>
      simp only [bind, Option.bind_eq_some_iff] at scanned
      obtain ⟨unit, _, scanned⟩ := scanned
      have := ih unit scanned
      simp only [List.length_cons]; omega
  | case4 c rest spelled _ ih =>
      simp only [bind, Option.bind_eq_some_iff] at scanned
      obtain ⟨plain, _, scanned⟩ := scanned
      have := ih plain scanned
      simp only [List.length_cons]; omega
  | case5 => simp at scanned
  | case6 c rest spelled _ _ _ _ ih =>
      have := ih scanned
      simp only [List.length_cons]; omega

theorem scanWord_length {letters text rest : List Char}
    (scanned : scanWord letters text = some rest) : rest.length ≤ text.length := by
  fun_induction scanWord letters text with
  | case1 => simp_all
  | case2 => simp at scanned
  | case3 _ letters text ih =>
      have := ih scanned
      simp only [List.length_cons]; omega
  | case4 => simp at scanned

theorem scanToken_length {text rest : List Char} {token : Token}
    (scanned : scanToken text = some (token, rest)) : rest.length < text.length := by
  unfold scanToken at scanned
  split at scanned
  case h_1 => simp at scanned
  case h_2 | h_3 | h_4 | h_5 | h_6 | h_7 =>
    simp only [Option.some.injEq, Prod.mk.injEq] at scanned
    simp [scanned.2]
  case h_8 =>
    simp only [Option.map_eq_some_iff] at scanned
    obtain ⟨⟨content, after⟩, found, same⟩ := scanned
    simp only [Prod.mk.injEq] at same
    have := scanText_length found
    simp only [List.length_cons, ← same.2]; omega
  case h_9 | h_10 | h_11 =>
    simp only [Option.map_eq_some_iff, Prod.mk.injEq] at scanned
    obtain ⟨after, found, _, same⟩ := scanned
    have := scanWord_length found
    simp only [List.length_cons, ← same]; omega
  case h_12 =>
    simp only [Option.map_eq_some_iff] at scanned
    obtain ⟨⟨numeral, after⟩, found, same⟩ := scanned
    simp only [Prod.mk.injEq] at same
    rw [← same.2]
    exact Numeral.scan_length found

/-- The tokens of a text, the last one `bad` where the text goes on with none. -/
def tokens (text : List Char) : List Token :=
  match text with
  | [] => []
  | c :: rest =>
      if isGap c then tokens rest
      else
        match _scanned : scanToken (c :: rest) with
        | none => [.bad]
        | some (token, after) => token :: tokens after
termination_by text.length
decreasing_by
  · simp
  · exact scanToken_length (by assumption)

end VectorSearch.Json
