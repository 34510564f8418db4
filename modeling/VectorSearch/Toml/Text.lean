import VectorSearch.Text.Hexadecimal

namespace VectorSearch.Toml

open Text

/-- A control character, other than a tab, stands nowhere as it is. -/
def isForbidden (c : Char) : Bool :=
  (c < ' ' && c ≠ '\t') || c.toNat == 0x7f

/-- The character for a letter after a backslash. -/
def unescape? (c : Char) : Option Char :=
  match c with
  | 'b' => some '\x08'
  | 't' => some '\t'
  | 'n' => some '\n'
  | 'f' => some '\x0c'
  | 'r' => some '\r'
  | 'e' => some '\x1b'
  | '"' => some '"'
  | '\\' => some '\\'
  | _ => none

/-- Reads an escaped string up to its closing quote. -/
def basic : List Char → List Char → Option (List Char × List Char)
  | [], _ => none
  | '"' :: rest, done => some (done.reverse, rest)
  | '\\' :: 'x' :: a :: b :: rest, done => do basic rest ((← hexChar? [a, b]) :: done)
  | '\\' :: 'u' :: a :: b :: c :: d :: rest, done => do
      basic rest ((← hexChar? [a, b, c, d]) :: done)
  | '\\' :: 'U' :: a :: b :: c :: d :: e :: f :: g :: h :: rest, done => do
      basic rest ((← hexChar? [a, b, c, d, e, f, g, h]) :: done)
  | '\\' :: c :: rest, done => do basic rest ((← unescape? c) :: done)
  | c :: rest, done => if c = '\\' ∨ isForbidden c then none else basic rest (c :: done)

/-- Reads a literal string up to its closing quote. -/
def literal : List Char → List Char → Option (List Char × List Char)
  | [], _ => none
  | c :: rest, done =>
      if c = '\'' then some (done.reverse, rest)
      else if isForbidden c then none
      else literal rest (c :: done)

/-- A line break, bare or after a carriage return, comes next. -/
def atLineBreak : List Char → Bool
  | '\n' :: _ => true
  | '\r' :: '\n' :: _ => true
  | _ => false

/-- A string on several lines starts after a line break that follows its quotes. -/
def afterLineBreak : List Char → List Char
  | '\n' :: rest => rest
  | '\r' :: '\n' :: rest => rest
  | rest => rest

def isSpace (c : Char) : Bool :=
  c == ' ' || c == '\t'

/-- May stand as it is in a string on several lines, given what follows it. -/
def standsInLines (c : Char) (rest : List Char) : Bool :=
  c == '\n' || (c == '\r' && rest.head? == some '\n') || !isForbidden c

/-- Reads an escaped string on several lines up to its three closing quotes, before which
one or two may stand that belong to it. While `skip`, blanks and line breaks are dropped; a
backslash at the end of a line starts that. -/
def basicLines (skip : Bool) : List Char → List Char → Option (List Char × List Char)
  | [], _ => none
  | '"' :: '"' :: '"' :: '"' :: '"' :: rest, done => some (('"' :: '"' :: done).reverse, rest)
  | '"' :: '"' :: '"' :: '"' :: rest, done => some (('"' :: done).reverse, rest)
  | '"' :: '"' :: '"' :: rest, done => some (done.reverse, rest)
  | '\\' :: 'x' :: a :: b :: rest, done => do basicLines false rest ((← hexChar? [a, b]) :: done)
  | '\\' :: 'u' :: a :: b :: c :: d :: rest, done => do
      basicLines false rest ((← hexChar? [a, b, c, d]) :: done)
  | '\\' :: 'U' :: a :: b :: c :: d :: e :: f :: g :: h :: rest, done => do
      basicLines false rest ((← hexChar? [a, b, c, d, e, f, g, h]) :: done)
  | '\\' :: c :: rest, done =>
      if atLineBreak ((c :: rest).dropWhile isSpace) then basicLines true (c :: rest) done
      else do basicLines false rest ((← unescape? c) :: done)
  | c :: rest, done =>
      if skip && (isSpace c || atLineBreak (c :: rest)) then basicLines true rest done
      else if c = '\\' ∨ !standsInLines c rest then none
      else basicLines false rest (c :: done)

def literalLines : List Char → List Char → Option (List Char × List Char)
  | [], _ => none
  | '\'' :: '\'' :: '\'' :: '\'' :: '\'' :: rest, done => some (('\'' :: '\'' :: done).reverse, rest)
  | '\'' :: '\'' :: '\'' :: '\'' :: rest, done => some (('\'' :: done).reverse, rest)
  | '\'' :: '\'' :: '\'' :: rest, done => some (done.reverse, rest)
  | c :: rest, done => if standsInLines c rest then literalLines rest (c :: done) else none

/-- Reads a quoted string on one line, from its opening quote on. -/
def quoted? : List Char → Option (List Char × List Char)
  | '"' :: rest => basic rest []
  | '\'' :: rest => literal rest []
  | _ => none

/-- Reads any quoted string, from its opening quotes on. -/
def string? : List Char → Option (List Char × List Char)
  | '"' :: '"' :: '"' :: rest => basicLines false (afterLineBreak rest) []
  | '\'' :: '\'' :: '\'' :: rest => literalLines (afterLineBreak rest) []
  | text => quoted? text

end VectorSearch.Toml
