import VectorSearch.Toml.Scalar
import VectorSearch.Toml.Text
import VectorSearch.Toml.Tree

namespace VectorSearch.Toml

/-- Drops blanks, line breaks and comments; nothing when one of them is malformed. -/
def skipGap (comment : Bool) : List Char → Option (List Char)
  | [] => some []
  | c :: rest =>
      if comment then
        if c = '\n' then skipGap false rest
        else if c = '\r' then (if rest.head? = some '\n' then skipGap true rest else none)
        else if isForbidden c then none
        else skipGap true rest
      else if isSpace c || c == '\n' then skipGap false rest
      else if c = '\r' then (if rest.head? = some '\n' then skipGap false rest else none)
      else if c = '#' then skipGap true rest
      else some (c :: rest)

/-- The end of a statement: blanks, perhaps a comment, and a line break or the end. -/
def endLine (text : List Char) : Option (List Char) :=
  match text.dropWhile isSpace with
  | [] => some []
  | '#' :: rest => skipGap true rest
  | rest => if atLineBreak rest then skipGap false rest else none

def isBareKeyChar (c : Char) : Bool :=
  c.isAlphanum || c == '_' || c == '-'

/-- One part of a key, bare or quoted. -/
def keyPart? (text : List Char) : Option (String × List Char) :=
  match text with
  | '"' :: _ => (quoted? text).map fun (key, rest) => (String.ofList key, rest)
  | '\'' :: _ => (quoted? text).map fun (key, rest) => (String.ofList key, rest)
  | text =>
      let key := text.takeWhile isBareKeyChar
      if key.isEmpty then none else some (String.ofList key, text.dropWhile isBareKeyChar)

/-- A key: parts with dots between them and blanks around. -/
def key? : Nat → List Char → Option (List String × List Char)
  | 0, _ => none
  | fuel + 1, text => do
      let (part, rest) ← keyPart? (text.dropWhile isSpace)
      match rest.dropWhile isSpace with
      | '.' :: rest => do
          let (parts, rest) ← key? fuel rest
          return (part :: parts, rest)
      | rest => return ([part], rest)

def isScalarChar (c : Char) : Bool :=
  c.isAlphanum || c == '_' || c == '-' || c == '+' || c == '.' || c == ':'

/-- The extent of an unquoted value; a time may follow a date after one space. -/
def scalarText (text : List Char) : List Char × List Char :=
  let first := text.takeWhile isScalarChar
  match text.dropWhile isScalarChar with
  | ' ' :: d :: rest =>
      if isDate first && d.isDigit then
        (first ++ ' ' :: (d :: rest).takeWhile isScalarChar, (d :: rest).dropWhile isScalarChar)
      else (first, ' ' :: d :: rest)
  | rest => (first, rest)

mutual

/-- Reads a value. The fuel bounds the work on it, brackets and items alike. -/
def value? : Nat → List Char → Option (Json × List Char)
  | 0, _ => none
  | fuel + 1, text =>
      match text with
      | '[' :: rest => items? fuel rest []
      | '{' :: rest => members? fuel rest []
      | '"' :: _ => (string? text).map fun (content, rest) => (.str (String.ofList content), rest)
      | '\'' :: _ => (string? text).map fun (content, rest) => (.str (String.ofList content), rest)
      | text => do
          let (scalar, rest) := scalarText text
          return (← scalar? scalar, rest)

/-- Reads the items of an array up to its bracket; `done` holds those read, the last first. -/
def items? : Nat → List Char → List Json → Option (Json × List Char)
  | 0, _, _ => none
  | fuel + 1, text, done => do
      match ← skipGap false text with
      | ']' :: rest => return (.arr done.reverse, rest)
      | text => do
          let (value, rest) ← value? fuel text
          match ← skipGap false rest with
          | ',' :: rest => items? fuel rest (value :: done)
          | ']' :: rest => return (.arr (value :: done).reverse, rest)
          | _ => none

/-- Reads the members of an inline table up to its brace. -/
def members? : Nat → List Char → Entries → Option (Json × List Char)
  | 0, _, _ => none
  | fuel + 1, text, done => do
      match ← skipGap false text with
      | '}' :: rest => return (.obj (entriesMembers done), rest)
      | text => do
          let (key, rest) ← key? fuel text
          match rest with
          | '=' :: rest => do
              let (value, rest) ← value? fuel (rest.dropWhile isSpace)
              let done ← Entries.putAt key value done
              match ← skipGap false rest with
              | ',' :: rest => members? fuel rest done
              | '}' :: rest => return (.obj (entriesMembers done), rest)
              | _ => none
          | _ => none

end

/-- A document as far as it has been read, and the table opened last. -/
structure Draft where
  entries : Entries
  path : List String

def statement? (fuel : Nat) (draft : Draft) (text : List Char) : Option (Draft × List Char) := do
  match text with
  | '[' :: '[' :: rest => do
      let (path, rest) ← key? fuel rest
      match rest with
      | ']' :: ']' :: rest => return (⟨← draft.entries.addTable path, path⟩, ← endLine rest)
      | _ => none
  | '[' :: rest => do
      let (path, rest) ← key? fuel rest
      match rest with
      | ']' :: rest => return (⟨← draft.entries.openTable path, path⟩, ← endLine rest)
      | _ => none
  | text => do
      let (key, rest) ← key? fuel text
      match rest with
      | '=' :: rest => do
          let (value, rest) ← value? fuel (rest.dropWhile isSpace)
          let entries ← draft.entries.update false (Entries.putAt key value) draft.path
          return (⟨entries, draft.path⟩, ← endLine rest)
      | _ => none

/-- Reads statements to the end, at most `fuel` of them. -/
def statements? : Nat → Draft → List Char → Option Draft
  | _, draft, [] => some draft
  | 0, _, _ => none
  | fuel + 1, draft, text => do
      let (draft, rest) ← statement? (2 * text.length + 2) draft text
      statements? fuel draft (← skipGap false rest)

/-- The object that a document stands for. A byte order mark may precede it. -/
def parse? (text : String) : Option Json := do
  let chars := match text.toList with
    | '\uFEFF' :: rest => rest
    | chars => chars
  let draft ← statements? chars.length ⟨[], []⟩ (← skipGap false chars)
  return .obj (entriesMembers draft.entries)

end VectorSearch.Toml
