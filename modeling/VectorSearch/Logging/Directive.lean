import VectorSearch.Logging.Pattern
import VectorSearch.Number.Spelled
import VectorSearch.Settings.Basic

namespace VectorSearch.Logging

open Number Text

/-- A field that an event must have, perhaps with a value of its own. -/
structure FieldCondition where
  name : String
  valued : Bool
deriving DecidableEq, Repr

/-- No level at all lets nothing through. -/
structure Directive where
  target : Option String
  span : Option String
  field : Option FieldCondition
  level : Option LogLevel
deriving DecidableEq, Repr

/-- The more, the less severe. -/
def verbosity : LogLevel → Nat
  | .error => 1
  | .warn => 2
  | .info => 3
  | .debug => 4
  | .trace => 5

def admits (limit : Option LogLevel) (level : LogLevel) : Bool :=
  limit.any fun limit => verbosity level ≤ verbosity limit

/-- A level by its name, in letters of either case, or by its verbosity. -/
def limit? (text : List Char) : Option (Option LogLevel) :=
  match spelledNatural? text with
  | some 0 => some none
  | some n => (LogLevel.all.find? (verbosity · == n)).map some
  | none =>
      match String.ofList (text.map Char.toLower) with
      | "off" => some none
      | name => (LogLevel.ofName? name).map some

namespace Directive

/-- The text from some byte on, unless that is inside a character. -/
def dropBytes? : Nat → List Char → Option (List Char)
  | 0, text => some text
  | _, [] => none
  | count, c :: rest => if count < c.utf8Size then none else dropBytes? (count - c.utf8Size) rest

/-- As many bytes of a text, unless they end inside a character. -/
def takeBytes? (count : Nat) (text : List Char) : Option (List Char) := do
  let after ← dropBytes? count text
  return text.take (text.length - after.length)

/-- How many bytes a text has. -/
def size (text : List Char) : Nat :=
  text.foldr (fun c size => c.utf8Size + size) 0

/-- The part of a text between two places. -/
def part? (text : List Char) (start stop : Nat) : Option (List Char) :=
  (dropBytes? start text).bind (takeBytes? (stop - start))

/-- The level from some place on, at which `rest` is left of the form. It may be left out. -/
def levelPart? (text : List Char) (start : Nat) : List Char → Option (Option LogLevel)
  | [] => some (some .trace)
  | '=' :: _ =>
      match dropBytes? (start + 1) text with
      | none => none
      | some [] => some (some .trace)
      | some level => limit? level
  | _ => none

/-- A value that a field can be compared with: a number or a pattern. -/
def isValue (text : List Char) : Bool :=
  (spelledDouble? text).isSome || Pattern.isWellFormed text

/-- The condition on a field: its name and perhaps a value, which ends where another one would
start. -/
def condition? (text : List Char) : Option FieldCondition :=
  match text.splitOn '=' with
  | [] => none
  | [name] => if name.isEmpty then none else some ⟨String.ofList name, false⟩
  | name :: value :: _ => if isValue value then some ⟨String.ofList name, true⟩ else none

/-- A directive from what follows its bracket, which `rest` is of the form. -/
def spanPart? (text : List Char) (target : Option String) (start : Nat) (rest : List Char) :
    Option Directive := do
  let name := rest.takeWhile fun c => c ≠ ']' && c ≠ '\x7b'
  let stop := start + size name
  let span ← part? text start stop
  match rest.drop name.length with
  | ']' :: rest =>
      return ⟨target, some (String.ofList span), none, ← levelPart? text (stop + 1) rest⟩
  | '\x7b' :: rest =>
      let field := rest.takeWhile (· ≠ '\x7d')
      let fieldStop := stop + 1 + size field
      match rest.drop field.length with
      | '\x7d' :: ']' :: rest =>
          let condition ← condition? (← part? text (stop + 1) fieldStop)
          let level ← levelPart? text (fieldStop + 2) rest
          return ⟨target, if span.isEmpty then none else some (String.ofList span), condition, level⟩
      | _ => none
  | _ => none

/-- What a directive may begin with, but for a bracket. -/
def startsName (c : Char) : Bool :=
  "-:_".toList.contains c || isAlphanumeric c

/-- A word alone: a level, or else a target of which everything is let through. -/
def ofWord (word : List Char) : Directive :=
  match limit? word with
  | some level => ⟨none, none, none, level⟩
  | none => ⟨some (String.ofList word), none, none, some .trace⟩

def parse? (text : List Char) : Option Directive :=
  match dropEndWhile isBlank (text.dropWhile isBlank) with
  | [] => none
  | '[' :: rest => spanPart? text none 1 rest
  | c :: rest =>
      if !startsName c then none
      else
        let name := c :: rest.takeWhile fun c => c ≠ '=' && c ≠ '['
        match (c :: rest).drop name.length with
        | [] => some (ofWord text)
        | '[' :: rest => do
            let target ← takeBytes? (size name) text
            spanPart? text (some (String.ofList target)) (size name + 1) rest
        | rest => do
            let target ← takeBytes? (size name) text
            return ⟨some (String.ofList target), none, none, ← levelPart? text (size name) rest⟩

/-- Says something about what happens inside spans. -/
def isScoped (directive : Directive) : Bool :=
  directive.span.isSome || directive.field.isSome

/-- Says something about what happens anywhere. -/
def isFree (directive : Directive) : Bool :=
  directive.span.isNone && directive.field.all (!·.valued)

end Directive

end VectorSearch.Logging
