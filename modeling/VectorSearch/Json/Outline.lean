import VectorSearch.Json.Token
import VectorSearch.Json.Value

namespace VectorSearch.Json

open Number

/-! What a JSON text says, as far as it is well formed.

An `Outline` is built from the tokens of a text and never fails: where the text stops being
JSON, the arrays and objects that are open there stay unclosed. A reader that walks an
outline in order can therefore tell which comes first, a value of the wrong kind or the
place where the text breaks off. Strings and numerals are kept as spelled, because one that
is skipped over may denote nothing.
-/

inductive Outline where
  | missing
  | null
  | bool (value : Bool)
  | number (numeral : Numeral)
  | text (content : Option String)
  | items (held : List Outline) (closed : Bool)
  | members (held : List (Option String × Outline)) (closed : Bool)
deriving Inhabited

/-- An array or object that is still open, what it holds the last first. -/
inductive Frame where
  | items (held : List Outline)
  | members (held : List (Option String × Outline))
  | member (held : List (Option String × Outline)) (key : Option String)

/-- What may come next inside the innermost open array or object. -/
inductive Expected where
  | value
  | firstValue
  | key
  | firstKey
  | colon
  | separator
deriving DecidableEq, Repr

/-- A text under construction, or the one value of a text and whether nothing follows it. -/
inductive Builder where
  | within (expected : Expected) (frames : List Frame)
  | done (value : Outline) (alone : Bool)

namespace Builder

def start : Builder := .within .value []

/-- Closes nothing and adds nothing: the outline of a text that breaks off. -/
def abandon : List Frame → Option Outline → Outline
  | [], value => value.getD .missing
  | .items held :: frames, value => abandon frames (some (.items (value.toList ++ held).reverse false))
  | .members held :: frames, _ => abandon frames (some (.members held.reverse false))
  | .member held key :: frames, value =>
      abandon frames (some (.members ((key, value.getD .missing) :: held).reverse false))

/-- Puts a whole value where one was expected. -/
def supply (value : Outline) : List Frame → Builder
  | [] => .done value true
  | .items held :: frames => .within .separator (.items (value :: held) :: frames)
  | .member held key :: frames => .within .separator (.members ((key, value) :: held) :: frames)
  | .members held :: frames => .done (abandon (.members held :: frames) none) false

/-- A token that no text can have here. -/
def refuse (frames : List Frame) : Builder :=
  .done (abandon frames none) false

/-- The first token of a value. -/
def open? (token : Token) (frames : List Frame) : Option Builder :=
  match token with
  | .openArray => some (.within .firstValue (.items [] :: frames))
  | .openObject => some (.within .firstKey (.members [] :: frames))
  | .null => some (supply .null frames)
  | .bool value => some (supply (.bool value) frames)
  | .number numeral => some (supply (.number numeral) frames)
  | .text content => some (supply (.text content) frames)
  | _ => none

def step (builder : Builder) (token : Token) : Builder :=
  match builder with
  | .done value _ => .done value false
  | .within expected frames =>
      match expected, token, frames with
      | .firstValue, .closeArray, .items held :: frames => supply (.items held.reverse true) frames
      | .firstKey, .closeObject, .members held :: frames => supply (.members held.reverse true) frames
      | .separator, .closeArray, .items held :: frames => supply (.items held.reverse true) frames
      | .separator, .closeObject, .members held :: frames => supply (.members held.reverse true) frames
      | .separator, .comma, .items held :: frames => .within .value (.items held :: frames)
      | .separator, .comma, .members held :: frames => .within .key (.members held :: frames)
      | .firstKey, .text key, .members held :: frames => .within .colon (.member held key :: frames)
      | .key, .text key, .members held :: frames => .within .colon (.member held key :: frames)
      | .colon, .colon, frames => .within .value frames
      | .value, token, frames => (open? token frames).getD (refuse frames)
      | .firstValue, token, frames => (open? token frames).getD (refuse frames)
      | _, _, frames => refuse frames

/-- The outline, and whether it is the whole of a well-formed text. -/
def finish : Builder → Outline × Bool
  | .within _ frames => (abandon frames none, false)
  | .done value alone => (value, alone)

end Builder

/-- The outline of a text, and whether it is the whole of a well-formed text. -/
def outline (text : String) : Outline × Bool :=
  ((tokens text.toList).foldl Builder.step .start).finish

/-- Why a text was not read: it is no JSON text, or its value has another shape. -/
inductive Refusal where
  | malformed
  | mismatch
deriving DecidableEq, Repr

namespace Outline

mutual

/-- Free of breaks; what strings and numerals denote is not asked. -/
def wellFormed : Outline → Bool
  | .missing => false
  | .items held closed => wellFormedItems held && closed
  | .members held closed => wellFormedMembers held && closed
  | _ => true

def wellFormedItems : List Outline → Bool
  | [] => true
  | item :: rest => item.wellFormed && wellFormedItems rest

def wellFormedMembers : List (Option String × Outline) → Bool
  | [] => true
  | (_, value) :: rest => value.wellFormed && wellFormedMembers rest

end

mutual

/-- The value, with at most `depth` arrays and objects around one another. -/
def value (depth : Nat) : Outline → Except Refusal Json
  | .missing => .error .malformed
  | .null => .ok .null
  | .bool value => .ok (.bool value)
  | .number numeral =>
      match numeral.read? with
      | some (.int n) => .ok (.int n)
      | some (.float x) => .ok (.float x)
      | none => .error .malformed
  | .text none => .error .malformed
  | .text (some content) => .ok (.str content)
  | .items held closed =>
      match depth with
      | 0 => .error .malformed
      | depth + 1 => do
          let values ← itemValues depth held
          if closed then .ok (.arr values) else .error .malformed
  | .members held closed =>
      match depth with
      | 0 => .error .malformed
      | depth + 1 => do
          let values ← memberValues depth held
          if closed then .ok (.obj values) else .error .malformed

def itemValues (depth : Nat) : List Outline → Except Refusal (List Json)
  | [] => .ok []
  | item :: rest => do return (← item.value depth) :: (← itemValues depth rest)

def memberValues (depth : Nat) : List (Option String × Outline) → Except Refusal (List (String × Json))
  | [] => .ok []
  | (none, _) :: _ => .error .malformed
  | (some key, value) :: rest => do
      return (key, ← value.value depth) :: (← memberValues depth rest)

end

end Outline

/-- How many arrays and objects a text may nest. -/
def depthLimit : Nat := 127

/-- Reads a text by a reader of outlines. What the reader refuses comes before a text that
does not end where its value does. -/
def readWith (reader : Nat → Outline → Except Refusal α) (text : String) : Except Refusal α := do
  let (outline, alone) := outline text
  let result ← reader depthLimit outline
  if alone then .ok result else .error .malformed

def parse (text : String) : Except Refusal Json :=
  readWith Outline.value text

end VectorSearch.Json
