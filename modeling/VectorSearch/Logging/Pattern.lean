import VectorSearch.Text.Blank
import VectorSearch.Text.Hexadecimal
import VectorSearch.Text.Letter

namespace VectorSearch.Logging.Pattern

open Text

/-! Well-formed patterns for the values of fields.

A pattern is a regular expression that can be matched in one pass over UTF-8. So there are no
references back and no looking around. Unless Unicode is switched off, the edges of words are
none of its places; and once it is, no set may have members beyond ASCII. A repetition with a
count cannot be written, because a closing brace ends the field that the pattern stands in.
-/

/-- What changes how a pattern is read. -/
structure Mode where
  unicode : Bool
  /-- Blanks and comments are skipped. -/
  verbose : Bool
deriving DecidableEq, Repr

def Mode.start : Mode := ⟨true, false⟩

/-- Skips blanks and comments, each of which ends with its line, and what passes a test. -/
def skipWith (isExtra : Char → Bool) (inComment : Bool) : List Char → List Char
  | [] => []
  | c :: rest =>
      if inComment then skipWith isExtra (c ≠ '\n') rest
      else if isBlank c || isExtra c then skipWith isExtra false rest
      else if c = '#' then skipWith isExtra true rest
      else c :: rest

def Mode.skip (mode : Mode) (text : List Char) : List Char :=
  if mode.verbose then skipWith (fun _ => false) false text else text

def Mode.skipHyphens (mode : Mode) (text : List Char) : List Char :=
  if mode.verbose then skipWith (· == '-') false text else text.dropWhile (· == '-')

inductive Escape where
  | literal (c : Char)
  | set
  /-- A place in the text: the start, the end or the edge of a word. -/
  | place
deriving DecidableEq, Repr

/-- Hexadecimal digits, as many as are asked for. -/
def hexDigits? (mode : Mode) : Nat → List Char → Option (List Char × List Char)
  | 0, text => some ([], text)
  | count + 1, text =>
      match mode.skip text with
      | [] => none
      | digit :: rest => (hexDigits? mode count rest).map fun (digits, rest) => (digit :: digits, rest)

def codeEscape? (mode : Mode) (count : Nat) (text : List Char) : Option (Escape × List Char) := do
  let (digits, rest) ← hexDigits? mode count text
  return (.literal (← hexChar? digits), rest)

/-- A set by its Unicode property, of which those with one letter can be named. -/
def propertyEscape? (mode : Mode) (text : List Char) : Option (Escape × List Char) :=
  match mode.skip text with
  | letter :: rest =>
      if mode.unicode && "clmnpsz".toList.contains letter.toLower then some (.set, rest) else none
  | [] => none

/-- The escapes of one letter, and the characters that an escape leaves as they are. -/
def letterEscape? (mode : Mode) (c : Char) : Option Escape :=
  if "dsw".toList.contains c then some .set
  else if "DSW".toList.contains c then if mode.unicode then some .set else none
  else if "bB<>".toList.contains c then if mode.unicode then none else some .place
  else if "Az".toList.contains c then some .place
  else if "afntrv".toList.contains c then some (.literal c)
  else if c.toNat < 0x80 && !c.isAlphanum then some (.literal c)
  else none

/-- An escape after its backslash. Without Unicode, two digits name an octet, and those beyond
ASCII are no characters. -/
def escape? (mode : Mode) : List Char → Option (Escape × List Char)
  | [] => none
  | 'x' :: rest => (codeEscape? mode 2 rest).filter fun (escape, _) =>
      match escape with
      | .literal c => mode.unicode || c.toNat < 0x80
      | _ => true
  | 'u' :: rest => codeEscape? mode 4 rest
  | 'U' :: rest => codeEscape? mode 8 rest
  | c :: rest =>
      if c = 'p' ∨ c = 'P' then propertyEscape? mode rest
      else (letterEscape? mode c).map (·, rest)

def setNames : List String :=
  ["alnum", "alpha", "ascii", "blank", "cntrl", "digit", "graph", "lower", "print", "punct",
    "space", "upper", "word", "xdigit"]

/-- A set by its name between colons, after the first bracket: whether it is turned around, and
what follows its last bracket. -/
def namedSet? : List Char → Option (Bool × List Char)
  | ':' :: rest =>
      let (negated, rest) := match rest with
        | '^' :: rest => (true, rest)
        | rest => (false, rest)
      let name := rest.takeWhile (· ≠ ':')
      match rest.drop name.length with
      | ':' :: ']' :: rest =>
          if setNames.contains (String.ofList name) then some (negated, rest) else none
      | _ => none
  | _ => none

/-- The start of a set after its bracket. Hyphens there, or else a bracket, are members; a set
that is turned around has members beyond ASCII. -/
def afterOpening? (mode : Mode) (text : List Char) : Option (List Char) :=
  let (negated, members) := match mode.skip text with
    | '^' :: rest => (true, mode.skip rest)
    | rest => (false, rest)
  if negated && !mode.unicode then none
  else
    match members with
    | ']' :: rest => some rest
    | members => some (mode.skipHyphens members)

/-- A member of a set: a character, or else a set. -/
def member? (mode : Mode) (text : List Char) : Option (Option Char × List Char) :=
  match text with
  | [] => none
  | '\\' :: rest =>
      match escape? mode rest with
      | some (.literal c, rest) =>
          if mode.unicode || c.toNat < 0x80 then some (some c, rest) else none
      | some (.set, rest) => some (none, rest)
      | _ => none
  | c :: rest => if mode.unicode || c.toNat < 0x80 then some (some c, rest) else none

/-- A hyphen stands for itself before a closing bracket and before another hyphen. Looking
that far goes past blanks, but into a comment. -/
def isMemberHyphen (mode : Mode) (after : List Char) : Bool :=
  let after :=
    if mode.verbose then
      match after.dropWhile isBlank with
      | '#' :: comment => comment.dropWhile isBlank
      | after => after
    else after
  after.head?.any fun c => c == ']' || c == '-'

/-- What follows the end of a set, `depth` of whose sets are open inside it. Every step takes
at least one character, so as many steps as there are characters are enough. -/
def afterSet? (mode : Mode) : Nat → Nat → List Char → Option (List Char)
  | 0, _, _ => none
  | steps + 1, depth, text =>
      match mode.skip text with
      | [] => none
      | ']' :: rest =>
          match depth with
          | 0 => some rest
          | depth + 1 => afterSet? mode steps depth rest
      | '[' :: rest =>
          match namedSet? rest with
          | some (negated, rest) =>
              if negated && !mode.unicode then none else afterSet? mode steps depth rest
          | none => (afterOpening? mode rest).bind (afterSet? mode steps (depth + 1))
      | '&' :: '&' :: rest => afterSet? mode steps depth rest
      | '-' :: '-' :: rest => afterSet? mode steps depth rest
      | '~' :: '~' :: rest => afterSet? mode steps depth rest
      | text => do
          let (first, rest) ← member? mode text
          match mode.skip rest with
          | '-' :: after =>
              if isMemberHyphen mode after then afterSet? mode steps depth ('-' :: after)
              else
                let (last, rest) ← member? mode (mode.skip after)
                if (← first) ≤ (← last) then afterSet? mode steps depth rest else none
          | rest => afterSet? mode steps depth rest

/-- Flags, some of them perhaps after a hyphen that switches them off. None is given twice. -/
def areFlags (flags : List Char) : Bool :=
  flags.all (fun c => "imsUuRx-".toList.contains c) && flags.eraseDups.length == flags.length &&
    flags.getLast? ≠ some '-'

/-- The state of a flag after others were set. -/
def setFlag (flags : List Char) (flag : Char) (before : Bool) : Bool :=
  if flags.contains flag then (flags.takeWhile (· ≠ '-')).contains flag else before

def Mode.set (mode : Mode) (flags : List Char) : Mode :=
  ⟨setFlag flags 'u' mode.unicode, setFlag flags 'x' mode.verbose⟩

def isGroupName : List Char → Bool
  | [] => false
  | first :: rest =>
      (first == '_' || isAlphabetic first) &&
        rest.all fun c => "_.[]".toList.contains c || isAlphanumeric c

/-- What stands after an opening parenthesis. -/
inductive Opening where
  | group (name : Option (List Char)) (mode : Mode)
  /-- No group, but another mode for what is left of the one around it. -/
  | flags (mode : Mode)
deriving DecidableEq, Repr

def namedGroup? (mode : Mode) (text : List Char) : Option (Opening × List Char) :=
  let name := text.takeWhile (· ≠ '>')
  match text.drop name.length with
  | _ :: rest => if isGroupName name then some (.group (some name) mode, rest) else none
  | [] => none

def opening? (mode : Mode) (text : List Char) : Option (Opening × List Char) :=
  match mode.skip text with
  | '?' :: 'P' :: '<' :: rest => namedGroup? mode rest
  | '?' :: '<' :: rest => namedGroup? mode rest
  | '?' :: rest =>
      let flags := rest.takeWhile fun c => c ≠ ':' && c ≠ ')'
      if !areFlags flags then none
      else
        match rest.drop flags.length with
        | ':' :: rest => some (.group none (mode.set flags), rest)
        | _ :: rest => if flags.isEmpty then none else some (.flags (mode.set flags), rest)
        | [] => none
  | rest => some (.group none mode, rest)

/-- How far a pattern has been read: the modes around the groups that are open, the names of
groups, and whether what was read last can be repeated. -/
structure State where
  mode : Mode
  outer : List Mode
  names : List (List Char)
  repeatable : Bool

def State.afterItem (state : State) : State :=
  { state with repeatable := true }

/-- Goes into a group, whose name must be new. -/
def State.enter? (state : State) : Opening → Option State
  | .flags mode => some { state with mode, repeatable := false }
  | .group name mode =>
      if name.any state.names.contains then none
      else some ⟨mode, state.mode :: state.outer, name.toList ++ state.names, false⟩

/-- Well-formed from some state on. Every step takes at least one character. -/
def isWellFormedFrom : Nat → State → List Char → Bool
  | 0, _, _ => false
  | steps + 1, state, text =>
      match state.mode.skip text with
      | [] => state.outer.isEmpty
      | '(' :: rest =>
          match opening? state.mode rest with
          | none => false
          | some (opening, rest) =>
              (state.enter? opening).any fun state => isWellFormedFrom steps state rest
      | ')' :: rest =>
          match state.outer with
          | [] => false
          | mode :: outer =>
              isWellFormedFrom steps { state with mode, outer, repeatable := true } rest
      | '|' :: rest => isWellFormedFrom steps { state with repeatable := false } rest
      | '[' :: rest =>
          (((afterOpening? state.mode rest).bind (afterSet? state.mode steps 0))).any
            (isWellFormedFrom steps state.afterItem)
      | '\x7b' :: _ => false
      | '\\' :: rest =>
          (escape? state.mode rest).any fun (_, rest) => isWellFormedFrom steps state.afterItem rest
      | '.' :: rest => state.mode.unicode && isWellFormedFrom steps state.afterItem rest
      | c :: rest =>
          (state.repeatable || !"?*+".toList.contains c) &&
            isWellFormedFrom steps state.afterItem rest

/-- A regular expression that can be matched. -/
def isWellFormed (text : List Char) : Bool :=
  isWellFormedFrom (text.length + 1) ⟨.start, [], [], false⟩ text

end VectorSearch.Logging.Pattern
