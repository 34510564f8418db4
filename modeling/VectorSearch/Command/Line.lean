import VectorSearch.Number.Spelled

namespace VectorSearch

open Number

/-! The command line: words and what they ask for.

Words are taken from left to right, and the first one that has no place, or that asks for
help, ends the reading. An option takes the next word for its value, unless that begins with
a dash, or the rest of its own word. After a bare double dash no word is an option.
-/

inductive Command where
  | serve
  | add (file : String)
  | search (query : String) (filter : Option String) (topK : Option Nat) (threshold : Option Float)
  | filter (expression : String)
  | features

/-- A command and the file that holds the settings for it, if there is one. -/
structure Invocation where
  command : Command
  settings : Option String

/-- What ends the reading of a command line before there is a command. Help may be asked for
on one command. -/
inductive Ending where
  | usage
  | help (command : Option String)
  | version
deriving DecidableEq, Repr

namespace Command

/-- An option with a value of its own, named in one letter too where there is a short form. -/
structure Flag where
  name : String
  letter : Option Char
  required : Bool
  accepts : String → Bool
  about : String

/-- The options that the words of a command may hold, and the names of the other words. Without
a command, one of those starts it instead. -/
structure Grammar where
  command : Option String
  about : String
  flags : List Flag
  operands : List String

/-- Words sorted into the values of options, operands, and a command with its own words. -/
structure Sorted where
  values : List (String × String)
  operands : List String
  command : Option (String × List String)
deriving DecidableEq, Repr

def Sorted.empty : Sorted := ⟨[], [], none⟩

def Sorted.value? (sorted : Sorted) (name : String) : Option String :=
  (sorted.values.find? (·.1 == name)).map (·.2)

/-- What a word with a dash in front says. -/
inductive Dashed where
  | option (flag : Flag) (attached : Option (List Char))
  | ending (ending : Ending)

namespace Grammar

/-- The word without its two dashes: a name, and a value after an equals sign. -/
def longWord (grammar : Grammar) (word : List Char) : Dashed :=
  let name := String.ofList (word.takeWhile (· ≠ '='))
  let attached := match word.dropWhile (· ≠ '=') with
    | _ :: value => some value
    | [] => none
  match grammar.flags.find? (·.name == name) with
  | some flag => .option flag attached
  | none =>
      if attached.isSome then .ending .usage
      else if name = "help" then .ending (.help grammar.command)
      else if name = "version" && grammar.command.isNone then .ending .version
      else .ending .usage

/-- The word without its one dash: a letter, and a value behind it. -/
def shortWord (grammar : Grammar) (letter : Char) (rest : List Char) : Dashed :=
  match grammar.flags.find? (·.letter == some letter) with
  | some flag =>
      .option flag <| match rest with
        | [] => none
        | '=' :: value => some value
        | value => some value
  | none =>
      if letter = 'h' then .ending (.help grammar.command)
      else if letter = 'V' && grammar.command.isNone then .ending .version
      else .ending .usage

/-- Anything but a single dash that has one in front. -/
def dashed? (grammar : Grammar) (word : String) : Option Dashed :=
  match word.toList with
  | '-' :: '-' :: rest => some (grammar.longWord rest)
  | '-' :: letter :: rest => some (grammar.shortWord letter rest)
  | _ => none

/-- Gives an option its value, once. -/
def put (flag : Flag) (value : String) (sorted : Sorted) : Except Ending Sorted :=
  if (sorted.value? flag.name).isSome || !flag.accepts value then .error .usage
  else .ok { sorted with values := (flag.name, value) :: sorted.values }

def putOperand (grammar : Grammar) (word : String) (sorted : Sorted) : Except Ending Sorted :=
  if sorted.operands.length < grammar.operands.length then
    .ok { sorted with operands := sorted.operands ++ [word] }
  else .error .usage

def sort (grammar : Grammar) (sorted : Sorted) : List String → Except Ending Sorted
  | [] => .ok sorted
  | "--" :: rest => rest.foldlM (fun sorted word => grammar.putOperand word sorted) sorted
  | word :: rest =>
      match grammar.dashed? word, rest with
      | some (.ending ending), _ => .error ending
      | some (.option flag (some value)), rest => do
          grammar.sort (← put flag (String.ofList value) sorted) rest
      | some (.option _ none), [] => .error .usage
      | some (.option flag none), value :: rest =>
          if (grammar.dashed? value).isSome then .error .usage
          else do grammar.sort (← put flag value sorted) rest
      | none, rest =>
          if grammar.command.isNone then .ok { sorted with command := some (word, rest) }
          else do grammar.sort (← grammar.putOperand word sorted) rest

end Grammar

/-- Where the settings are; every command takes it. -/
def settingsFlag : Flag :=
  ⟨"config", some 'c', false, (· ≠ ""), "Path to config file (built-in defaults when omitted)"⟩

def fileFlag : Flag :=
  ⟨"file", some 'f', true, (· ≠ ""),
    "JSON array of documents: `[\x7b\"content\": \"...\", \"metadata\": \x7b...\x7d\x7d]`"⟩

def filterFlag : Flag :=
  ⟨"filter", none, false, fun _ => true, "Filter expression as JSON"⟩

def topKFlag : Flag :=
  ⟨"top-k", none, false, fun text => (spelledNatural? text.toList).isSome, ""⟩

def thresholdFlag : Flag :=
  ⟨"threshold", none, false, fun text => (spelledDouble? text.toList).isSome, ""⟩

/-- The words before a command. -/
def grammar : Grammar :=
  ⟨none, "Similake vector store client", [settingsFlag], []⟩

def grammars : List Grammar := [
  ⟨some "serve", "Start the HTTP API (default)", [settingsFlag], []⟩,
  ⟨some "add", "Embed and push documents from a JSON file", [settingsFlag, fileFlag], []⟩,
  ⟨some "search", "Run a similarity search and print results as JSON lines",
    [settingsFlag, filterFlag, topKFlag, thresholdFlag], ["QUERY"]⟩,
  ⟨some "filter", "Compile a JSON filter expression to a Similake query string", [settingsFlag],
    ["EXPRESSION"]⟩,
  ⟨some "features", "Show enabled compile-time features", [settingsFlag], []⟩]

def grammar? (name : String) : Option Grammar :=
  grammars.find? (·.command == some name)

/-- The command of a name, if its words hold all that it needs. -/
def ofSorted? (name : String) (sorted : Sorted) : Option Command :=
  match name, sorted.operands with
  | "serve", [] => some .serve
  | "add", [] => .add <$> sorted.value? "file"
  | "search", [query] =>
      some (.search query (sorted.value? "filter")
        ((sorted.value? "top-k").bind (spelledNatural? ·.toList))
        ((sorted.value? "threshold").bind (spelledDouble? ·.toList)))
  | "filter", [expression] => some (.filter expression)
  | "features", [] => some .features
  | _, _ => none

/-- Help may be asked for on one command, or on itself. -/
def helpEnding : List String → Ending
  | [] => .help none
  | [name] => if name = "help" || (grammar? name).isSome then .help (some name) else .usage
  | _ => .usage

end Command

namespace Invocation

/-- The settings that stand behind a command win over those before it. -/
def ofCommand (before : Option String) (name : String) (words : List String) :
    Except Ending Invocation :=
  match Command.grammar? name with
  | none => .error (if name = "help" then Command.helpEnding words else .usage)
  | some grammar => do
      let sorted ← grammar.sort .empty words
      match Command.ofSorted? name sorted with
      | some command => return ⟨command, (sorted.value? "config").or before⟩
      | none => .error .usage

/-- Reads a command line; no words at all ask for the server. -/
def ofWords (words : List String) : Except Ending Invocation := do
  let sorted ← Command.grammar.sort .empty words
  match sorted.command with
  | none => return ⟨.serve, sorted.value? "config"⟩
  | some (name, words) => ofCommand (sorted.value? "config") name words

end Invocation

end VectorSearch
