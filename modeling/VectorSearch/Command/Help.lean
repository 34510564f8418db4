import VectorSearch.Command.Line

namespace VectorSearch.Command

/-- A name followed by blanks, at least as wide as said. -/
def padded (width : Nat) (name : String) : String :=
  name ++ String.ofList (List.replicate (width - name.length) ' ')

/-- The name that stands for the value of an option. -/
def Flag.placeholder (flag : Flag) : String :=
  "<" ++ flag.name.map (fun c => if c = '-' then '_' else c.toUpper) ++ ">"

/-- An option by its name, with its value. -/
def Flag.long (flag : Flag) : String :=
  "--" ++ flag.name ++ " " ++ flag.placeholder

/-- An option by its letter, or as many blanks, and then by its name. -/
def optionEntry (letter : Option Char) (long : String) : String :=
  (match letter with
    | some letter => String.ofList ['-', letter, ',', ' ']
    | none => "    ") ++ long

/-- A section: a heading and entries with texts beside them; nothing without entries. -/
def helpSection (heading : String) (entries : List (String × String)) : List String :=
  let width := (entries.map (·.1.length)).foldl max 0
  if entries.isEmpty then []
  else ["", heading] ++ entries.map fun (name, about) => "  " ++ padded (width + 2) name ++ about

/-- The words that a command line is made of. -/
def Grammar.usage (grammar : Grammar) : String :=
  " ".intercalate (["Usage: similake"] ++ grammar.command.toList ++ ["[OPTIONS]"] ++
    (grammar.flags.filter (·.required)).map Flag.long ++
    grammar.operands.map (fun name => "<" ++ name ++ ">") ++
    (if grammar.command.isNone then ["[COMMAND]"] else []))

def helpAbout : String := "Print this message or the help of the given subcommand(s)"

/-- The commands, help among them. -/
def commandEntries : List (String × String) :=
  (grammars.map fun grammar => (grammar.command.getD "", grammar.about)) ++ [("help", helpAbout)]

def Grammar.optionEntries (grammar : Grammar) : List (String × String) :=
  (grammar.flags.map fun flag => (optionEntry flag.letter flag.long, flag.about)) ++
    [(optionEntry (some 'h') "--help", "Print help")] ++
    (if grammar.command.isNone then [(optionEntry (some 'V') "--version", "Print version")] else [])

/-- All about a command, or about the program. -/
def Grammar.helpLines (grammar : Grammar) : List String :=
  [grammar.about, "", grammar.usage] ++
    helpSection "Commands:" (if grammar.command.isNone then commandEntries else []) ++
    helpSection "Arguments:" (grammar.operands.map fun name => ("<" ++ name ++ ">", "")) ++
    helpSection "Options:" grammar.optionEntries

/-- What is said where help was asked for, perhaps on a command or on help itself. -/
def helpLines (name : Option String) : List String :=
  if name = some "help" then
    [helpAbout, "", "Usage: similake help [COMMAND]..."] ++
      helpSection "Arguments:" [("[COMMAND]...", "Print help for the subcommand(s)")]
  else ((name.bind grammar?).getD grammar).helpLines

end VectorSearch.Command
