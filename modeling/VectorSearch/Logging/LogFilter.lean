import VectorSearch.Json.Value
import VectorSearch.Logging.Directive

namespace VectorSearch.Logging

/-! Log filters and the lines that get through them.

Of the directives that apply to an event, the most specific one decides: the one with the
longest target, then one with a field, and of equals the later one. Where none applies,
nothing is let through. A directive with a span adds to that what happens inside the span.
-/

/-- What is logged; the first field is the message. -/
structure Event where
  target : String
  level : LogLevel
  fields : List (String × Json)

/-- A span that an event happens in. It has no fields. -/
structure Span where
  name : String
  target : String
  level : LogLevel
deriving DecidableEq, Repr

/-- What a filter is asked about. Directives with a field are held against the fields of an
event, but against nothing where there is no event. -/
structure Subject where
  target : String
  level : LogLevel
  fields : Option (List String)
deriving DecidableEq, Repr

def Event.subject (event : Event) : Subject :=
  ⟨event.target, event.level, some (event.fields.map (·.1))⟩

def Span.subject (span : Span) : Subject :=
  ⟨span.target, span.level, none⟩

structure LogFilter where
  directives : List Directive
deriving DecidableEq, Repr

namespace Directive

def matchesTarget (directive : Directive) (target : String) : Bool :=
  directive.target.all fun start => start.toList.isPrefixOf target.toList

/-- Says something about a subject, wherever it is. -/
def concerns (directive : Directive) (subject : Subject) : Bool :=
  directive.isFree && directive.matchesTarget subject.target &&
    directive.field.all fun field => subject.fields.all (·.contains field.name)

/-- The longest target comes first, then a field, and of those the last one by name. -/
def isAtLeastAsNarrow (directive other : Directive) : Bool :=
  let size (directive : Directive) := (directive.target.map (·.utf8ByteSize + 1)).getD 0
  if size directive = size other then
    match other.field, directive.field with
    | none, _ => true
    | some _, none => false
    | some old, some new => old.name ≤ new.name
  else size other < size directive

/-- Says something about what happens inside a span. -/
def concernsSpan (directive : Directive) (span : Span) : Bool :=
  directive.isScoped && directive.matchesTarget span.target &&
    directive.span.all (· == span.name) && directive.field.isNone

/-- Speaks of the same things. -/
def isAbout (directive other : Directive) : Bool :=
  directive.target == other.target && directive.span == other.span &&
    directive.field == other.field

end Directive

namespace LogFilter

/-- Directives between commas. A filter with none of them lets nothing through; one that
cannot be read makes the whole filter unreadable. -/
def parse? (text : String) : Option LogFilter := do
  let parts := (text.toList.splitOn ',').filter (!·.isEmpty)
  return ⟨← parts.mapM Directive.parse?⟩

/-- The narrowest of the directives that concern a subject. -/
def deciding (filter : LogFilter) (subject : Subject) : Option Directive :=
  (filter.directives.filter (·.concerns subject)).foldl
    (fun best directive =>
      match best with
      | none => some directive
      | some best => some (if directive.isAtLeastAsNarrow best then directive else best))
    none

/-- Lets a subject through, wherever it is. -/
def enables (filter : LogFilter) (subject : Subject) : Bool :=
  (filter.deciding subject).any fun directive => admits directive.level subject.level

/-- The directives about a span. Of those about the same things the last one counts. -/
def spanDirectives (directives : List Directive) (span : Span) : List Directive :=
  match directives with
  | [] => []
  | directive :: rest =>
      if directive.concernsSpan span && !rest.any directive.isAbout then
        directive :: spanDirectives rest span
      else spanDirectives rest span

/-- Lets an event through inside a span. -/
def enablesWithin (filter : LogFilter) (span : Span) (event : Event) : Bool :=
  (spanDirectives filter.directives span).any (fun directive => admits directive.level event.level) ||
    filter.enables event.subject

/-- Keeps track of a span: one that some directive is about, or that is let through itself. -/
def opens (filter : LogFilter) (span : Span) : Bool :=
  !(spanDirectives filter.directives span).isEmpty || filter.enables span.subject

def ofLevel (level : LogLevel) : LogFilter :=
  ⟨[⟨none, none, none, some level⟩]⟩

/-- What the HTTP stack logs unless a filter is set. -/
def quietDirectives : List Directive :=
  [⟨some "hyper", none, none, some .warn⟩, ⟨some "h2", none, none, some .warn⟩,
    ⟨some "tower_http", none, none, some .info⟩, ⟨some "reqwest", none, none, some .warn⟩]

/-- The filter of the settings, or the one that is given in their place. One that cannot be
read is replaced by the level of the settings. -/
def ofSettings (settings : LoggingSettings) (override : Option String) : LogFilter :=
  match override, settings.filter with
  | some text, _ => (parse? text).getD (ofLevel settings.level)
  | none, some text => (parse? (settings.level.name ++ "," ++ text)).getD (ofLevel settings.level)
  | none, none => ⟨(ofLevel settings.level).directives ++ quietDirectives⟩

end LogFilter

/-- Where in a program an event was logged. -/
structure Place where
  file : String
  line : Nat
deriving DecidableEq, Repr

/-- A line of a log in JSON for an event, perhaps inside a span. -/
def jsonLine (settings : LoggingSettings) (moment : String) (place : Place) (span : Option Span)
    (event : Event) : Json :=
  let spans := span.toList.map fun span => Json.obj [("name", .str span.name)]
  .obj ((if settings.timestamps then [("timestamp", .str moment)] else []) ++
    [("level", .str (event.level.name.map Char.toUpper)), ("fields", .obj event.fields),
      ("target", .str event.target)] ++
    (if settings.fileLine then [("filename", .str place.file), ("line_number", .int place.line)]
      else []) ++
    (if settings.includeSpans then spans.map (("span", ·)) else []) ++
    (if spans.isEmpty then [] else [("spans", .arr spans)]))

inductive SetupError where
  | alreadyInstalled
deriving DecidableEq, Repr

def install (settings : LoggingSettings) (override : Option String) (installed : Option LogFilter) :
    Except SetupError LogFilter :=
  if installed.isSome then .error .alreadyInstalled
  else .ok (.ofSettings settings override)

end VectorSearch.Logging
