namespace VectorSearch.Settings

/-! Environment variables in a text of settings.

A reference is a dollar sign and a name in braces. Line by line, each reference that starts
before the first `#` of its line is replaced by the value of the variable it names. Values
are not looked at again, and everything else stays as it is, but for carriage returns before
line breaks, which are dropped.
-/

/-- The name of a reference whose dollar sign and brace have been read, and what follows it:
one or more characters up to a closing brace. -/
def reference? (text : List Char) : Option (List Char × List Char) :=
  match text.takeWhile (· ≠ '}'), text.dropWhile (· ≠ '}') with
  | c :: name, _ :: rest => some (c :: name, rest)
  | _, _ => none

theorem reference?_length {text name rest : List Char}
    (found : reference? text = some (name, rest)) : rest.length < text.length := by
  unfold reference? at found
  split at found
  · rename_i kept dropped
    simp only [Option.some.injEq, Prod.mk.injEq] at found
    have bound := (List.dropWhile_suffix (l := text) (· ≠ '}')).length_le
    rw [dropped] at bound
    simp only [List.length_cons] at bound
    rw [← found.2]; omega
  · simp at found

/-- A line with its references replaced; the name of one without a value is an error. -/
def expandLine (lookup : String → Option String) (line : List Char) : Except String (List Char) :=
  match line with
  | [] => .ok []
  | '#' :: rest => .ok ('#' :: rest)
  | '$' :: '{' :: rest =>
      match _found : reference? rest with
      | none => do return '$' :: (← expandLine lookup ('{' :: rest))
      | some (name, after) =>
          match lookup (String.ofList name) with
          | none => .error (String.ofList name)
          | some value =>
              if name.contains '#' then .ok (value.toList ++ after)
              else do return value.toList ++ (← expandLine lookup after)
  | c :: rest => do return c :: (← expandLine lookup rest)
termination_by line.length
decreasing_by
  · simp
  · have := reference?_length (by assumption)
    simp only [List.length_cons]; omega
  · simp

/-- Lines that are followed by a line break lose a carriage return at their end. -/
def dropReturns : List (List Char) → List (List Char)
  | [] => []
  | [last] => [last]
  | line :: rest => (if line.getLast? = some '\r' then line.dropLast else line) :: dropReturns rest

/-- A text with its references replaced. -/
def expand (lookup : String → Option String) (text : String) : Except String String := do
  let lines ← (dropReturns (text.toList.splitOn '\n')).mapM (expandLine lookup)
  return String.ofList (['\n'].intercalate lines)

end VectorSearch.Settings
