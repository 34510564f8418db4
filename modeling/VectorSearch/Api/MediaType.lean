namespace VectorSearch.Api

def isTokenChar (c : Char) : Bool :=
  c.isAlphanum || "!#$%&'*+-.^_|~".toList.contains c || c.toNat == 0x60

/-- A parameter value in quotes, after the opening one; gives what follows the semicolon
after it. A value is not empty, so its first character can be a quote. -/
def afterQuoted (text : List Char) : Option (List Char) :=
  let value := text.take 1 ++ text.tail.takeWhile (· ≠ '"')
  if value.all (fun c => ' ' ≤ c && c.toNat ≠ 0x7f) then
    match text.drop value.length with
    | [] => none
    | _ :: rest =>
        match rest.dropWhile (· = ' ') with
        | [] => some []
        | ';' :: rest => some rest
        | _ => none
  else none

/-- A parameter value, in quotes or not. -/
def afterValue (text : List Char) : Option (List Char) :=
  match text with
  | '"' :: rest => afterQuoted rest
  | text =>
      match text.dropWhile isTokenChar with
      | [] => some []
      | ';' :: rest => if text.takeWhile isTokenChar = [] then none else some rest
      | _ => none

/-- Well-formed parameters, at most `fuel` of them. -/
def areParameters : Nat → List Char → Bool
  | 0, text => text.all (· = ' ')
  | fuel + 1, text =>
      match text.dropWhile (· = ' ') with
      | [] => true
      | text =>
          match text.takeWhile isTokenChar, text.dropWhile isTokenChar with
          | _ :: _, '=' :: rest => (afterValue rest).any (areParameters fuel)
          | _, _ => false

/-- The part of a subtype before its last plus sign and the one after it. A plus sign at the
start belongs to the subtype. -/
def splitSuffix (subtype : List Char) : List Char × Option (List Char) :=
  let suffix := (subtype.reverse.takeWhile (· ≠ '+')).reverse
  let before := subtype.take (subtype.length - suffix.length - 1)
  if suffix.length < subtype.length && !before.isEmpty then (before, some suffix)
  else (subtype, none)

/-- An application type that is JSON or written in it, with any parameters, in ASCII. -/
def isJsonType (text : String) : Bool :=
  let chars := text.toList.map Char.toLower
  let essence := chars.takeWhile (· ≠ ';')
  let kind := essence.takeWhile (· ≠ '/')
  let subtype := (essence.drop kind.length).tail
  let (name, suffix) := splitSuffix subtype
  chars.all (·.toNat < 0x80) && kind == "application".toList &&
    !subtype.isEmpty && subtype.all isTokenChar &&
    (name == "json".toList || suffix == some "json".toList) &&
    areParameters chars.length (chars.drop essence.length).tail

end VectorSearch.Api
