import VectorSearch.Url.Percent

namespace VectorSearch.Api

open Text

/-- A plus sign is a space, octets are percent-encoded, and what is not UTF-8 is replaced. -/
def formDecode (text : List Char) : String :=
  String.ofList (decodeLossy (Url.percentDecode (text.map fun c => if c = '+' then ' ' else c)))

/-- The fields between ampersands, empty ones left out; one without an equals sign has an
empty value. -/
def formFields (text : List Char) : List (String × String) :=
  ((text.splitOn '&').filter (!·.isEmpty)).map fun field =>
    (formDecode (field.takeWhile (· ≠ '=')), formDecode (field.dropWhile (· ≠ '=')).tail)

/-- A request target without the fragment and, where it names them, the scheme and the
authority. After those a path is never empty. -/
def localTarget (target : List Char) : List Char :=
  let whole := target.takeWhile (· ≠ '#')
  match whole.head?, whole.dropWhile (· ≠ ':') with
  | some '/', _ => whole
  | _, ':' :: '/' :: '/' :: rest =>
      match rest.dropWhile (fun c => c ≠ '/' && c ≠ '?') with
      | '/' :: path => '/' :: path
      | path => '/' :: path
  | _, _ => whole

def targetQuery (target : List Char) : List Char :=
  ((localTarget target).dropWhile (· ≠ '?')).tail

def targetPath (target : List Char) : List Char :=
  (localTarget target).takeWhile (· ≠ '?')

end VectorSearch.Api
