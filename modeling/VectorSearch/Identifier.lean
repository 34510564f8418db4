import VectorSearch.Text.Hexadecimal

namespace VectorSearch

open Text

/-- What fresh identifiers are taken from: the text that each draw gives, counted from zero. -/
class Generator where
  identifier : Nat → String

/-- A generator, and how much has been drawn from it. -/
structure IdSource where
  drawn : Nat
  [generator : Generator]

/-- The next identifier and the source after it. -/
def IdSource.next (source : IdSource) : String × IdSource :=
  (source.generator.identifier source.drawn,
    { source with drawn := source.drawn + 1 })

/-- A text of 36 characters: 32 hexadecimal digits in five groups, four bits of which tell
the version and two the variant. -/
def identifierText (high low : UInt64) : String :=
  let time := (high &&& 0xffffffffffff0fff) ||| 0x4000
  let node := (low &&& 0x3fffffffffffffff) ||| 0x8000000000000000
  let text := hexText 16 time.toNat ++ hexText 16 node.toNat
  String.ofList (text.take 8 ++ '-' :: (text.drop 8).take 4 ++ '-' :: (text.drop 12).take 4 ++
    '-' :: (text.drop 16).take 4 ++ '-' :: text.drop 20)

namespace Generator

def mix (word : UInt64) : UInt64 :=
  let first := (word ^^^ (word >>> 30)) * 0xbf58476d1ce4e5b9
  let second := (first ^^^ (first >>> 27)) * 0x94d049bb133111eb
  second ^^^ (second >>> 31)

/-- Random identifiers of version 4 for want of a better source: the number of a draw, mixed
into two words. -/
instance mixed : Generator where
  identifier draw :=
    let step := 2 * draw.toUInt64 + 1
    identifierText (mix (step * 0x9e3779b97f4a7c15)) (mix ((step + 1) * 0x9e3779b97f4a7c15))

end Generator

end VectorSearch
