namespace VectorSearch.Text

/-- The property `White_Space`, of which the space and the ASCII controls are a part. -/
def isBlank (c : Char) : Bool :=
  let n := c.toNat
  (9 ≤ n && n ≤ 13) || n == 0x20 || n == 0x85 || n == 0xa0 || n == 0x1680 ||
    (0x2000 ≤ n && n ≤ 0x200a) || n == 0x2028 || n == 0x2029 || n == 0x202f ||
    n == 0x205f || n == 0x3000

/-- Nothing but white space. -/
def allBlank (text : String) : Bool :=
  text.toList.all isBlank

/-- Drops what stands at the end of a list and passes a test. -/
def dropEndWhile (test : α → Bool) (items : List α) : List α :=
  (items.reverse.dropWhile test).reverse

end VectorSearch.Text
