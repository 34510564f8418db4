namespace VectorSearch.Text

/-! Text as UTF-8 octets.

`decode` reads any list of octets: each longest beginning of a well-formed sequence that
breaks off, and each octet that begins none, stands for one replacement character, marked
as an error. `decode?` accepts only well-formed octets, `decodeLossy` takes the replacements.
-/

def encode (text : List Char) : List UInt8 :=
  text.flatMap String.utf8EncodeChar

/-- How a sequence goes on after its first octet: the bits that octet gives, the range of
the second octet, and how many octets follow. -/
structure Lead where
  bits : Nat
  low : UInt8
  high : UInt8
  count : Nat

def lead? (octet : UInt8) : Option Lead :=
  if octet < 0x80 then some ⟨octet.toNat, 0x80, 0xbf, 0⟩
  else if octet < 0xc2 then none
  else if octet < 0xe0 then some ⟨octet.toNat - 0xc0, 0x80, 0xbf, 1⟩
  else if octet < 0xf0 then
    some ⟨octet.toNat - 0xe0, if octet = 0xe0 then 0xa0 else 0x80,
      if octet = 0xed then 0x9f else 0xbf, 2⟩
  else if octet < 0xf5 then
    some ⟨octet.toNat - 0xf0, if octet = 0xf0 then 0x90 else 0x80,
      if octet = 0xf4 then 0x8f else 0xbf, 3⟩
  else none

/-- Reads the octets after the first; nothing when the sequence breaks off. -/
def continued (bits : Nat) (low high : UInt8) : Nat → List UInt8 → Option Nat × List UInt8
  | 0, rest => (some bits, rest)
  | _ + 1, [] => (none, [])
  | count + 1, octet :: rest =>
      if low ≤ octet ∧ octet ≤ high then
        continued (bits * 64 + (octet.toNat - 0x80)) 0x80 0xbf count rest
      else (none, octet :: rest)

theorem continued_length (bits : Nat) (low high : UInt8) (count : Nat) (octets : List UInt8) :
    (continued bits low high count octets).2.length ≤ octets.length := by
  induction count generalizing bits low high octets with
  | zero => simp [continued]
  | succ count ih =>
      cases octets with
      | nil => simp [continued]
      | cons octet rest =>
          simp only [continued]
          split
          · exact Nat.le_trans (ih _ _ _ _) (Nat.le_succ _)
          · simp

/-- Each character that octets spell, or an error where they spell none. -/
def decode : List UInt8 → List (Except Unit Char)
  | [] => []
  | octet :: rest =>
      match lead? octet with
      | none => .error () :: decode rest
      | some lead =>
          let result := continued lead.bits lead.low lead.high lead.count rest
          (match result.1 with
            | some code => .ok (Char.ofNat code)
            | none => .error ()) :: decode result.2
termination_by octets => octets.length
decreasing_by
  · simp
  · exact Nat.lt_succ_of_le (continued_length _ _ _ _ _)

def decode? (octets : List UInt8) : Option (List Char) :=
  (decode octets).mapM fun
    | .ok c => some c
    | .error () => none

def decodeLossy (octets : List UInt8) : List Char :=
  (decode octets).map fun
    | .ok c => c
    | .error () => '\uFFFD'

end VectorSearch.Text
