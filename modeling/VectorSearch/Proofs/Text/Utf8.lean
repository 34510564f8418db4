import Mathlib.Data.List.Flatten
import VectorSearch.Text.Utf8

namespace VectorSearch.Text

/-! Texts read back from their octets.

A character takes one octet, two, three or four, by the size of its code. The first octet tells how
many follow and which bits of the code it holds itself, and the octets that follow hold six each.
-/

variable {bits count n : Nat} {low high : UInt8} {rest : List UInt8}

theorem lt_iff_toNat_ofNat {limit : UInt8} (small : n < 256) :
    UInt8.ofNat n < limit ↔ n < limit.toNat := by
  rw [UInt8.lt_iff_toNat_lt, UInt8.toNat_ofNat_of_lt' small]

theorem continued_succ (small : n < 256) (least : low.toNat ≤ n) (most : n ≤ high.toNat) :
    continued bits low high (count + 1) (UInt8.ofNat n :: rest) =
      continued (bits * 64 + (n - 128)) 0x80 0xbf count rest := by
  have inside : low ≤ UInt8.ofNat n ∧ UInt8.ofNat n ≤ high := by
    rw [UInt8.le_iff_toNat_le, UInt8.le_iff_toNat_le, UInt8.toNat_ofNat_of_lt' small]
    exact ⟨least, most⟩
  rw [continued, if_pos inside, UInt8.toNat_ofNat_of_lt' small]

/-- An octet that only goes on with a sequence. -/
theorem continued_trailing (value : Nat) :
    continued bits 0x80 0xbf (count + 1) (UInt8.ofNat (value % 64 + 128) :: rest) =
      continued (bits * 64 + value % 64) 0x80 0xbf count rest := by
  have bound : value % 64 < 64 := Nat.mod_lt _ (by decide)
  rw [continued_succ (by omega) (by simp) (by simp; omega), Nat.add_sub_cancel]

theorem decode_cons {octet : UInt8} {lead : Lead} {code : Nat} {octets after : List UInt8}
    (begins : lead? octet = some lead)
    (ends : continued lead.bits lead.low lead.high lead.count octets = (some code, after)) :
    decode (octet :: octets) = .ok (Char.ofNat code) :: decode after := by
  rw [decode, begins]
  simp only [ends]

theorem lead?_ofNat (small : n < 256) :
    lead? (UInt8.ofNat n) =
      if n < 0x80 then some ⟨n, 0x80, 0xbf, 0⟩
      else if n < 0xc2 then none
      else if n < 0xe0 then some ⟨n - 0xc0, 0x80, 0xbf, 1⟩
      else if n < 0xf0 then
        some ⟨n - 0xe0, if n = 0xe0 then 0xa0 else 0x80, if n = 0xed then 0x9f else 0xbf, 2⟩
      else if n < 0xf5 then
        some ⟨n - 0xf0, if n = 0xf0 then 0x90 else 0x80, if n = 0xf4 then 0x8f else 0xbf, 3⟩
      else none := by
  have same : ∀ other : UInt8, UInt8.ofNat n = other ↔ n = other.toNat := by
    intro other
    rw [← UInt8.toNat_inj, UInt8.toNat_ofNat_of_lt' small]
  simp only [lead?, lt_iff_toNat_ofNat small, same, UInt8.toNat_ofNat_of_lt' small]
  rfl

theorem decode_one (small : n < 0x80) :
    decode (UInt8.ofNat n :: rest) = .ok (Char.ofNat n) :: decode rest := by
  have begins := lead?_ofNat (Nat.lt_trans small (by decide))
  rw [if_pos small] at begins
  exact decode_cons begins rfl

theorem decode_two (above : 0x80 ≤ n) (below : n < 0x800) :
    decode (UInt8.ofNat (n / 64 % 32 + 192) :: UInt8.ofNat (n % 64 + 128) :: rest) =
      .ok (Char.ofNat n) :: decode rest := by
  have begins := @lead?_ofNat (n / 64 % 32 + 192) (by omega)
  rw [if_neg (by omega), if_neg (by omega), if_pos (by omega)] at begins
  refine decode_cons begins ?_
  dsimp only
  rw [continued_trailing, continued]
  congr 2
  omega

theorem decode_three (above : 0x800 ≤ n) (below : n < 0x10000) (valid : n < 0xd800 ∨ 0xdfff < n) :
    decode (UInt8.ofNat (n / 4096 % 16 + 224) :: UInt8.ofNat (n / 64 % 64 + 128) ::
        UInt8.ofNat (n % 64 + 128) :: rest) =
      .ok (Char.ofNat n) :: decode rest := by
  have begins := @lead?_ofNat (n / 4096 % 16 + 224) (by omega)
  rw [if_neg (by omega), if_neg (by omega), if_neg (by omega), if_pos (by omega)] at begins
  refine decode_cons begins ?_
  dsimp only
  rw [continued_succ (by omega) ?_ ?_, continued_trailing, continued]
  · congr 2
    omega
  · split
    next => change 160 ≤ _; omega
    next => change 128 ≤ _; omega
  · split
    next => change _ ≤ 159; omega
    next => change _ ≤ 191; omega

theorem decode_four (above : 0x10000 ≤ n) (below : n < 0x110000) :
    decode (UInt8.ofNat (n / 262144 % 8 + 240) :: UInt8.ofNat (n / 4096 % 64 + 128) ::
        UInt8.ofNat (n / 64 % 64 + 128) :: UInt8.ofNat (n % 64 + 128) :: rest) =
      .ok (Char.ofNat n) :: decode rest := by
  have begins := @lead?_ofNat (n / 262144 % 8 + 240) (by omega)
  rw [if_neg (by omega), if_neg (by omega), if_neg (by omega), if_neg (by omega),
    if_pos (by omega)] at begins
  refine decode_cons begins ?_
  dsimp only
  rw [continued_succ (by omega) ?_ ?_, continued_trailing, continued_trailing, continued]
  · congr 2
    omega
  · split
    next => change 144 ≤ _; omega
    next => change 128 ≤ _; omega
  · split
    next => change _ ≤ 143; omega
    next => change _ ≤ 191; omega

theorem decode_utf8EncodeChar (c : Char) (rest : List UInt8) :
    decode (String.utf8EncodeChar c ++ rest) = .ok c :: decode rest := by
  have valid : c.toNat < 0xd800 ∨ 0xdfff < c.toNat ∧ c.toNat < 0x110000 := c.valid
  have octets : String.utf8EncodeChar c =
      if c.toNat ≤ 127 then [UInt8.ofNat c.toNat]
      else if c.toNat ≤ 2047 then
        [UInt8.ofNat (c.toNat / 64 % 32 + 192), UInt8.ofNat (c.toNat % 64 + 128)]
      else if c.toNat ≤ 65535 then
        [UInt8.ofNat (c.toNat / 4096 % 16 + 224), UInt8.ofNat (c.toNat / 64 % 64 + 128),
          UInt8.ofNat (c.toNat % 64 + 128)]
      else
        [UInt8.ofNat (c.toNat / 262144 % 8 + 240), UInt8.ofNat (c.toNat / 4096 % 64 + 128),
          UInt8.ofNat (c.toNat / 64 % 64 + 128), UInt8.ofNat (c.toNat % 64 + 128)] := rfl
  have whole : (.ok c : Except Unit Char) = .ok (Char.ofNat c.toNat) :=
    congrArg Except.ok (Char.ofNat_toNat c).symm
  rw [octets, whole]
  split
  next => exact decode_one (by omega)
  next =>
    split
    next => exact decode_two (by omega) (by omega)
    next =>
      split
      next => exact decode_three (by omega) (by omega) (by omega)
      next => exact decode_four (by omega) (by omega)

theorem decode_encode (text : List Char) : decode (encode text) = text.map .ok := by
  induction text with
  | nil => simp [encode, decode]
  | cons c rest ih =>
      rw [encode, List.flatMap_cons, decode_utf8EncodeChar]
      exact congrArg (.ok c :: ·) ih

/-- Every text has octets of its own. -/
theorem decodeLossy_encode (text : List Char) : decodeLossy (encode text) = text := by
  rw [decodeLossy, decode_encode, List.map_map]
  exact List.map_id text

theorem decode?_encode (text : List Char) : decode? (encode text) = some text := by
  rw [decode?, decode_encode]
  induction text with
  | nil => rfl
  | cons c rest ih =>
      rw [List.map_cons, List.mapM_cons, ih]
      rfl

end VectorSearch.Text
