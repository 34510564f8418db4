import Mathlib.Data.List.Flatten
import Mathlib.Data.List.Infix
import VectorSearch.Url.Basic

namespace VectorSearch.Url

open Text

/-! What percent decoding makes of an encoded text.

Encoding leaves a `%` alone, so decoding an encoded text undoes what was encoded and, along with it,
every escape that the text had spelled out itself. It gives back the octets of the text exactly if
there was none.
-/

/-- The octet that the first two characters spell as digits. -/
def leadingOctet? : List Char → Option Nat
  | high :: low :: _ => hexNumber? [high, low]
  | _ => none

/-- No `%` in a text has two hexadecimal digits behind it. -/
def EscapeFree (text : List Char) : Prop :=
  ∀ rest, '%' :: rest <:+ text → leadingOctet? rest = none

/-- All of a text stands when tabs and line breaks are dropped, and none of it is an escape. -/
structure Unaltered (text : List Char) : Prop where
  kept : ∀ c ∈ text, isLineBreakOrTab c = false
  escapeFree : EscapeFree text

theorem hexNumber?_pair (high low : Char) :
    hexNumber? [high, low] =
      (hexValue? high).bind fun first => (hexValue? low).map (16 * first + ·) := by
  cases first : hexValue? high <;> simp [hexNumber?, first]

theorem leadingOctet?_cons (high : Char) (rest : List Char) :
    leadingOctet? (high :: rest) =
      (hexValue? high).bind fun first => (rest.head?.bind hexValue?).map (16 * first + ·) := by
  cases rest with
  | nil => cases hexValue? high <;> rfl
  | cons low rest => exact hexNumber?_pair high low

theorem hexNumber?_eq_some {high low : Char} {n : Nat} (spelled : hexNumber? [high, low] = some n) :
    (hexValue? high).isSome = true ∧ (hexValue? low).isSome = true := by
  rw [hexNumber?_pair] at spelled
  cases first : hexValue? high <;> cases second : hexValue? low <;> simp_all

theorem hexByte_spelled (octet : UInt8) :
    ∃ high low, hexByte octet = [high, low] ∧ hexNumber? [high, low] = some octet.toNat := by
  have digit : ∀ n < 16, hexValue? (Nat.digitChar n).toUpper = some n := by decide
  have small : octet.toNat < 256 := octet.toNat_lt
  refine ⟨_, _, rfl, ?_⟩
  rw [hexNumber?_pair, digit _ (Nat.mod_lt _ (by decide)), digit _ (Nat.mod_lt _ (by decide))]
  change some (16 * (octet.toNat / 16 % 16) + octet.toNat % 16) = some octet.toNat
  congr 1
  omega

theorem percentDecode_escape {high low : Char} {n : Nat}
    (spelled : hexNumber? [high, low] = some n) (rest : List Char) :
    percentDecode ('%' :: high :: low :: rest) = UInt8.ofNat n :: percentDecode rest := by
  rw [percentDecode, spelled]

theorem percentDecode_cons {c : Char} {rest : List Char}
    (head : c = '%' → leadingOctet? rest = none) :
    percentDecode (c :: rest) = String.utf8EncodeChar c ++ percentDecode rest := by
  by_cases percent : c = '%'
  · subst percent
    rcases rest with _ | ⟨high, _ | ⟨low, rest⟩⟩
    · rfl
    · rw [percentDecode.eq_3]
      exact nofun
    · have noNumber : hexNumber? [high, low] = none := head rfl
      rw [percentDecode, noNumber]
      rfl
  · exact percentDecode.eq_3 c rest fun _ _ _ same _ => percent same

/-- A text is taken apart from the front into escapes and characters that begin none. -/
theorem escape_induction {motive : List Char → Prop} (nil : motive [])
    (escape : ∀ high low n rest, hexNumber? [high, low] = some n → motive rest →
      motive ('%' :: high :: low :: rest))
    (plain : ∀ c rest, (c = '%' → leadingOctet? rest = none) → motive rest → motive (c :: rest))
    (text : List Char) : motive text := by
  induction text using percentDecode.induct with
  | case1 => exact nil
  | case2 high low rest n spelled ih => exact escape high low n rest spelled ih
  | case3 high low rest noNumber ih => exact plain _ _ (fun _ => noNumber) ih
  | case4 c rest noPattern ih =>
      apply plain c rest _ ih
      rintro rfl
      rcases rest with _ | ⟨high, _ | ⟨low, rest⟩⟩
      · rfl
      · rfl
      · exact (noPattern high low rest rfl rfl).elim

theorem percentDecode_encodedChar (c : Char) (rest : List Char) :
    percentDecode (percentEncodeChar c ++ rest) =
      String.utf8EncodeChar c ++ percentDecode rest := by
  rw [percentEncodeChar]
  induction String.utf8EncodeChar c with
  | nil => rfl
  | cons octet octets ih =>
      obtain ⟨high, low, digits, spelled⟩ := hexByte_spelled octet
      rw [List.flatMap_cons, digits]
      change percentDecode ('%' :: high :: low :: _) = octet :: (octets ++ percentDecode rest)
      rw [percentDecode_escape spelled, UInt8.ofNat_toNat]
      exact congrArg (octet :: ·) ih

/-- Neither a `%` nor a hexadecimal digit is encoded. -/
def KeepsEscapes (encoded : Char → Bool) : Prop :=
  ∀ c, encoded c = true → c ≠ '%' ∧ hexValue? c = none

variable {encoded : Char → Bool}

theorem percentEncode_cons (c : Char) (rest : List Char) :
    percentEncode encoded (c :: rest) =
      (if encoded c then percentEncodeChar c else [c]) ++ percentEncode encoded rest :=
  List.flatMap_cons

theorem percentEncodeChar_head (c : Char) : ∃ rest, percentEncodeChar c = '%' :: rest := by
  cases octets : String.utf8EncodeChar c with
  | nil => exact absurd octets String.utf8EncodeChar_ne_nil
  | cons octet others => exact ⟨_, by rw [percentEncodeChar, octets, List.flatMap_cons]; rfl⟩

/-- What is encoded is no digit and does not turn into one. -/
theorem head_digit_percentEncode (keeps : KeepsEscapes encoded) (text : List Char) :
    (percentEncode encoded text).head?.bind hexValue? = text.head?.bind hexValue? := by
  cases text with
  | nil => rfl
  | cons c rest =>
      rw [percentEncode_cons]
      by_cases marked : encoded c = true
      · obtain ⟨others, escape⟩ := percentEncodeChar_head c
        rw [if_pos marked, escape]
        exact (keeps c marked).2.symm
      · rw [if_neg marked]
        rfl

theorem leadingOctet?_percentEncode (keeps : KeepsEscapes encoded) (text : List Char) :
    leadingOctet? (percentEncode encoded text) = leadingOctet? text := by
  cases text with
  | nil => rfl
  | cons high text =>
      rw [percentEncode_cons, leadingOctet?_cons high]
      by_cases marked : encoded high = true
      · obtain ⟨others, escape⟩ := percentEncodeChar_head high
        rw [if_pos marked, escape, (keeps high marked).2]
        exact leadingOctet?_cons '%' _
      · rw [if_neg marked, ← head_digit_percentEncode keeps]
        exact leadingOctet?_cons high _

theorem percentDecode_percentEncode (keeps : KeepsEscapes encoded) (text : List Char) :
    percentDecode (percentEncode encoded text) = percentDecode text := by
  have keepsPercent : encoded '%' = false :=
    Bool.eq_false_iff.mpr fun marked => (keeps '%' marked).1 rfl
  have keepsDigit {c : Char} (digit : (hexValue? c).isSome = true) : encoded c = false := by
    rw [Bool.eq_false_iff]
    intro marked
    rw [(keeps c marked).2] at digit
    contradiction
  induction text using escape_induction with
  | nil => rfl
  | escape high low n rest spelled ih =>
      obtain ⟨highDigit, lowDigit⟩ := hexNumber?_eq_some spelled
      rw [percentEncode_cons, percentEncode_cons, percentEncode_cons, keepsPercent,
        keepsDigit highDigit, keepsDigit lowDigit]
      change percentDecode ('%' :: high :: low :: percentEncode encoded rest) = _
      rw [percentDecode_escape spelled, percentDecode_escape spelled, ih]
  | plain c rest head ih =>
      rw [percentEncode_cons, percentDecode_cons head, ← ih]
      by_cases marked : encoded c = true
      · rw [if_pos marked, percentDecode_encodedChar]
      · rw [if_neg marked]
        apply percentDecode_cons
        intro percent
        exact (leadingOctet?_percentEncode keeps rest).trans (head percent)

theorem escapeFree_cons {c : Char} {rest : List Char} :
    EscapeFree (c :: rest) ↔ (c = '%' → leadingOctet? rest = none) ∧ EscapeFree rest := by
  constructor
  · intro free
    constructor
    · rintro rfl
      exact free rest (List.suffix_refl _)
    · intro after suffix
      exact free after (suffix.trans (List.suffix_cons c rest))
  · rintro ⟨head, free⟩ after suffix
    rcases List.suffix_cons_iff.mp suffix with same | inRest
    · obtain ⟨percent, rfl⟩ := List.cons.inj same
      exact head percent.symm
    · exact free after inRest

theorem EscapeFree.percentDecode_eq {text : List Char} (free : EscapeFree text) :
    percentDecode text = encode text := by
  induction text with
  | nil => rfl
  | cons c rest ih =>
      obtain ⟨head, later⟩ := escapeFree_cons.mp free
      rw [percentDecode_cons head, ih later]
      rfl

theorem length_utf8EncodeChar_pos (c : Char) : 0 < (String.utf8EncodeChar c).length :=
  List.length_pos_iff.mpr String.utf8EncodeChar_ne_nil

theorem length_encode_cons (c : Char) (rest : List Char) :
    (encode (c :: rest)).length = (String.utf8EncodeChar c).length + (encode rest).length := by
  rw [encode, List.flatMap_cons, List.length_append]
  rfl

/-- An escape stands for one octet and is spelled with three. -/
theorem length_percentDecode_escape_lt {high low : Char} {n : Nat} {rest : List Char}
    (spelled : hexNumber? [high, low] = some n)
    (bound : (percentDecode rest).length ≤ (encode rest).length) :
    (percentDecode ('%' :: high :: low :: rest)).length <
      (encode ('%' :: high :: low :: rest)).length := by
  have first := length_utf8EncodeChar_pos high
  have second := length_utf8EncodeChar_pos low
  rw [percentDecode_escape spelled, List.length_cons]
  simp only [length_encode_cons]
  omega

theorem length_percentDecode_le (text : List Char) :
    (percentDecode text).length ≤ (encode text).length := by
  induction text using escape_induction with
  | nil => exact le_refl _
  | escape high low n rest spelled ih => exact (length_percentDecode_escape_lt spelled ih).le
  | plain c rest head ih =>
      rw [percentDecode_cons head, List.length_append, length_encode_cons]
      exact Nat.add_le_add_left ih _

theorem length_percentDecode_lt {text : List Char} (escaped : ¬ EscapeFree text) :
    (percentDecode text).length < (encode text).length := by
  induction text using escape_induction with
  | nil => exact absurd (fun _ suffix => by simp at suffix) escaped
  | escape high low n rest spelled ih =>
      exact length_percentDecode_escape_lt spelled (length_percentDecode_le rest)
  | plain c rest head ih =>
      have later : ¬ EscapeFree rest := fun free => escaped (escapeFree_cons.mpr ⟨head, free⟩)
      rw [percentDecode_cons head, List.length_append, length_encode_cons]
      exact Nat.add_lt_add_left (ih later) _

theorem percentDecode_eq_encode_iff {text : List Char} :
    percentDecode text = encode text ↔ EscapeFree text := by
  constructor
  · intro same
    by_contra escaped
    exact (length_percentDecode_lt escaped).ne (congrArg List.length same)
  · exact EscapeFree.percentDecode_eq

theorem length_encode_le {part text : List Char} (sublist : part.Sublist text) :
    (encode part).length ≤ (encode text).length :=
  (sublist.flatMap String.utf8EncodeChar).length_le

theorem length_encode_lt {part text : List Char} (sublist : part.Sublist text)
    (different : part ≠ text) : (encode part).length < (encode text).length := by
  induction sublist with
  | slnil => exact absurd rfl different
  | cons c sublist =>
      have octets := length_utf8EncodeChar_pos c
      have bound := length_encode_le sublist
      rw [length_encode_cons]
      omega
  | cons_cons c sublist ih =>
      have shorter := ih fun same => different (congrArg (c :: ·) same)
      rw [length_encode_cons, length_encode_cons]
      omega

/-- Whatever passes a test that no line break and no tab passes is kept. -/
theorem isLineBreakOrTab_of_test {test : Char → Bool} {c : Char}
    (excludes : "\t\n\r".toList.all (!test ·) = true) (passes : test c = true) :
    isLineBreakOrTab c = false := by
  by_contra dropped
  simp only [isLineBreakOrTab, Bool.not_eq_false, Bool.or_eq_true, beq_iff_eq] at dropped
  have member : c ∈ "\t\n\r".toList := by simpa [or_assoc] using dropped
  have refused := List.all_eq_true.mp excludes c member
  rw [passes] at refused
  contradiction

theorem filter_of_kept {text : List Char} (kept : ∀ c ∈ text, isLineBreakOrTab c = false) :
    text.filter (!isLineBreakOrTab ·) = text := by
  apply List.filter_eq_self.mpr
  intro c member
  rw [kept c member]
  rfl

theorem percentDecode_filter_eq_encode_iff {text : List Char} :
    percentDecode (text.filter (!isLineBreakOrTab ·)) = encode text ↔ Unaltered text := by
  constructor
  · intro same
    have bound := length_percentDecode_le (text.filter (!isLineBreakOrTab ·))
    have whole : text.filter (!isLineBreakOrTab ·) = text := by
      by_contra dropped
      have shorter := length_encode_lt List.filter_sublist dropped
      rw [same] at bound
      omega
    rw [whole] at same
    exact ⟨by simpa using List.filter_eq_self.mp whole, percentDecode_eq_encode_iff.mp same⟩
  · rintro ⟨kept, free⟩
    rw [filter_of_kept kept]
    exact free.percentDecode_eq

end VectorSearch.Url
