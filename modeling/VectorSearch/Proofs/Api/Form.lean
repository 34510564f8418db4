import Mathlib.Data.List.TakeWhile
import Mathlib.Data.String.Basic
import VectorSearch.Api.Service
import VectorSearch.Proofs.Text.Utf8
import VectorSearch.Proofs.Url.Percent

namespace VectorSearch.Api

open Text Url

/-- Characters that stand for themselves in a field. -/
def isFormPlain (c : Char) : Bool :=
  c.isAlphanum || c == '*' || c == '-' || c == '.' || c == '_'

def formEncodeChar (c : Char) : List Char :=
  if c = ' ' then ['+'] else if isFormPlain c then [c] else percentEncodeChar c

/-- A text as a field: spaces are plus signs, and octets are escaped that are not plain. -/
def formEncode (text : List Char) : List Char :=
  text.flatMap formEncodeChar

theorem hexValue?_isSome_of_percentEncodeChar {c escaped : Char}
    (member : escaped ∈ percentEncodeChar c) :
    escaped = '%' ∨ (hexValue? escaped).isSome = true := by
  rw [percentEncodeChar, List.mem_flatMap] at member
  obtain ⟨octet, -, member⟩ := member
  obtain ⟨high, low, digits, spelled⟩ := hexByte_spelled octet
  obtain ⟨highDigit, lowDigit⟩ := hexNumber?_eq_some spelled
  rw [digits] at member
  simp only [List.mem_cons, List.not_mem_nil, or_false] at member
  rcases member with rfl | rfl | rfl
  · exact .inl rfl
  · exact .inr highDigit
  · exact .inr lowDigit

/-- What a field is written in: no character that separates fields or ends a query. -/
theorem notMem_formEncode {special : Char} (plain : isFormPlain special = false)
    (unspaced : special ≠ '+') (unescaped : special ≠ '%') (noDigit : hexValue? special = none)
    (text : List Char) : special ∉ formEncode text := by
  rw [formEncode, List.mem_flatMap]
  rintro ⟨c, -, member⟩
  rw [formEncodeChar] at member
  split at member
  next => exact unspaced (List.mem_singleton.mp member)
  next =>
    split at member
    next kept =>
      obtain rfl := List.mem_singleton.mp member
      rw [plain] at kept
      cases kept
    next =>
      rcases hexValue?_isSome_of_percentEncodeChar member with same | digit
      · exact unescaped same
      · rw [noDigit] at digit
        cases digit

def plusAsSpace (c : Char) : Char :=
  if c = '+' then ' ' else c

theorem percentDecode_formEncodeChar (c : Char) (rest : List Char) :
    percentDecode ((formEncodeChar c).map plusAsSpace ++ rest) =
      String.utf8EncodeChar c ++ percentDecode rest := by
  rw [formEncodeChar]
  split
  next space =>
    subst space
    exact percentDecode_cons fun percent => absurd percent (by decide)
  next =>
    split
    next plain =>
      have noPlus : c ≠ '+' := by rintro rfl; cases plain
      have noPercent : c ≠ '%' := by rintro rfl; cases plain
      rw [List.map_singleton, plusAsSpace, if_neg noPlus]
      exact percentDecode_cons fun percent => absurd percent noPercent
    next =>
      have same : (percentEncodeChar c).map plusAsSpace = percentEncodeChar c := by
        refine (List.map_congr_left fun escaped member => if_neg ?_).trans (List.map_id _)
        rintro rfl
        rcases hexValue?_isSome_of_percentEncodeChar member with percent | digit
        · exact absurd percent (by decide)
        · exact absurd digit (by decide)
      rw [same, percentDecode_encodedChar]

theorem percentDecode_formEncode (text : List Char) :
    percentDecode ((formEncode text).map plusAsSpace) = encode text := by
  induction text with
  | nil => rfl
  | cons c rest ih =>
      rw [formEncode, List.flatMap_cons, List.map_append, percentDecode_formEncodeChar,
        ← formEncode, ih]
      rfl

theorem formDecode_formEncode (text : List Char) :
    formDecode (formEncode text) = String.ofList text := by
  have octets := percentDecode_formEncode text
  rw [formDecode]
  exact congrArg String.ofList ((congrArg decodeLossy octets).trans (decodeLossy_encode text))

theorem length_le_utf8ByteSize (text : List Char) :
    text.length ≤ (String.ofList text).utf8ByteSize := by
  rw [String.utf8ByteSize_ofList]
  induction text with
  | nil => exact Nat.le_refl 0
  | cons c rest ih =>
      have octets := c.utf8Size_pos
      rw [List.length_cons, String.utf8Len]
      omega

/-- No character is left out. -/
theorem length_le_formEncode (text : List Char) : text.length ≤ (formEncode text).length := by
  induction text with
  | nil => exact Nat.le_refl 0
  | cons c rest ih =>
      have spelled : formEncodeChar c ≠ [] := by
        have octets := percentDecode_formEncodeChar c []
        intro none
        rw [none, List.map_nil, List.nil_append, percentDecode, List.append_nil] at octets
        exact absurd octets.symm (by simp [String.utf8EncodeChar_ne_nil])
      have one := List.length_pos_of_ne_nil spelled
      rw [formEncode, List.flatMap_cons, List.length_append, List.length_cons, ← formEncode]
      omega

variable {spelled : List Char}

/-- The target of a search with one field, spelled in some way. -/
def searchTarget (spelled : List Char) : List Char :=
  "/search?query=".toList ++ spelled

theorem length_le_searchTarget (spelled : List Char) :
    spelled.length ≤ (searchTarget spelled).length :=
  (List.suffix_append "/search?query=".toList spelled).length_le

theorem localTarget_searchTarget (unbroken : '#' ∉ spelled) :
    localTarget (searchTarget spelled) = searchTarget spelled := by
  have before : '#' ∉ "/search?query=".toList := by decide +kernel
  have kept : (searchTarget spelled).takeWhile (· ≠ '#') = searchTarget spelled := by
    refine List.takeWhile_eq_self_iff.mpr fun c member => decide_eq_true ?_
    rcases List.mem_append.mp member with start | inside
    · exact fun same => before (same ▸ start)
    · exact fun same => unbroken (same ▸ inside)
  rw [localTarget, kept]
  rfl

theorem targetPath_searchTarget (unbroken : '#' ∉ spelled) :
    String.ofList (targetPath (searchTarget spelled)) = "/search" := by
  rw [targetPath, localTarget_searchTarget unbroken]
  rfl

theorem targetQuery_searchTarget (unbroken : '#' ∉ spelled) :
    targetQuery (searchTarget spelled) = "query=".toList ++ spelled := by
  rw [targetQuery, localTarget_searchTarget unbroken]
  rfl

theorem formFields_field (whole : '&' ∉ spelled) :
    formFields ("query=".toList ++ spelled) = [("query", formDecode spelled)] := by
  have before : '&' ∉ "query=".toList := by decide +kernel
  have one : '&' ∉ "query=".toList ++ spelled := fun member =>
    (List.mem_append.mp member).elim before whole
  have name : formDecode "query".toList = "query" := formDecode_formEncode "query".toList
  rw [formFields, List.splitOn_eq_singleton one, ← name]
  rfl

end VectorSearch.Api
