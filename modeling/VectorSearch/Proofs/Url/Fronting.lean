import VectorSearch.Proofs.Url.Appending

namespace VectorSearch.Url

open Text

variable {text scheme : List Char}

/-- Reads a text without blanks at its ends, tabs and line breaks. -/
def readVisible (text : List Char) : Except Fault Url :=
  match splitScheme text with
  | none => .error .relative
  | some (scheme, rest) => readBehind scheme rest

def trimmed (text : List Char) : List Char :=
  dropEndWhile (· ≤ ' ') (text.dropWhile (· ≤ ' '))

theorem parse_eq (text : String) : parse text = readVisible (visible (trimmed text.toList)) :=
  rfl

/-- Belongs to a scheme. -/
def inScheme (c : Char) : Bool :=
  c.isAlphanum || c == '+' || c == '-' || c == '.'

/-- A scheme and what follows its colon. -/
def withColon (scheme behind : List Char) : Option (List Char × List Char) :=
  match scheme, behind with
  | first :: _, ':' :: rest => if first.isAlpha then some (scheme.map Char.toLower, rest) else none
  | _, _ => none

theorem splitScheme_eq (text : List Char) :
    splitScheme text =
      withColon (text.takeWhile inScheme) (text.drop (text.takeWhile inScheme).length) :=
  rfl

theorem splitScheme_append {more : List Char}
    (stop : ∀ c ∈ more.head?, inScheme c = false ∧ c ≠ ':') (text : List Char) :
    splitScheme (text ++ more) =
      (splitScheme text).map fun (scheme, behind) => (scheme, behind ++ more) := by
  rw [splitScheme_eq, splitScheme_eq, takeWhile_append_stopped fun c first => (stop c first).1,
    List.drop_append_of_le_length (List.takeWhile_prefix inScheme).length_le]
  cases text.takeWhile inScheme with
  | nil => rfl
  | cons first others =>
      cases text.drop (first :: others).length with
      | nil =>
          cases more with
          | nil => rfl
          | cons c rest => simp [withColon, (stop c rfl).2]
      | cons c rest =>
          by_cases colon : c = ':'
          · subst colon
            by_cases letter : first.isAlpha = true <;> simp [withColon, letter]
          · simp [withColon, colon]

theorem dropEndWhile_append (test : Char → Bool) (text : List Char) :
    ∃ ended, text = dropEndWhile test text ++ ended ∧ ∀ c ∈ ended, test c = true := by
  refine ⟨(text.reverse.takeWhile test).reverse, ?_, fun c member => ?_⟩
  · rw [dropEndWhile, ← List.reverse_append, List.takeWhile_append_dropWhile, List.reverse_reverse]
  · exact List.mem_takeWhile_imp (List.mem_reverse.mp member)

/-- What stands in front of a path is read without the blanks at its start only. -/
def fronting (text : List Char) : List Char :=
  visible (text.dropWhile (· ≤ ' '))

theorem parse_slash {path : List Char} (ends : ∀ last ∈ ('/' :: path).getLast?, ' ' < last)
    (text : List Char) :
    parse (String.ofList (text ++ '/' :: path)) =
      readVisible (fronting text ++ '/' :: visible path) := by
  have started : (text ++ '/' :: path).dropWhile (· ≤ ' ') =
      text.dropWhile (· ≤ ' ') ++ '/' :: path :=
    dropWhile_append_stopped (by rintro _ ⟨⟩; decide) text
  have ended : ∀ last ∈ (text.dropWhile (· ≤ ' ') ++ '/' :: path).getLast?,
      decide (last ≤ ' ') = false := by
    rw [List.getLast?_append_of_ne_nil _ (List.cons_ne_nil _ _)]
    exact fun last final => decide_eq_false (Char.not_le.mpr (ends last final))
  rw [parse_eq, String.toList_ofList, trimmed, started, dropEndWhile_of_last ended, visible,
    List.filter_append]
  rfl

/-- Has a scheme, and behind it what that needs. -/
def HasScheme (text : List Char) : Prop :=
  ∃ scheme behind, splitScheme text = some (scheme, behind) ∧ HasRest scheme behind

/-- Is read, and names no user in place of a host. -/
def Continues (text : List Char) : Prop :=
  ∃ scheme behind, splitScheme text = some (scheme, behind) ∧
    (readBehind scheme behind).isOk = true ∧ behind ≠ "//@".toList

theorem readVisible_isOk_iff :
    (readVisible text).isOk = true ↔
      ∃ scheme behind, splitScheme text = some (scheme, behind) ∧
        (readBehind scheme behind).isOk = true := by
  rw [readVisible]
  cases splitScheme text with
  | none => exact iff_of_false Bool.false_ne_true nofun
  | some parts =>
      constructor
      · exact fun read => ⟨parts.1, parts.2, rfl, read⟩
      · rintro ⟨_, _, ⟨⟩, read⟩
        exact read

theorem Continues.hasScheme (continues : Continues text) : HasScheme text := by
  obtain ⟨scheme, behind, split, read, -⟩ := continues
  exact ⟨scheme, behind, split, hasRest_of_isOk read⟩

theorem splitScheme_slash (text path : List Char) :
    splitScheme (text ++ '/' :: path) =
      (splitScheme text).map fun (scheme, behind) => (scheme, behind ++ '/' :: path) :=
  splitScheme_append (by rintro _ ⟨⟩; decide) text

theorem readVisible_slash_isOk_iff {path : List Char} (rooted : HasScheme text)
    (plain : BeginsPlainly path) :
    (readVisible (text ++ '/' :: path)).isOk = true ↔ Continues text := by
  obtain ⟨scheme, behind, split, able⟩ := rooted
  rw [readVisible_isOk_iff, splitScheme_slash, split]
  constructor
  · rintro ⟨_, _, ⟨⟩, read⟩
    obtain ⟨read, named⟩ := readBehind_of_slash able read
    exact ⟨scheme, behind, split, read, named⟩
  · rintro ⟨scheme', behind', split', read, named⟩
    cases split.symm.trans split'
    exact ⟨scheme, behind ++ '/' :: path, rfl, readBehind_slash plain read named⟩

theorem continues_of_slashes {path : List Char} (slashes : ∀ c ∈ path, c = '/')
    (read : (readVisible (text ++ '/' :: path)).isOk = true) : Continues text := by
  rw [readVisible_isOk_iff, splitScheme_slash] at read
  obtain ⟨scheme, longer, split, read⟩ := read
  obtain ⟨⟨_, behind⟩, parts, ⟨⟩⟩ := Option.map_eq_some_iff.mp split
  have able : HasRest scheme behind :=
    (hasRest_of_isOk read).of_append (List.forall_mem_cons.mpr ⟨rfl, slashes⟩)
  obtain ⟨read, named⟩ := readBehind_of_slash able read
  exact ⟨scheme, behind, parts, read, named⟩

variable {kept slashes : List Char}

theorem parse_slash_isOk_iff {path : List Char} (rooted : HasScheme (fronting kept))
    (ends : ∀ last ∈ ('/' :: path).getLast?, ' ' < last) (plain : BeginsPlainly (visible path)) :
    (parse (String.ofList (kept ++ '/' :: path))).isOk = true ↔ Continues (fronting kept) := by
  rw [parse_slash ends]
  exact readVisible_slash_isOk_iff rooted plain

theorem continues_of_parse_slashes (all : ∀ c ∈ slashes, c = '/')
    (accepted : (parse (String.ofList (kept ++ '/' :: slashes))).isOk = true) :
    Continues (fronting kept) := by
  have ends : ∀ last ∈ ('/' :: slashes).getLast?, ' ' < last := by
    intro last final
    obtain rfl | later := List.mem_cons.mp (List.mem_of_getLast? final)
    · decide
    · rw [all last later]
      decide
  rw [parse_slash ends] at accepted
  exact continues_of_slashes (fun c member => all c (List.mem_filter.mp member).1) accepted

/-- What is left of a text in front of a path is what the text is read as, and the blanks at its
end. -/
theorem fronting_eq (text : List Char) :
    ∃ blanks, fronting text = visible (trimmed text) ++ blanks ∧ ∀ c ∈ blanks, c ≤ ' ' := by
  obtain ⟨blanks, parts, blank⟩ := dropEndWhile_append (· ≤ ' ') (text.dropWhile (· ≤ ' '))
  refine ⟨visible blanks, ?_, fun c member => ?_⟩
  · rw [trimmed, visible, visible, ← List.filter_append, ← parts]
    rfl
  · exact of_decide_eq_true (blank c (List.mem_filter.mp member).1)

theorem not_inScheme_of_le {c : Char} (blank : c ≤ ' ') : inScheme c = false ∧ c ≠ ':' := by
  have all : ∀ code < 33, inScheme (Char.ofNat code) = false ∧ Char.ofNat code ≠ ':' := by decide
  have low : c.toNat < 33 := Nat.lt_succ_of_le blank
  rw [← c.ofNat_toNat]
  exact all c.toNat low

theorem hasScheme_of_parse (accepted : (parse (String.ofList text)).isOk = true) :
    HasScheme (fronting text) := by
  obtain ⟨blanks, parts, blank⟩ := fronting_eq text
  rw [parse_eq, String.toList_ofList, readVisible_isOk_iff] at accepted
  obtain ⟨scheme, behind, split, read⟩ := accepted
  -- The blanks that are kept in front of a path come behind the scheme and what it needs.
  refine ⟨scheme, behind ++ blanks, ?_, (hasRest_of_isOk read).append blanks⟩
  rw [parts, splitScheme_append fun c first => not_inScheme_of_le (blank c (List.mem_of_head? first)),
    split]
  rfl

theorem fronting_suffix (text : List Char) : fronting text <:+ visible text :=
  (List.dropWhile_suffix _).filter _

theorem splitScheme_suffix {behind : List Char} (parts : splitScheme text = some (scheme, behind)) :
    behind <:+ text := by
  rw [splitScheme_eq] at parts
  unfold withColon at parts
  split at parts
  next rest _ follows =>
    split at parts
    next =>
      cases parts
      exact (List.suffix_cons ':' behind).trans (follows ▸ List.drop_suffix _ text)
    next => cases parts
  next => cases parts

theorem continues_of_parse (accepted : (parse (String.ofList text)).isOk = true)
    (ends : ∀ last ∈ (visible text).getLast?, ' ' < last)
    (named : ¬"//@".toList <:+ visible text) : Continues (fronting text) := by
  have suffix := fronting_suffix text
  have whole : fronting text = visible (trimmed text) := by
    obtain ⟨blanks, parts, blank⟩ := fronting_eq text
    rcases List.eq_nil_or_concat blanks with rfl | ⟨init, last, rfl⟩
    · rw [parts, List.append_nil]
    -- A blank that was dropped would be the last of what is visible.
    · have final : last ∈ (visible text).getLast? := by
        obtain ⟨front, split⟩ := suffix
        rw [← split, parts]
        simp
      have low : last ≤ ' ' := blank last (by simp)
      exact absurd (ends last final) (Char.not_lt.mpr low)
  rw [parse_eq, String.toList_ofList, ← whole, readVisible_isOk_iff] at accepted
  obtain ⟨scheme, behind, split, read⟩ := accepted
  refine ⟨scheme, behind, split, read, ?_⟩
  rintro rfl
  exact named ((splitScheme_suffix split).trans suffix)

/-- A URL without the slashes at its end has a scheme. -/
theorem hasScheme_without_slashes (all : ∀ c ∈ slashes, c = '/')
    (accepted : (parse (String.ofList (kept ++ slashes))).isOk = true) :
    HasScheme (fronting kept) := by
  cases slashes with
  | nil => exact hasScheme_of_parse (List.append_nil kept ▸ accepted)
  | cons c rest =>
      obtain ⟨rfl, others⟩ := List.forall_mem_cons.mp all
      exact (continues_of_parse_slashes others accepted).hasScheme

/-- A URL that ends in neither a blank nor a user can be read with a path behind it, also without the
slashes at its end. -/
theorem continues_without_slashes (all : ∀ c ∈ slashes, c = '/')
    (accepted : (parse (String.ofList (kept ++ slashes))).isOk = true)
    (ends : ∀ last ∈ (visible (kept ++ slashes)).getLast?, ' ' < last)
    (named : ¬"//@".toList <:+ visible (kept ++ slashes)) : Continues (fronting kept) := by
  cases slashes with
  | nil =>
      rw [List.append_nil] at accepted ends named
      exact continues_of_parse accepted ends named
  | cons c rest =>
      obtain ⟨rfl, others⟩ := List.forall_mem_cons.mp all
      exact continues_of_parse_slashes others accepted

end VectorSearch.Url
