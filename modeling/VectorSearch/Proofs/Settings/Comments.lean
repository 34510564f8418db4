import VectorSearch.Proofs.Settings.Expansion
import VectorSearch.Proofs.Toml.Reading

namespace VectorSearch.Settings

open Text Toml

/-! Which references of a document are replaced.

A reference is passed over if a `#` stands before it on its line. In a document that can be read, such
a `#` starts a comment that holds the reference, or it stands in a string.
-/

/-- A `#` in a string stands before a position on its line, which is at the place. -/
def MarkedBefore (text : List Char) (lexemes : List Lexeme) (start place : Nat) : Prop :=
  ∃ mark, start - place ≤ mark ∧ mark < start ∧ text[mark]? = some '#' ∧ InString lexemes mark

section Marks

variable {text line : List Char} {start place : Nat} {name : List Char} {lexemes : List Lexeme}

theorem isLive_iff (inLine : InLine text start line place) (found : Found line place name) :
    IsLive text start name ↔ '#' ∉ line.take place := by
  constructor
  · rintro ⟨other, behind, inOther, foundOther, clear⟩
    obtain ⟨rfl, rfl⟩ := inLine.unique found.lt_length inOther foundOther.lt_length
    exact clear
  · intro clear
    exact ⟨line, place, inLine, found, clear⟩

theorem hash_mem_take_iff (inLine : InLine text start line place) (inside : place < line.length) :
    '#' ∈ line.take place ↔
      ∃ mark, start - place ≤ mark ∧ mark < start ∧ text[mark]? = some '#' := by
  obtain ⟨first, rfl, -, -, within⟩ := inLine.positions
  rw [List.mem_take_iff_getElem]
  constructor
  · rintro ⟨i, bound, mark⟩
    have before : i < place := by omega
    refine ⟨first + i, by omega, by omega, ?_⟩
    rw [(within i (by omega)).1, List.getElem?_eq_getElem (by omega), mark]
  · rintro ⟨mark, low, high, here⟩
    obtain ⟨i, rfl⟩ := Nat.exists_eq_add_of_le (show first ≤ mark by omega)
    rw [(within i (by omega)).1] at here
    obtain ⟨bound, here⟩ := List.getElem?_eq_some_iff.mp here
    exact ⟨i, by omega, here⟩

/-- A comment that starts before a reference on its line holds the reference. -/
theorem isLive_iff_outside (lexes : Lexes text lexemes []) (inLine : InLine text start line place)
    (found : Found line place name) :
    IsLive text start name ↔
      ¬InComment lexemes start ∧ ¬MarkedBefore text lexemes start place := by
  rw [isLive_iff inLine found, hash_mem_take_iff inLine found.lt_length]
  obtain ⟨first, rfl, begins, -, within⟩ := inLine.positions
  have dollar : text[first + place]? = some '$' :=
    (within place found.lt_length).1.trans found.getElem?
  constructor
  · intro clear
    refine ⟨fun inside => ?_, fun ⟨mark, low, high, here, _⟩ => clear ⟨mark, low, high, here⟩⟩
    obtain ⟨mark, behind, low, high, here, -, extent⟩ := lexes.comment_extent inside
    have apart : mark ≠ first + place := by
      rintro rfl
      cases here.symm.trans dollar
    have sameLine : first ≤ mark := by
      by_contra outside
      have lineBreak := begins.resolve_left (by omega)
      exact (extent (first - 1) (by omega) (by omega)).1 lineBreak
    exact clear ⟨mark, by omega, by omega, here⟩
  · rintro ⟨outside, unmarked⟩ ⟨mark, low, high, here⟩
    rcases lexes.marked here with inString | inside
    · exact unmarked ⟨mark, low, high, here, inString⟩
    · obtain ⟨_, behind, _, _, _, ends, extent⟩ := lexes.comment_extent inside
      have further : first + place < behind := by
        by_contra short
        obtain ⟨i, rfl⟩ := Nat.exists_eq_add_of_le (show first ≤ behind by omega)
        have bound : i < line.length := by
          have := found.lt_length
          omega
        rcases ends with beyond | lineBreak
        · rw [(within i bound).1, List.getElem?_eq_getElem bound] at beyond
          cases beyond
        · exact (within i bound).2 lineBreak
      exact outside (extent _ (by omega) further).2

end Marks

/-- A document that can be read has its lexemes in one way. A reference that is found in its line is
replaced, or reported for its variable, exactly if it stands outside comments and no `#` in a string is
before it on its line. All else stays, but for carriage returns before line breaks. -/
theorem expand_outside_comments (lookup : String → Option String) {text : String}
    (valid : (parse? text).isSome = true) :
    ∃ (lexemes : List Lexeme) (pieces : List Piece), Lexes text.toList lexemes [] ∧
      (∀ others, Lexes text.toList others [] → others = lexemes) ∧
      pieces.flatMap Piece.source = text.toList ∧
      (∀ start name, StandsAt pieces start name ↔
        ∃ line place, InLine text.toList start line place ∧ Found line place name ∧
          ¬InComment lexemes start ∧ ¬MarkedBefore text.toList lexemes start place) ∧
      (∀ name, expand lookup text = .error name ↔ FirstUnset lookup pieces name) ∧
      ∀ output, expand lookup text = .ok output ↔
        (∀ name, .reference name ∈ pieces → (lookup (String.ofList name)).isSome = true) ∧
          output.toList = pieces.flatMap (Piece.filled lookup) := by
  obtain ⟨lexemes, lexes⟩ := reaches_of_parse? valid
  refine ⟨lexemes, pieces text, lexes, fun others also => also.unique lexes, source_pieces text,
    fun start name => ?_, fun _ => expand_eq_error_iff, fun _ => expand_eq_ok_iff⟩
  rw [standsAt_pieces_iff]
  constructor
  · intro live
    have ⟨line, place, inLine, found, _⟩ := live
    have outside := (isLive_iff_outside lexes inLine found).mp live
    exact ⟨line, place, inLine, found, outside⟩
  · rintro ⟨line, place, inLine, found, outside⟩
    exact (isLive_iff_outside lexes inLine found).mpr outside

theorem expand_outside_comments_both :
    let text := "a = '${A}' # ${B}\n"
    let lookup (name : String) : Option String := if name = "A" then some "x" else none
    (parse? text).isSome = true ∧ ∃ (lexemes : List Lexeme) (pieces : List Piece),
      Lexes text.toList lexemes [] ∧ .reference ['B'] ∉ pieces ∧
        pieces.flatMap (Piece.filled lookup) = "a = 'x' # ${B}\n".toList := by
  intro text lookup
  have valid : (parse? text).isSome = true := by decide +kernel
  obtain ⟨lexemes, pieces, lexes, -, -, -, -, expanded⟩ := expand_outside_comments lookup valid
  have ok : expand lookup text = .ok "a = 'x' # ${B}\n" := by decide +kernel
  obtain ⟨set, output⟩ := (expanded _).mp ok
  refine ⟨valid, lexemes, pieces, lexes, fun member => ?_, output.symm⟩
  cases set _ member

/-- A `#` in a string keeps a reference behind it in the same string from being replaced. -/
theorem reference_kept_in_string :
    let text := "[embedding]\napi_key = \"a#${OR_KEY}\"\n"
    let lookup (name : String) : Option String := if name = "OR_KEY" then some "secret" else none
    (parse? text).isSome = true ∧ (lookup "OR_KEY").isSome = true ∧
      (∃ lexemes line, Lexes text.toList lexemes [] ∧ InLine text.toList 25 line 13 ∧
        Found line 13 "OR_KEY".toList ∧ InString lexemes 25 ∧ ¬InComment lexemes 25) ∧
      expand lookup text = .ok text := by
  intro text lookup
  have string : string? ("\"a#${OR_KEY}\"".toList ++ ['\n']) =
      some ("a#${OR_KEY}".toList, ['\n']) := by
    decide +kernel
  have front : ∀ c ∈ "[embedding]\napi_key = ".toList, isQuote c = false ∧ c ≠ '#' := by
    simp [isQuote]
  have lineBreak : Lexes ['\n'] [.plain '\n'] [] := .plain rfl (by decide) (.done [])
  have whole : text.toList =
      "[embedding]\napi_key = ".toList ++ ("\"a#${OR_KEY}\"".toList ++ ['\n']) := by
    decide
  have lexes := whole ▸ lexes_plain front (.quoted string lineBreak)
  have clear : NoneWithin "api_key = \"a#".toList (spelled "OR_KEY".toList ++ ['"']) := by
    simp [noneWithin_cons, noneWithin_nil, startsReference_iff]
  refine ⟨by decide +kernel, rfl, ⟨_, "api_key = \"a#${OR_KEY}\"".toList, lexes, ?_, ?_, ?_, ?_⟩,
    by decide +kernel⟩
  · exact ⟨"[embedding]\n".toList, ['\n'], by decide, .inr rfl, by decide, .inr rfl, rfl⟩
  · exact .first ⟨by decide, by decide⟩ clear
  · exact ⟨_, _, _, 3, rfl, by decide, by decide⟩
  · rintro ⟨body, before, after, offset, same, -⟩
    have member : Lexeme.comment body ∈ before ++ .comment body :: after := by simp
    rw [← same] at member
    simp at member

end VectorSearch.Settings
