import VectorSearch.Proofs.Text.Line
import VectorSearch.Toml.Reader

namespace VectorSearch.Toml

def isQuote (c : Char) : Bool :=
  c == '"' || c == '\''

/-- A stretch of a document: a character of its own, a string with its quotes, or a comment without
the end of its line. -/
inductive Lexeme where
  | plain (c : Char)
  | quoted (chars : List Char)
  | comment (body : List Char)

def Lexeme.source : Lexeme → List Char
  | .plain c => [c]
  | .quoted chars => chars
  | .comment body => '#' :: body

/-- The lexemes at the start of a text, down to what is left. -/
inductive Lexes : List Char → List Lexeme → List Char → Prop where
  | done (text : List Char) : Lexes text [] text
  | plain {c : Char} {text rest : List Char} {lexemes : List Lexeme} (unquoted : isQuote c = false)
      (unmarked : c ≠ '#') (further : Lexes text lexemes rest) :
      Lexes (c :: text) (.plain c :: lexemes) rest
  | quoted {chars content text rest : List Char} {lexemes : List Lexeme}
      (read : string? (chars ++ text) = some (content, text)) (further : Lexes text lexemes rest) :
      Lexes (chars ++ text) (.quoted chars :: lexemes) rest
  | comment {body text rest : List Char} {lexemes : List Lexeme} (inLine : '\n' ∉ body)
      (ends : text = [] ∨ text.head? = some '\n') (further : Lexes text lexemes rest) :
      Lexes ('#' :: (body ++ text)) (.comment body :: lexemes) rest

theorem Lexes.append {text middle rest : List Char} {lexemes others : List Lexeme}
    (first : Lexes text lexemes middle) (second : Lexes middle others rest) :
    Lexes text (lexemes ++ others) rest := by
  induction first with
  | done text => exact second
  | plain unquoted unmarked _ ih => exact .plain unquoted unmarked (ih second)
  | quoted read _ ih => exact .quoted read (ih second)
  | comment inLine ends _ ih => exact .comment inLine ends (ih second)

theorem Lexes.source {text rest : List Char} {lexemes : List Lexeme}
    (lexes : Lexes text lexemes rest) : text = lexemes.flatMap Lexeme.source ++ rest := by
  induction lexes with
  | done text => rfl
  | plain unquoted unmarked _ ih => exact congrArg (_ :: ·) ih
  | quoted read _ ih => simp [Lexeme.source, ← ih]
  | comment inLine ends _ ih => simp [Lexeme.source, ← ih]

theorem lexes_plain {chars text rest : List Char} {lexemes : List Lexeme}
    (outside : ∀ c ∈ chars, isQuote c = false ∧ c ≠ '#') (further : Lexes text lexemes rest) :
    Lexes (chars ++ text) (chars.map .plain ++ lexemes) rest := by
  induction chars with
  | nil => exact further
  | cons c chars ih =>
      obtain ⟨⟨unquoted, unmarked⟩, others⟩ := List.forall_mem_cons.mp outside
      exact .plain unquoted unmarked (ih others)

theorem head_of_string? {text content rest : List Char} (read : string? text = some (content, rest)) :
    ∃ c tail, text = c :: tail ∧ isQuote c = true := by
  unfold string? quoted? at read
  split at read
  next => exact ⟨_, _, rfl, rfl⟩
  next => exact ⟨_, _, rfl, rfl⟩
  next =>
    split at read
    next => exact ⟨_, _, rfl, rfl⟩
    next => exact ⟨_, _, rfl, rfl⟩
    next => cases read

/-- A text has the lexemes it has in one way. -/
theorem Lexes.unique {text : List Char} {lexemes others : List Lexeme}
    (lexes : Lexes text lexemes []) (also : Lexes text others []) : lexemes = others := by
  generalize whole : [] = rest at lexes
  induction lexes generalizing others with
  | done text =>
      subst whole
      generalize same : [] = start at also
      cases also with
      | done => rfl
      | quoted read =>
          obtain ⟨_, _, starts, -⟩ := head_of_string? read
          cases same.trans starts
      | _ => cases same
  | @plain c text rest lexemes unquoted unmarked _ ih =>
      generalize same : c :: text = start at also
      cases also with
      | done => cases same
      | plain _ _ further =>
          cases same
          rw [ih further whole]
      | quoted read =>
          obtain ⟨_, _, starts, quote⟩ := head_of_string? read
          cases same.trans starts
          cases unquoted.symm.trans quote
      | comment => exact absurd (List.cons.inj same).1 unmarked
  | @quoted chars content text rest lexemes read _ ih =>
      generalize same : chars ++ text = start at also
      obtain ⟨c, tail, starts, quote⟩ := head_of_string? read
      cases also with
      | done => cases same.symm.trans starts
      | plain unquoted =>
          cases same.symm.trans starts
          cases unquoted.symm.trans quote
      | quoted read' further =>
          have read'' := same ▸ read
          cases read'.symm.trans read''
          rw [ih further whole, List.append_cancel_right same]
      | comment =>
          cases same.symm.trans starts
          cases quote
  | @comment body text rest lexemes inLine ends _ ih =>
      generalize same : '#' :: (body ++ text) = start at also
      cases also with
      | done => cases same
      | plain _ unmarked => exact absurd (List.cons.inj same).1.symm unmarked
      | quoted read =>
          obtain ⟨_, _, starts, quote⟩ := head_of_string? read
          cases same.trans starts
          cases quote
      | comment inLine' ends' further =>
          obtain ⟨rfl, rfl⟩ := Text.line_unique inLine inLine' ends ends' (List.cons.inj same).2
          rw [ih further whole]

/-- A lexeme covers a position of the text. -/
def Covers (lexemes : List Lexeme) (place : Nat) (lexeme : Lexeme) : Prop :=
  ∃ before after offset, lexemes = before ++ lexeme :: after ∧ offset < lexeme.source.length ∧
    place = (before.flatMap Lexeme.source).length + offset

def InString (lexemes : List Lexeme) (place : Nat) : Prop :=
  ∃ chars, Covers lexemes place (.quoted chars)

def InComment (lexemes : List Lexeme) (place : Nat) : Prop :=
  ∃ body, Covers lexemes place (.comment body)

theorem Covers.first {lexeme : Lexeme} {lexemes : List Lexeme} {place : Nat}
    (inside : place < lexeme.source.length) : Covers (lexeme :: lexemes) place lexeme :=
  ⟨[], lexemes, place, rfl, inside, by simp⟩

theorem Covers.later {first lexeme : Lexeme} {lexemes : List Lexeme} {place : Nat}
    (covers : Covers lexemes place lexeme) :
    Covers (first :: lexemes) (first.source.length + place) lexeme := by
  obtain ⟨before, after, offset, rfl, inside, rfl⟩ := covers
  refine ⟨first :: before, after, offset, rfl, inside, ?_⟩
  rw [List.flatMap_cons, List.length_append]
  omega

namespace Lexes

variable {text rest : List Char} {lexemes others : List Lexeme} {place : Nat}

theorem split (lexes : Lexes text (lexemes ++ others) rest) :
    ∃ middle, Lexes text lexemes middle ∧ Lexes middle others rest := by
  induction lexemes generalizing text with
  | nil => exact ⟨text, .done text, lexes⟩
  | cons lexeme lexemes ih =>
      rw [List.cons_append] at lexes
      cases lexes with
      | plain unquoted unmarked further =>
          obtain ⟨middle, first, second⟩ := ih further
          exact ⟨middle, .plain unquoted unmarked first, second⟩
      | quoted read further =>
          obtain ⟨middle, first, second⟩ := ih further
          exact ⟨middle, .quoted read first, second⟩
      | comment inLine ends further =>
          obtain ⟨middle, first, second⟩ := ih further
          exact ⟨middle, .comment inLine ends first, second⟩

/-- A number sign stands in a string or a comment. -/
theorem marked (lexes : Lexes text lexemes []) (mark : text[place]? = some '#') :
    InString lexemes place ∨ InComment lexemes place := by
  suffices held : ∃ lexeme, Covers lexemes place lexeme ∧ ∀ c, lexeme ≠ .plain c by
    obtain ⟨lexeme, covers, other⟩ := held
    cases lexeme with
    | plain c => exact absurd rfl (other c)
    | quoted chars => exact .inl ⟨chars, covers⟩
    | comment body => exact .inr ⟨body, covers⟩
  generalize whole : [] = rest at lexes
  induction lexes generalizing place with
  | done text =>
      subst whole
      cases mark
  | plain unquoted unmarked _ ih =>
      cases place with
      | zero => exact absurd (Option.some.inj mark) unmarked
      | succ place =>
          obtain ⟨lexeme, covers, other⟩ := ih mark whole
          exact ⟨lexeme, Nat.add_comm 1 place ▸ covers.later, other⟩
  | @quoted chars _ _ _ _ _ _ ih =>
      by_cases inside : place < chars.length
      · exact ⟨.quoted chars, .first inside, nofun⟩
      · obtain ⟨behind, rfl⟩ := Nat.exists_eq_add_of_le (Nat.not_lt.mp inside)
        rw [List.getElem?_append_right (Nat.not_lt.mp inside), Nat.add_sub_cancel_left] at mark
        obtain ⟨lexeme, covers, other⟩ := ih mark whole
        exact ⟨lexeme, covers.later, other⟩
  | @comment body _ _ _ _ _ _ ih =>
      by_cases inside : place < ('#' :: body).length
      · exact ⟨.comment body, .first inside, nofun⟩
      · obtain ⟨behind, rfl⟩ := Nat.exists_eq_add_of_le (Nat.not_lt.mp inside)
        rw [← List.cons_append, List.getElem?_append_right (Nat.not_lt.mp inside),
          Nat.add_sub_cancel_left] at mark
        obtain ⟨lexeme, covers, other⟩ := ih mark whole
        exact ⟨lexeme, covers.later, other⟩

/-- A comment starts with its mark, stays on its line and goes to the end of it. -/
theorem comment_extent (lexes : Lexes text lexemes []) (inside : InComment lexemes place) :
    ∃ first behind, first ≤ place ∧ place < behind ∧ text[first]? = some '#' ∧
      (text[behind]? = none ∨ text[behind]? = some '\n') ∧
      ∀ i, first ≤ i → i < behind → text[i]? ≠ some '\n' ∧ InComment lexemes i := by
  obtain ⟨body, before, after, offset, rfl, within, rfl⟩ := inside
  obtain ⟨middle, front, further⟩ := lexes.split
  have shape := front.source
  generalize length : before.flatMap Lexeme.source = chars at shape 
  cases further with
  | @comment _ back _ _ inLine ends further =>
      have within : offset < body.length + 1 := within
      have here (i : Nat) : text[chars.length + i]? = ('#' :: (body ++ back))[i]? := by
        rw [shape, List.getElem?_append_right (Nat.le_add_right ..), Nat.add_sub_cancel_left]
      refine ⟨chars.length, chars.length + (body.length + 1), Nat.le_add_right .., by omega,
        here 0, ?_, fun i low high => ?_⟩
      · rw [here, List.getElem?_cons_succ, List.getElem?_append_right (Nat.le_refl _), Nat.sub_self]
        rcases ends with rfl | head
        · exact .inl rfl
        · exact .inr (List.head?_eq_getElem? ▸ head)
      · obtain ⟨offset, rfl⟩ := Nat.exists_eq_add_of_le low
        have within : offset < ('#' :: body).length := Nat.lt_of_add_lt_add_left high
        refine ⟨fun lineBreak => ?_, body, before, after, offset, rfl, within, by rw [length]⟩
        rw [here, ← List.cons_append, List.getElem?_append_left within] at lineBreak
        exact inLine (by simpa using List.mem_of_getElem? lineBreak)

end Lexes

end VectorSearch.Toml
