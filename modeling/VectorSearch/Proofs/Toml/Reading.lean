import VectorSearch.Proofs.Toml.Lexemes

namespace VectorSearch.Toml

/-! A document that is read is divided by its lexemes.

Each reader takes whole lexemes, whatever it makes of them; only the readers of quoted strings look
into one.
-/

/-- What is left of a text divides it at a lexeme. -/
def Reaches (text rest : List Char) : Prop :=
  ∃ lexemes, Lexes text lexemes rest

namespace Reaches

variable {text middle rest : List Char}

theorem refl (text : List Char) : Reaches text text :=
  ⟨[], .done text⟩

theorem trans (first : Reaches text middle) (second : Reaches middle rest) : Reaches text rest := by
  obtain ⟨lexemes, first⟩ := first
  obtain ⟨others, second⟩ := second
  exact ⟨lexemes ++ others, first.append second⟩

theorem plain {c : Char} (unquoted : isQuote c = false) (unmarked : c ≠ '#')
    (further : Reaches text rest) : Reaches (c :: text) rest := by
  obtain ⟨lexemes, further⟩ := further
  exact ⟨_, .plain unquoted unmarked further⟩

theorem comment {body : List Char} (inLine : '\n' ∉ body) (ends : text = [] ∨ text.head? = some '\n')
    (further : Reaches text rest) : Reaches ('#' :: (body ++ text)) rest := by
  obtain ⟨lexemes, further⟩ := further
  exact ⟨_, .comment inLine ends further⟩

/-- Characters that neither quote nor start a comment are passed one by one. -/
theorem dropWhile {p : Char → Bool} (outside : ∀ c, p c = true → isQuote c = false ∧ c ≠ '#')
    (text : List Char) : Reaches text (text.dropWhile p) := by
  have passed : ∀ c ∈ text.takeWhile p, isQuote c = false ∧ c ≠ '#' := by
    intro c member
    exact outside c (List.mem_takeWhile_imp member)
  have lexes := lexes_plain passed (.done (text.dropWhile p))
  rw [List.takeWhile_append_dropWhile] at lexes
  exact ⟨_, lexes⟩

end Reaches

section Strings

variable {text done content rest : List Char}

/-- An escape is decoded before what follows it is read. -/
theorem suffix_of_escape {decoded : Option Char} {next : Char → Option (List Char × List Char)}
    (escape : List Char) (read : decoded.bind next = some (content, rest))
    (later : ∀ c, next c = some (content, rest) → rest <:+ text) : rest <:+ escape ++ text := by
  obtain ⟨c, -, read⟩ := Option.bind_eq_some_iff.mp read
  exact (later c read).trans (List.suffix_append escape text)

theorem suffix_of_step {c : Char} (within : rest <:+ text) : rest <:+ c :: text :=
  within.trans (List.suffix_cons c text)

theorem basic_suffix (read : basic text done = some (content, rest)) : rest <:+ text := by
  fun_induction basic text done with
  | case1 => cases read
  | case2 =>
      cases read
      exact List.suffix_cons _ _
  | case3 a b _ _ ih => exact suffix_of_escape ['\\', 'x', a, b] read ih
  | case4 a b c d _ _ ih => exact suffix_of_escape ['\\', 'u', a, b, c, d] read ih
  | case5 a b c d e f g h _ _ ih =>
      exact suffix_of_escape ['\\', 'U', a, b, c, d, e, f, g, h] read ih
  | case6 c _ _ _ _ _ ih => exact suffix_of_escape ['\\', c] read ih
  | case7 => cases read
  | case8 _ _ _ _ _ _ _ _ _ ih => exact suffix_of_step (ih read)

theorem literal_suffix (read : literal text done = some (content, rest)) : rest <:+ text := by
  fun_induction literal text done with
  | case1 => cases read
  | case2 =>
      cases read
      exact List.suffix_cons _ _
  | case3 => cases read
  | case4 _ _ _ _ _ ih => exact suffix_of_step (ih read)

theorem basicLines_suffix {skip : Bool} (read : basicLines skip text done = some (content, rest)) :
    rest <:+ text := by
  fun_induction basicLines skip text done with
  | case1 => cases read
  | case2 =>
      cases read
      exact List.suffix_append ['"', '"', '"', '"', '"'] _
  | case3 =>
      cases read
      exact List.suffix_append ['"', '"', '"', '"'] _
  | case4 =>
      cases read
      exact List.suffix_append ['"', '"', '"'] _
  | case5 _ a b _ _ ih => exact suffix_of_escape ['\\', 'x', a, b] read ih
  | case6 _ a b c d _ _ ih => exact suffix_of_escape ['\\', 'u', a, b, c, d] read ih
  | case7 _ a b c d e f g h _ _ ih =>
      exact suffix_of_escape ['\\', 'U', a, b, c, d, e, f, g, h] read ih
  | case8 _ _ _ _ _ _ _ _ ih => exact suffix_of_step (ih read)
  | case9 _ c _ _ _ _ _ _ ih => exact suffix_of_escape ['\\', c] read ih
  | case10 _ _ _ _ _ _ _ _ _ _ _ _ ih => exact suffix_of_step (ih read)
  | case11 => cases read
  | case12 _ _ _ _ _ _ _ _ _ _ _ _ _ ih => exact suffix_of_step (ih read)

theorem literalLines_suffix (read : literalLines text done = some (content, rest)) :
    rest <:+ text := by
  fun_induction literalLines text done with
  | case1 => cases read
  | case2 =>
      cases read
      exact List.suffix_append ['\'', '\'', '\'', '\'', '\''] _
  | case3 =>
      cases read
      exact List.suffix_append ['\'', '\'', '\'', '\''] _
  | case4 =>
      cases read
      exact List.suffix_append ['\'', '\'', '\''] _
  | case5 _ _ _ _ _ _ _ ih => exact suffix_of_step (ih read)
  | case6 => cases read

theorem afterLineBreak_suffix (text : List Char) : afterLineBreak text <:+ text := by
  unfold afterLineBreak
  split
  next => exact List.suffix_cons _ _
  next => exact List.suffix_append ['\r', '\n'] _
  next => exact List.suffix_refl _

theorem quoted?_suffix (read : quoted? text = some (content, rest)) : rest <:+ text := by
  unfold quoted? at read
  split at read
  next => exact suffix_of_step (basic_suffix read)
  next => exact suffix_of_step (literal_suffix read)
  next => cases read

theorem string?_suffix (read : string? text = some (content, rest)) : rest <:+ text := by
  unfold string? at read
  split at read
  next tail =>
    exact ((basicLines_suffix read).trans (afterLineBreak_suffix tail)).trans
      (List.suffix_append ['"', '"', '"'] tail)
  next tail =>
    exact ((literalLines_suffix read).trans (afterLineBreak_suffix tail)).trans
      (List.suffix_append ['\'', '\'', '\''] tail)
  next => exact quoted?_suffix read

/-- A string on one line is read as one on several lines only where a quote follows it. -/
theorem string?_of_quoted? (read : quoted? text = some (content, rest))
    (ends : ∀ c ∈ rest.head?, isQuote c = false) : string? text = some (content, rest) := by
  unfold string?
  split
  next =>
    cases read
    cases ends '"' rfl
  next =>
    simp only [quoted?, literal] at read
    cases read
    cases ends '\'' rfl
  next => exact read

end Strings

namespace Reaches

variable {text rest : List Char}

theorem string {content : List Char} (read : string? text = some (content, rest)) :
    Reaches text rest := by
  obtain ⟨chars, rfl⟩ := string?_suffix read
  exact ⟨_, .quoted read (.done rest)⟩

end Reaches

/-- The rest of a comment, or what stands between lexemes, reaches what is left. -/
def Skips (text rest : List Char) : Bool → Prop
  | true => ∃ body behind, text = body ++ behind ∧ '\n' ∉ body ∧
      (behind = [] ∨ behind.head? = some '\n') ∧ Reaches behind rest
  | false => Reaches text rest

theorem Skips.cons {c : Char} {text rest : List Char} (inLine : c ≠ '\n')
    (further : Skips text rest true) : Skips (c :: text) rest true := by
  obtain ⟨body, behind, rfl, whole, ends, reaches⟩ := further
  exact ⟨c :: body, behind, rfl, by simp [Ne.symm inLine, whole], ends, reaches⟩

theorem Reaches.of_comment {text rest : List Char} (skips : Skips text rest true) :
    Reaches ('#' :: text) rest := by
  obtain ⟨body, behind, rfl, whole, ends, reaches⟩ := skips
  exact comment whole ends reaches

theorem isQuote_of_isSpace {c : Char} (space : isSpace c = true) : isQuote c = false ∧ c ≠ '#' := by
  simp only [isSpace, Bool.or_eq_true, beq_iff_eq] at space
  rcases space with rfl | rfl <;> decide

theorem skips_of_skipGap {comment : Bool} {text rest : List Char}
    (read : skipGap comment text = some rest) : Skips text rest comment := by
  fun_induction skipGap comment text with
  | case1 comment =>
      cases read
      cases comment with
      | false => exact .refl []
      | true => exact ⟨[], [], rfl, List.not_mem_nil, .inl rfl, .refl []⟩
  | case2 behind ih =>
      exact ⟨[], '\n' :: behind, rfl, List.not_mem_nil, .inr rfl, .plain rfl (by decide) (ih read)⟩
  | case3 _ _ inLine ih => exact .cons inLine (ih read)
  | case4 => cases read
  | case5 => cases read
  | case6 _ _ inLine _ _ ih => exact .cons inLine (ih read)
  | case7 comment c behind between blank ih =>
      cases Bool.eq_false_iff.mpr between
      have outside : isQuote c = false ∧ c ≠ '#' := by
        rcases Bool.or_eq_true_iff.mp blank with space | lineBreak
        · exact isQuote_of_isSpace space
        · cases eq_of_beq lineBreak
          decide
      exact .plain outside.1 outside.2 (ih read)
  | case8 comment _ between _ _ ih =>
      cases Bool.eq_false_iff.mpr between
      exact .plain rfl (by decide) (ih read)
  | case9 => cases read
  | case10 comment _ between _ _ ih =>
      cases Bool.eq_false_iff.mpr between
      exact .of_comment (ih read)
  | case11 comment _ _ between =>
      cases Bool.eq_false_iff.mpr between
      cases read
      exact .refl _

namespace Reaches

variable {text rest : List Char}

theorem skipGap (read : skipGap false text = some rest) : Reaches text rest :=
  skips_of_skipGap read

theorem spaces (text : List Char) : Reaches text (text.dropWhile isSpace) :=
  dropWhile (fun _ => isQuote_of_isSpace) text

theorem endLine (read : endLine text = some rest) : Reaches text rest := by
  refine (spaces text).trans ?_
  unfold Toml.endLine at read
  split at read
  next => 
    cases read
    exact ‹_ = []› ▸ refl []
  next behind marked => exact marked ▸ of_comment (skips_of_skipGap read)
  next =>
    split at read
    next => exact skipGap read
    next => cases read

theorem outside_of_isScalarChar {c : Char} (scalar : isScalarChar c = true) :
    isQuote c = false ∧ c ≠ '#' := by
  constructor
  · rw [isQuote, Bool.or_eq_false_iff, beq_eq_false_iff_ne, beq_eq_false_iff_ne]
    constructor <;> rintro rfl <;> cases scalar
  · rintro rfl
    cases scalar

theorem isScalarChar_of_isBareKeyChar {c : Char} (bare : isBareKeyChar c = true) :
    isScalarChar c = true := by
  simp [isScalarChar, isBareKeyChar] at bare ⊢
  simp [bare]

theorem quotedKey {content : List Char} (read : quoted? text = some (content, rest))
    (ends : ∀ c ∈ rest.head?, isQuote c = false) : Reaches text rest :=
  string (string?_of_quoted? read ends)

theorem keyPart {part : String} (read : keyPart? text = some (part, rest))
    (ends : ∀ c ∈ rest.head?, isQuote c = false) : Reaches text rest := by
  unfold keyPart? at read
  split at read
  next =>
    obtain ⟨_, string, ⟨⟩⟩ := Option.map_eq_some_iff.mp read
    exact quotedKey string ends
  next =>
    obtain ⟨_, string, ⟨⟩⟩ := Option.map_eq_some_iff.mp read
    exact quotedKey string ends
  next =>
    simp only [Option.ite_none_left_eq_some] at read
    obtain ⟨_, ⟨⟩⟩ := read
    exact dropWhile (fun _ bare => outside_of_isScalarChar (isScalarChar_of_isBareKeyChar bare)) text

theorem head_dropWhile_isSpace (closed : ∀ c ∈ (text.dropWhile isSpace).head?, isQuote c = false) :
    ∀ c ∈ text.head?, isQuote c = false := by
  cases text with
  | nil => nofun
  | cons d text =>
      by_cases space : isSpace d = true
      · rintro _ ⟨⟩
        exact (isQuote_of_isSpace space).1
      · rwa [List.dropWhile_cons_of_neg space] at closed

/-- What follows a key decides whether a quote before it was the end of a string: none may follow. -/
theorem key {fuel : Nat} {parts : List String} (read : key? fuel text = some (parts, rest))
    (ends : ∀ c ∈ rest.head?, isQuote c = false) : Reaches text rest := by
  induction fuel generalizing text parts with
  | zero => cases read
  | succ fuel ih =>
      simp only [key?, Option.bind_eq_bind, Option.bind_eq_some_iff] at read
      obtain ⟨⟨part, behind⟩, first, read⟩ := read
      refine (spaces text).trans ?_
      split at read
      next further dot =>
        simp only [Option.bind_eq_some_iff] at read
        obtain ⟨⟨others, _⟩, later, ⟨⟩⟩ := read
        have closed : ∀ c ∈ behind.head?, isQuote c = false :=
          head_dropWhile_isSpace (by simp [dot, isQuote])
        refine (keyPart first closed).trans ((spaces behind).trans ?_)
        rw [dot]
        exact plain rfl (by decide) (ih later)
      next =>
        cases read
        exact (keyPart first (head_dropWhile_isSpace ends)).trans (spaces behind)

theorem key_mark {fuel : Nat} {parts : List String} {mark : Char}
    (read : key? fuel text = some (parts, mark :: rest)) (unquoted : isQuote mark = false)
    (unmarked : mark ≠ '#') : Reaches text rest := by
  refine (key read ?_).trans (plain unquoted unmarked (refl rest))
  rintro _ ⟨⟩
  exact unquoted

theorem scalarText (text : List Char) : Reaches text (scalarText text).2 := by
  have scalar := dropWhile (fun _ => outside_of_isScalarChar) text
  unfold Toml.scalarText
  split
  next d behind dropped =>
    rw [dropped] at scalar
    dsimp only
    split
    next =>
      refine scalar.trans (plain rfl (by decide) ?_)
      exact dropWhile (fun _ => outside_of_isScalarChar) (d :: behind)
    next => exact scalar
  next => exact scalar

end Reaches

/-- The readers of values with this much fuel reach what they leave. -/
structure ValuesReach (fuel : Nat) : Prop where
  value {text rest value} : value? fuel text = some (value, rest) → Reaches text rest
  items {text rest done value} : items? fuel text done = some (value, rest) → Reaches text rest
  members {text rest done value} : members? fuel text done = some (value, rest) → Reaches text rest

namespace ValuesReach

variable {fuel : Nat} {text rest : List Char} {value : Json}

theorem value_succ (below : ValuesReach fuel) (read : value? (fuel + 1) text = some (value, rest)) :
    Reaches text rest := by
  unfold value? at read
  split at read
  next => exact .plain rfl (by decide) (below.items read)
  next => exact .plain rfl (by decide) (below.members read)
  next =>
    obtain ⟨_, string, ⟨⟩⟩ := Option.map_eq_some_iff.mp read
    exact .string string
  next =>
    obtain ⟨_, string, ⟨⟩⟩ := Option.map_eq_some_iff.mp read
    exact .string string
  next =>
    obtain ⟨_, -, ⟨⟩⟩ := Option.bind_eq_some_iff.mp read
    exact .scalarText text

theorem items_succ (below : ValuesReach fuel) {done : List Json}
    (read : items? (fuel + 1) text done = some (value, rest)) : Reaches text rest := by
  simp only [items?, Option.bind_eq_bind, Option.bind_eq_some_iff] at read
  obtain ⟨first, gap, read⟩ := read
  refine Reaches.trans (.skipGap gap) ?_
  split at read
  next =>
    cases read
    exact .plain rfl (by decide) (.refl _)
  next =>
    simp only [Option.bind_eq_some_iff] at read
    obtain ⟨⟨item, behind⟩, inner, after, gap, read⟩ := read
    refine (below.value inner).trans (Reaches.trans (.skipGap gap) ?_)
    split at read
    next => exact .plain rfl (by decide) (below.items read)
    next =>
      cases read
      exact .plain rfl (by decide) (.refl _)
    next => cases read

theorem members_succ (below : ValuesReach fuel) {done : Entries}
    (read : members? (fuel + 1) text done = some (value, rest)) : Reaches text rest := by
  simp only [members?, Option.bind_eq_bind, Option.bind_eq_some_iff] at read
  obtain ⟨first, gap, read⟩ := read
  refine Reaches.trans (.skipGap gap) ?_
  split at read
  next =>
    cases read
    exact .plain rfl (by decide) (.refl _)
  next =>
    simp only [Option.bind_eq_some_iff] at read
    obtain ⟨⟨name, behind⟩, named, read⟩ := read
    dsimp only at read
    split at read
    next further =>
      simp only [Option.bind_eq_some_iff] at read
      obtain ⟨⟨item, after⟩, inner, _, -, last, gap, read⟩ := read
      refine (Reaches.key_mark named rfl (by decide)).trans ((Reaches.spaces further).trans ?_)
      refine (below.value inner).trans (Reaches.trans (.skipGap gap) ?_)
      split at read
      next => exact .plain rfl (by decide) (below.members read)
      next =>
        cases read
        exact .plain rfl (by decide) (.refl _)
      next => cases read
    next => cases read

end ValuesReach

theorem valuesReach (fuel : Nat) : ValuesReach fuel := by
  induction fuel with
  | zero => exact ⟨nofun, nofun, nofun⟩
  | succ fuel ih => exact ⟨ih.value_succ, ih.items_succ, ih.members_succ⟩

theorem reaches_of_statement? {fuel : Nat} {draft next : Draft} {text rest : List Char}
    (read : statement? fuel draft text = some (next, rest)) : Reaches text rest := by
  unfold statement? at read
  split at read <;>
    simp only [Option.bind_eq_bind, Option.bind_eq_some_iff] at read <;>
    obtain ⟨⟨path, behind⟩, named, read⟩ := read <;>
    dsimp only at read <;>
    split at read
  next further _ =>
    simp only [Option.bind_eq_some_iff, pure, Option.some.injEq, Prod.mk.injEq] at read
    obtain ⟨_, -, _, last, -, rfl⟩ := read
    have header := (Reaches.key_mark named rfl (by decide)).trans
      (Reaches.plain rfl (by decide) (.endLine last))
    exact .plain rfl (by decide) (.plain rfl (by decide) header)
  next => cases read
  next =>
    simp only [Option.bind_eq_some_iff, pure, Option.some.injEq, Prod.mk.injEq] at read
    obtain ⟨_, -, _, last, -, rfl⟩ := read
    have header := (Reaches.key_mark named rfl (by decide)).trans (.endLine last)
    exact .plain rfl (by decide) header
  next => cases read
  next further =>
    simp only [Option.bind_eq_some_iff, pure, Option.some.injEq, Prod.mk.injEq] at read
    obtain ⟨⟨value, after⟩, inner, _, -, _, last, -, rfl⟩ := read
    have member := (Reaches.key_mark named rfl (by decide)).trans (.spaces further)
    exact member.trans (((valuesReach fuel).value inner).trans (.endLine last))
  next => cases read

theorem reaches_of_statements? {fuel : Nat} {draft final : Draft} {text : List Char}
    (read : statements? fuel draft text = some final) : Reaches text [] := by
  induction fuel generalizing draft text with
  | zero =>
      cases text with
      | nil => exact .refl []
      | cons c text => cases read
  | succ fuel ih =>
      cases text with
      | nil => exact .refl []
      | cons c text =>
          simp only [statements?, Option.bind_eq_bind, Option.bind_eq_some_iff] at read
          obtain ⟨⟨next, behind⟩, first, after, gap, later⟩ := read
          exact (reaches_of_statement? first).trans (Reaches.trans (.skipGap gap) (ih later))

/-- A document that can be read is divided by its lexemes to the end. -/
theorem reaches_of_parse? {text : String} (valid : (parse? text).isSome = true) :
    Reaches text.toList [] := by
  obtain ⟨value, read⟩ := Option.isSome_iff_exists.mp valid
  simp only [parse?, Option.bind_eq_bind, Option.bind_eq_some_iff] at read
  obtain ⟨behind, gap, draft, read, -⟩ := read
  have further := reaches_of_statements? read
  split at gap
  next rest marked =>
    rw [marked]
    exact .plain rfl (by decide) (Reaches.trans (.skipGap gap) further)
  next => exact Reaches.trans (.skipGap gap) further

end VectorSearch.Toml
