import Mathlib.Data.List.Basic
import VectorSearch.Proofs.Domain.Ascii
import VectorSearch.Proofs.Json.Shapes
import VectorSearch.Proofs.Settings.References

namespace VectorSearch.Settings

open Text

/-- A piece of a text: a character that is kept, a live reference, or a carriage return that is left
out because a line break follows it. -/
inductive Piece where
  | kept (c : Char)
  | reference (name : List Char)
  | lineReturn

namespace Piece

def source : Piece → List Char
  | .kept c => [c]
  | .reference name => spelled name
  | .lineReturn => ['\r']

/-- What is put in the place of a piece; a reference to a variable that is not set has nothing. -/
def value (lookup : String → Option String) : Piece → Except String (List Char)
  | .kept c => .ok [c]
  | .reference name =>
      match lookup (String.ofList name) with
      | none => .error (String.ofList name)
      | some value => .ok value.toList
  | .lineReturn => .ok []

/-- What a piece leaves where each variable that it refers to is set. -/
def filled (lookup : String → Option String) : Piece → List Char
  | .kept c => [c]
  | .reference name => ((lookup (String.ofList name)).map String.toList).getD []
  | .lineReturn => []

end Piece

/-- A reference stands among the pieces, behind pieces of so many characters. -/
def StandsAt (pieces : List Piece) (start : Nat) (name : List Char) : Prop :=
  ∃ before after, pieces = before ++ .reference name :: after ∧
    start = (before.flatMap Piece.source).length

/-- The pieces with their values in their places, or the first name without a value. -/
def fill (lookup : String → Option String) (pieces : List Piece) : Except String (List Char) :=
  List.flatten <$> pieces.mapM (Piece.value lookup)

/-- The pieces of a line. -/
def linePieces (line : List Char) : List Piece :=
  match line with
  | [] => []
  | '#' :: rest => ('#' :: rest).map .kept
  | '$' :: '{' :: rest =>
      match _found : reference? rest with
      | none => .kept '$' :: linePieces ('{' :: rest)
      | some (name, after) =>
          if name.contains '#' then .reference name :: after.map .kept
          else .reference name :: linePieces after
  | c :: rest => .kept c :: linePieces rest
termination_by line.length
decreasing_by
  · simp
  · have := reference?_length (by assumption)
    simp only [List.length_cons]; omega
  · simp

section Fill

variable (lookup : String → Option String)

theorem fill_nil : fill lookup [] = .ok [] :=
  rfl

theorem fill_cons (piece : Piece) (rest : List Piece) :
    fill lookup (piece :: rest) = do
      return (← piece.value lookup) ++ (← fill lookup rest) := by
  rw [fill, List.mapM_cons]
  cases piece.value lookup with
  | error name => rfl
  | ok chars =>
      rw [fill]
      cases rest.mapM (Piece.value lookup) <;> rfl

theorem fill_append (pieces others : List Piece) :
    fill lookup (pieces ++ others) = do
      return (← fill lookup pieces) ++ (← fill lookup others) := by
  induction pieces with
  | nil =>
      rw [List.nil_append, fill_nil]
      cases fill lookup others <;> rfl
  | cons piece rest ih =>
      rw [List.cons_append, fill_cons, fill_cons, ih]
      cases piece.value lookup with
      | error name => rfl
      | ok chars =>
          cases fill lookup rest with
          | error name => rfl
          | ok filled =>
              cases fill lookup others with
              | error name => rfl
              | ok more => exact congrArg Except.ok (List.append_assoc ..).symm

theorem fill_kept (chars : List Char) : fill lookup (chars.map .kept) = .ok chars := by
  induction chars with
  | nil => rfl
  | cons c rest ih =>
      rw [List.map_cons, fill_cons, ih]
      rfl

theorem expandLine_eq_fill (line : List Char) :
    expandLine lookup line = fill lookup (linePieces line) := by
  fun_induction linePieces line with
  | case1 => rw [expandLine, fill_nil]
  | case2 rest => rw [expandLine, fill_kept]
  | case3 rest none ih =>
      rw [expandLine, fill_cons, ← ih]
      split
      next => rfl
      next found => simp [none] at found
  | case4 rest name after found marked =>
      rw [expandLine, fill_cons, fill_kept, Piece.value]
      split
      next none => simp [found] at none
      next same =>
        cases found.symm.trans same
        simp only [marked, if_true]
        cases lookup (String.ofList name) <;> rfl
  | case5 rest name after found unmarked ih =>
      rw [expandLine, fill_cons, ← ih, Piece.value]
      split
      next none => simp [found] at none
      next same =>
        cases found.symm.trans same
        simp only [unmarked]
        cases lookup (String.ofList name) <;> rfl
  | case6 c rest noMark noBrace ih =>
      rw [expandLine, fill_cons, ← ih]
      · rfl
      · exact noMark
      · exact noBrace

end Fill

theorem not_standsAt_nil {start : Nat} {name : List Char} : ¬StandsAt [] start name := by
  rintro ⟨before, after, same, -⟩
  simp at same

theorem standsAt_cons_iff {piece : Piece} {rest : List Piece} {start : Nat} {name : List Char} :
    StandsAt (piece :: rest) start name ↔
      piece = .reference name ∧ start = 0 ∨
        ∃ behind, start = piece.source.length + behind ∧ StandsAt rest behind name := by
  constructor
  · rintro ⟨before, after, same, rfl⟩
    cases before with
    | nil => exact .inl ⟨(List.cons.inj same).1, rfl⟩
    | cons first before =>
        obtain ⟨rfl, rfl⟩ := List.cons.inj same
        exact .inr ⟨_, by simp, before, after, rfl, rfl⟩
  · rintro (⟨rfl, rfl⟩ | ⟨behind, rfl, before, after, rfl, rfl⟩)
    · exact ⟨[], rest, rfl, rfl⟩
    · exact ⟨piece :: before, after, rfl, by simp⟩

theorem standsAt_kept_cons_iff {c : Char} {rest : List Piece} {start : Nat} {name : List Char} :
    StandsAt (.kept c :: rest) start name ↔
      ∃ behind, start = behind + 1 ∧ StandsAt rest behind name := by
  rw [standsAt_cons_iff]
  simp [Piece.source, Nat.add_comm]

theorem not_standsAt_kept (chars : List Char) {start : Nat} {name : List Char} :
    ¬StandsAt (chars.map .kept) start name := by
  rintro ⟨before, after, same, -⟩
  have member : Piece.reference name ∈ chars.map .kept := by simp [same]
  simp at member

theorem standsAt_append_iff {pieces others : List Piece} {start : Nat} {name : List Char} :
    StandsAt (pieces ++ others) start name ↔
      StandsAt pieces start name ∨
        ∃ behind, start = (pieces.flatMap Piece.source).length + behind ∧
          StandsAt others behind name := by
  induction pieces generalizing start with
  | nil => simp [not_standsAt_nil]
  | cons piece rest ih =>
      rw [List.cons_append, standsAt_cons_iff, standsAt_cons_iff, or_assoc]
      refine or_congr_right ?_
      simp only [ih, List.flatMap_cons, List.length_append]
      constructor
      · rintro ⟨behind, rfl, here | ⟨further, rfl, there⟩⟩
        · exact .inl ⟨behind, rfl, here⟩
        · exact .inr ⟨further, by omega, there⟩
      · rintro (⟨behind, rfl, here⟩ | ⟨further, rfl, there⟩)
        · exact ⟨behind, rfl, .inl here⟩
        · exact ⟨_, by omega, .inr ⟨further, rfl, there⟩⟩

theorem source_kept (chars : List Char) : (chars.map Piece.kept).flatMap Piece.source = chars := by
  induction chars with
  | nil => rfl
  | cons c rest ih => exact congrArg (c :: ·) ih

theorem source_linePieces (line : List Char) : (linePieces line).flatMap Piece.source = line := by
  fun_induction linePieces line with
  | case1 => rfl
  | case2 rest => exact source_kept _
  | case3 rest none ih => exact congrArg ('$' :: ·) ih
  | case4 rest name after found marked =>
      obtain ⟨-, rfl⟩ := reference?_eq_some_iff.mp found
      rw [List.flatMap_cons, source_kept]
      exact spelled_append name after
  | case5 rest name after found unmarked ih =>
      obtain ⟨-, rfl⟩ := reference?_eq_some_iff.mp found
      rw [List.flatMap_cons, ih]
      exact spelled_append name after
  | case6 c rest noMark noBrace ih => exact congrArg (c :: ·) ih

/-- A character that starts no reference is stepped over. -/
theorem standsAt_step {c : Char} {rest : List Char} {pieces : List Piece} {name : List Char}
    (none : ¬StartsReference (c :: rest)) (unmarked : c ≠ '#')
    (later : ∀ {place}, StandsAt pieces place name ↔ Found rest place name ∧ '#' ∉ rest.take place)
    {place : Nat} :
    StandsAt (.kept c :: pieces) place name ↔
      Found (c :: rest) place name ∧ '#' ∉ (c :: rest).take place := by
  rw [standsAt_kept_cons_iff, found_cons_iff none]
  constructor
  · rintro ⟨behind, rfl, stands⟩
    obtain ⟨found, clear⟩ := later.mp stands
    exact ⟨⟨behind, rfl, found⟩, by simpa [Ne.symm unmarked] using clear⟩
  · rintro ⟨⟨behind, rfl, found⟩, clear⟩
    exact ⟨behind, rfl, later.mpr ⟨found, by simpa [Ne.symm unmarked] using clear⟩⟩

theorem hash_mem_spelled_iff {name : List Char} : '#' ∈ spelled name ↔ '#' ∈ name := by
  simp [spelled]

/-- The references among the pieces of a line are those that are found and have no `#` before them. -/
theorem standsAt_linePieces_iff (line : List Char) {place : Nat} {name : List Char} :
    StandsAt (linePieces line) place name ↔ Found line place name ∧ '#' ∉ line.take place := by
  fun_induction linePieces line generalizing place with
  | case1 => exact iff_of_false not_standsAt_nil fun ⟨found, _⟩ => not_found_nil found
  | case2 rest =>
      refine iff_of_false (not_standsAt_kept _) ?_
      rintro ⟨found, clear⟩
      have none : ¬StartsReference ('#' :: rest) := by
        rw [startsReference_iff]
        exact fun starts => absurd starts.1 (by decide)
      obtain ⟨behind, rfl, -⟩ := (found_cons_iff none).mp found
      exact clear (List.mem_cons_self ..)
  | case3 rest none ih =>
      have noReference : ¬StartsReference ('$' :: '{' :: rest) := by
        rw [startsReference_iff]
        rintro ⟨-, tail, same, some⟩
        cases same
        simp [none] at some
      exact standsAt_step noReference (by decide) ih
  | case4 rest first after found marked =>
      obtain ⟨named, rfl⟩ := reference?_eq_some_iff.mp found
      have hash : '#' ∈ spelled first := hash_mem_spelled_iff.mpr (List.contains_iff_mem.mp marked)
      rw [← spelled_append, standsAt_cons_iff, found_spelled_iff named]
      constructor
      · rintro (⟨same, rfl⟩ | ⟨_, _, stands⟩)
        · cases same
          exact ⟨.inl ⟨rfl, rfl⟩, by simp⟩
        · exact absurd stands (not_standsAt_kept _)
      · rintro ⟨⟨rfl, rfl⟩ | ⟨behind, rfl, _⟩, clear⟩
        · exact .inl ⟨rfl, rfl⟩
        · rw [List.take_length_add_append] at clear
          exact absurd (List.mem_append_left _ hash) clear
  | case5 rest first after found unmarked ih =>
      obtain ⟨named, rfl⟩ := reference?_eq_some_iff.mp found
      have noHash : '#' ∉ spelled first := fun member =>
        unmarked (List.contains_iff_mem.mpr (hash_mem_spelled_iff.mp member))
      rw [← spelled_append, standsAt_cons_iff, found_spelled_iff named]
      constructor
      · rintro (⟨same, rfl⟩ | ⟨behind, rfl, stands⟩)
        · cases same
          exact ⟨.inl ⟨rfl, rfl⟩, by simp⟩
        · obtain ⟨later, clear⟩ := ih.mp stands
          refine ⟨.inr ⟨behind, rfl, later⟩, ?_⟩
          rw [Piece.source, List.take_length_add_append]
          exact fun member => (List.mem_append.mp member).elim noHash clear
      · rintro ⟨⟨rfl, rfl⟩ | ⟨behind, rfl, later⟩, clear⟩
        · exact .inl ⟨rfl, rfl⟩
        · rw [List.take_length_add_append] at clear
          exact .inr ⟨behind, rfl, ih.mpr ⟨later, fun member => clear (List.mem_append_right _ member)⟩⟩
  | case6 c rest noMark noBrace ih =>
      have noReference : ¬StartsReference (c :: rest) := by
        rw [startsReference_iff]
        rintro ⟨dollar, tail, same, -⟩
        exact noBrace tail dollar same
      exact standsAt_step noReference noMark ih

/-- The pieces of a line that a line break follows. -/
def endedPieces (line : List Char) : List Piece :=
  if line.getLast? = some '\r' then linePieces line.dropLast ++ [.lineReturn] else linePieces line

/-- The pieces of lines with breaks between them. -/
def textPieces : List (List Char) → List Piece
  | [] => []
  | [last] => linePieces last
  | line :: next :: rest => endedPieces line ++ .kept '\n' :: textPieces (next :: rest)

theorem reference?_append_return (text : List Char) :
    reference? (text ++ ['\r']) =
      (reference? text).map fun (name, rest) => (name, rest ++ ['\r']) := by
  cases found : reference? text with
  | some parts =>
      obtain ⟨named, rfl⟩ := reference?_eq_some_iff.mp found
      exact reference?_eq_some_iff.mpr ⟨named, by simp⟩
  | none =>
      rw [Option.map_none, Option.eq_none_iff_forall_ne_some]
      rintro ⟨name, rest⟩ longer
      obtain ⟨named, same⟩ := reference?_eq_some_iff.mp longer
      -- The last character is no brace, so the reference ends before it.
      rcases List.eq_nil_or_concat rest with rfl | ⟨shorter, c, rfl⟩
      · cases (List.append_inj' same rfl).2
      · rw [List.concat_eq_append, ← List.cons_append, ← List.append_assoc] at same
        have whole : text = name ++ '}' :: shorter := (List.append_inj' same rfl).1
        rw [reference?_eq_some_iff.mpr ⟨named, whole⟩] at found
        cases found

theorem linePieces_append_return (line : List Char) :
    linePieces (line ++ ['\r']) = linePieces line ++ [.kept '\r'] := by
  fun_induction linePieces line with
  | case1 => simp [linePieces]
  | case2 rest => simp [linePieces]
  | case3 rest none ih =>
      have longer := reference?_append_return rest
      rw [none, Option.map_none] at longer
      rw [List.cons_append, List.cons_append, linePieces, List.cons_append, ← ih]
      split
      next => rfl
      next found => simp [longer] at found
  | case4 rest name after found marked =>
      have longer := reference?_append_return rest
      rw [found, Option.map_some] at longer
      rw [List.cons_append, List.cons_append, linePieces]
      split
      next none => simp [longer] at none
      next same =>
        cases longer.symm.trans same
        rw [if_pos marked, List.map_append]
        rfl
  | case5 rest name after found unmarked ih =>
      have longer := reference?_append_return rest
      rw [found, Option.map_some] at longer
      rw [List.cons_append, List.cons_append, linePieces]
      split
      next none => simp [longer] at none
      next same =>
        cases longer.symm.trans same
        rw [if_neg unmarked, ih]
        rfl
  | case6 c rest noMark noBrace ih =>
      rw [List.cons_append, linePieces, List.cons_append, ← ih]
      · exact noMark
      · intro tail dollar same
        cases rest with
        | nil => cases same
        | cons d rest => exact noBrace rest dollar (by rw [(List.cons.inj same).1])

theorem source_endedPieces (line : List Char) :
    (endedPieces line).flatMap Piece.source = line := by
  rw [endedPieces]
  split
  next last =>
    rw [List.flatMap_append, source_linePieces]
    exact List.dropLast_append_getLast? '\r' last
  next => exact source_linePieces line

theorem standsAt_endedPieces_iff (line : List Char) {place : Nat} {name : List Char} :
    StandsAt (endedPieces line) place name ↔ Found line place name ∧ '#' ∉ line.take place := by
  rw [endedPieces, ← standsAt_linePieces_iff]
  split
  next last =>
    have whole := linePieces_append_return line.dropLast
    rw [List.dropLast_append_getLast? '\r' last] at whole
    rw [whole, standsAt_append_iff, standsAt_append_iff]
    simp [standsAt_cons_iff, not_standsAt_nil]
  next => rfl

theorem source_textPieces (lines : List (List Char)) :
    (textPieces lines).flatMap Piece.source = ['\n'].intercalate lines := by
  fun_induction textPieces lines with
  | case1 => rfl
  | case2 last => simp [source_linePieces]
  | case3 line next rest ih =>
      rw [List.flatMap_append, source_endedPieces, List.flatMap_cons, ih]
      simp [Piece.source]

theorem isLive_last {line : List Char} (whole : '\n' ∉ line) {start : Nat} {name : List Char} :
    IsLive line start name ↔ Found line start name ∧ '#' ∉ line.take start := by
  constructor
  · rintro ⟨_, _, inLine, live⟩
    obtain ⟨rfl, rfl⟩ := (inLine_last whole).mp inLine
    exact live
  · intro live
    exact ⟨line, start, (inLine_last whole).mpr ⟨rfl, rfl⟩, live⟩

theorem isLive_cons {first rest : List Char} (whole : '\n' ∉ first) {start : Nat} {name : List Char} :
    IsLive (first ++ '\n' :: rest) start name ↔
      (Found first start name ∧ '#' ∉ first.take start) ∨
        ∃ below, start = first.length + 1 + below ∧ IsLive rest below name := by
  constructor
  · rintro ⟨line, place, inLine, live⟩
    rcases (inLine_cons whole).mp inLine with ⟨rfl, rfl⟩ | ⟨below, rfl, inRest⟩
    · exact .inl live
    · exact .inr ⟨below, rfl, line, place, inRest, live⟩
  · rintro (live | ⟨below, rfl, line, place, inRest, live⟩)
    · exact ⟨first, start, (inLine_cons whole).mpr (.inl ⟨rfl, rfl⟩), live⟩
    · exact ⟨line, place, (inLine_cons whole).mpr (.inr ⟨below, rfl, inRest⟩), live⟩

theorem standsAt_textPieces_iff {lines : List (List Char)} (whole : ∀ line ∈ lines, '\n' ∉ line)
    {start : Nat} {name : List Char} :
    StandsAt (textPieces lines) start name ↔ IsLive (['\n'].intercalate lines) start name := by
  fun_induction textPieces lines generalizing start with
  | case1 =>
      refine iff_of_false not_standsAt_nil fun live => ?_
      exact not_found_nil ((isLive_last List.not_mem_nil).mp live).1
  | case2 last =>
      obtain ⟨broken, -⟩ := List.forall_mem_cons.mp whole
      rw [List.intercalate_singleton, standsAt_linePieces_iff, isLive_last broken]
  | case3 line next rest ih =>
      obtain ⟨broken, others⟩ := List.forall_mem_cons.mp whole
      rw [List.intercalate_cons_cons, standsAt_append_iff, standsAt_endedPieces_iff,
        source_endedPieces, List.append_assoc, List.singleton_append, isLive_cons broken]
      refine or_congr_right ?_
      simp only [standsAt_kept_cons_iff, ih others]
      constructor
      · rintro ⟨_, rfl, below, rfl, live⟩
        exact ⟨below, by omega, live⟩
      · rintro ⟨below, rfl, live⟩
        exact ⟨_, Nat.add_assoc .., below, Nat.add_comm .., live⟩

theorem fill_endedPieces (lookup : String → Option String) (line : List Char) :
    fill lookup (endedPieces line) =
      expandLine lookup (if line.getLast? = some '\r' then line.dropLast else line) := by
  rw [endedPieces, expandLine_eq_fill]
  split
  next =>
    rw [fill_append]
    cases fill lookup (linePieces line.dropLast) with
    | error name => rfl
    | ok filled => exact congrArg Except.ok (List.append_nil filled)
  next => rfl

theorem expandLines_eq_fill (lookup : String → Option String) (lines : List (List Char)) :
    (do return ['\n'].intercalate (← (dropReturns lines).mapM (expandLine lookup))) =
      fill lookup (textPieces lines) := by
  fun_induction textPieces lines with
  | case1 => rfl
  | case2 last =>
      rw [dropReturns, List.mapM_cons, expandLine_eq_fill]
      cases fill lookup (linePieces last) with
      | error name => rfl
      | ok filled => exact congrArg Except.ok (List.intercalate_singleton ..)
  | case3 line next rest ih =>
      have drops : dropReturns (line :: next :: rest) =
          (if line.getLast? = some '\r' then line.dropLast else line) :: dropReturns (next :: rest) :=
        rfl
      rw [drops, List.mapM_cons, fill_append, fill_cons, ← ih, fill_endedPieces]
      cases expandLine lookup (if line.getLast? = some '\r' then line.dropLast else line) with
      | error name => rfl
      | ok first =>
          cases read : (dropReturns (next :: rest)).mapM (expandLine lookup) with
          | error name => rfl
          | ok others =>
              obtain ⟨second, later, shape⟩ :
                  ∃ second later, dropReturns (next :: rest) = second :: later := by
                cases rest <;> exact ⟨_, _, rfl⟩
              rw [shape, Json.mapM_eq_ok_iff] at read
              obtain ⟨_, _, -, -, rfl⟩ := List.forall₂_cons_left_iff.mp read
              exact congrArg Except.ok (List.intercalate_cons_cons.trans (List.append_assoc ..))

theorem expand_eq_fill (lookup : String → Option String) (text : String) :
    expand lookup text =
      String.ofList <$> fill lookup (textPieces (text.toList.splitOn '\n')) := by
  rw [expand, ← expandLines_eq_fill]
  cases (dropReturns (text.toList.splitOn '\n')).mapM (expandLine lookup) <;> rfl

/-- The first reference among pieces to a variable that is not set. -/
def FirstUnset (lookup : String → Option String) (pieces : List Piece) (name : String) : Prop :=
  ∃ before after, pieces = before ++ .reference name.toList :: after ∧ lookup name = none ∧
    ∀ other, .reference other ∈ before → (lookup (String.ofList other)).isSome = true

theorem value_eq_ok_iff {lookup : String → Option String} {piece : Piece} {chars : List Char} :
    piece.value lookup = .ok chars ↔
      (∀ name, piece = .reference name → (lookup (String.ofList name)).isSome = true) ∧
        chars = piece.filled lookup := by
  cases piece with
  | kept c => simp [Piece.value, Piece.filled, eq_comm (a := [c])]
  | lineReturn => simp [Piece.value, Piece.filled, eq_comm (a := [])]
  | reference name =>
      cases set : lookup (String.ofList name) with
      | none => simp [Piece.value, set]
      | some value => simp [Piece.value, Piece.filled, set, eq_comm (a := value.toList)]

theorem value_eq_error_iff {lookup : String → Option String} {piece : Piece} {name : String} :
    piece.value lookup = .error name ↔ piece = .reference name.toList ∧ lookup name = none := by
  cases piece with
  | kept c => simp [Piece.value]
  | lineReturn => simp [Piece.value]
  | reference other =>
      cases set : lookup (String.ofList other) with
      | none =>
          simp only [Piece.value, set, Except.error.injEq, Piece.reference.injEq]
          constructor
          · rintro rfl
            exact ⟨String.toList_ofList.symm, set⟩
          · rintro ⟨rfl, -⟩
            exact String.ofList_toList
      | some value =>
          simp only [Piece.value, set, reduceCtorEq, Piece.reference.injEq, false_iff, not_and]
          rintro rfl none
          simp [none] at set

theorem fill_eq_ok_iff {lookup : String → Option String} {pieces : List Piece} {output : List Char} :
    fill lookup pieces = .ok output ↔
      (∀ name, .reference name ∈ pieces → (lookup (String.ofList name)).isSome = true) ∧
        output = pieces.flatMap (Piece.filled lookup) := by
  induction pieces generalizing output with
  | nil => simp [fill_nil, eq_comm (a := [])]
  | cons piece rest ih =>
      simp only [fill_cons, Json.bind_eq_ok_iff, value_eq_ok_iff, ih, pure, Except.pure,
        Except.ok.injEq, List.mem_cons, List.flatMap_cons]
      constructor
      · rintro ⟨_, ⟨here, rfl⟩, _, ⟨later, rfl⟩, rfl⟩
        refine ⟨fun name member => ?_, rfl⟩
        exact member.elim (fun same => here name same.symm) (later name)
      · rintro ⟨all, rfl⟩
        exact ⟨_, ⟨fun name same => all name (.inl same.symm), rfl⟩, _,
          ⟨fun name member => all name (.inr member), rfl⟩, rfl⟩

theorem fill_eq_error_iff {lookup : String → Option String} {pieces : List Piece} {name : String} :
    fill lookup pieces = .error name ↔ FirstUnset lookup pieces name := by
  induction pieces with
  | nil =>
      refine iff_of_false nofun ?_
      rintro ⟨before, after, same, -⟩
      simp at same
  | cons piece rest ih =>
      rw [fill_cons]
      cases here : piece.value lookup with
      | error first =>
          obtain ⟨rfl, unset⟩ := value_eq_error_iff.mp here
          change Except.error first = Except.error name ↔ _
          rw [Except.error.injEq]
          constructor
          · rintro rfl
            exact ⟨[], rest, rfl, unset, nofun⟩
          · rintro ⟨before, after, same, -, set⟩
            cases before with
            | nil => exact String.toList_inj.mp (Piece.reference.inj (List.cons.inj same).1)
            | cons other before =>
                have some := set first.toList (by rw [← (List.cons.inj same).1]; exact .head _)
                rw [String.ofList_toList, unset] at some
                cases some
      | ok chars =>
          have passes := value_eq_ok_iff.mp here
          have later : (do return (← Except.ok chars) ++ (← fill lookup rest)) = .error name ↔
              fill lookup rest = .error name := by
            cases fill lookup rest <;> simp [bind, Except.bind, pure, Except.pure]
          refine later.trans (ih.trans ?_)
          constructor
          · rintro ⟨before, after, rfl, unset, set⟩
            refine ⟨piece :: before, after, rfl, unset, fun other member => ?_⟩
            exact (List.mem_cons.mp member).elim (fun same => passes.1 other same.symm) (set other)
          · rintro ⟨before, after, same, unset, set⟩
            cases before with
            | nil =>
                have some := passes.1 _ (List.cons.inj same).1
                rw [String.ofList_toList, unset] at some
                cases some
            | cons other before =>
                exact ⟨before, after, (List.cons.inj same).2, unset,
                  fun other member => set other (.tail _ member)⟩

/-- The pieces of a whole text. -/
def pieces (text : String) : List Piece :=
  textPieces (text.toList.splitOn '\n')

theorem source_pieces (text : String) : (pieces text).flatMap Piece.source = text.toList := by
  rw [pieces, source_textPieces, List.intercalate_splitOn]

theorem standsAt_pieces_iff (text : String) {start : Nat} {name : List Char} :
    StandsAt (pieces text) start name ↔ IsLive text.toList start name := by
  have whole : ∀ line ∈ text.toList.splitOn '\n', '\n' ∉ line := by
    intro line member inLine
    simpa using (Domain.sublist_of_mem_splitOn member).subset inLine
  rw [pieces, standsAt_textPieces_iff whole, List.intercalate_splitOn]

theorem expand_eq_ok_iff {lookup : String → Option String} {text output : String} :
    expand lookup text = .ok output ↔
      (∀ name, .reference name ∈ pieces text → (lookup (String.ofList name)).isSome = true) ∧
        output.toList = (pieces text).flatMap (Piece.filled lookup) := by
  rw [expand_eq_fill, ← fill_eq_ok_iff, pieces]
  cases fill lookup (textPieces (text.toList.splitOn '\n')) with
  | error name => simp
  | ok filled =>
      change Except.ok (String.ofList filled) = .ok output ↔ Except.ok filled = .ok output.toList
      rw [Except.ok.injEq, Except.ok.injEq]
      constructor
      · rintro rfl
        exact String.toList_ofList.symm
      · rintro rfl
        exact String.ofList_toList

theorem expand_eq_error_iff {lookup : String → Option String} {text name : String} :
    expand lookup text = .error name ↔ FirstUnset lookup (pieces text) name := by
  rw [expand_eq_fill, ← fill_eq_error_iff, pieces]
  cases fill lookup (textPieces (text.toList.splitOn '\n')) <;> simp

/-- A text without carriage returns is divided into its live references and characters. Expanding it
fails exactly at the first of these references whose variable is not set. Otherwise it puts the value
of each variable in the place of the reference, as it is, and keeps every other character. -/
theorem expand_live_references (lookup : String → Option String) {text : String}
    (noReturn : '\r' ∉ text.toList) :
    ∃ pieces : List Piece, pieces.flatMap Piece.source = text.toList ∧
      (∀ start name, StandsAt pieces start name ↔ IsLive text.toList start name) ∧
      .lineReturn ∉ pieces ∧
      (∀ name, expand lookup text = .error name ↔ FirstUnset lookup pieces name) ∧
      ∀ output, expand lookup text = .ok output ↔
        (∀ name, .reference name ∈ pieces → (lookup (String.ofList name)).isSome = true) ∧
          output.toList = pieces.flatMap (Piece.filled lookup) := by
  refine ⟨pieces text, source_pieces text, fun _ _ => standsAt_pieces_iff text, fun member => ?_,
    fun _ => expand_eq_error_iff, fun _ => expand_eq_ok_iff⟩
  have inText : '\r' ∈ (pieces text).flatMap Piece.source :=
    List.mem_flatMap.mpr ⟨.lineReturn, member, .head _⟩
  exact noReturn (source_pieces text ▸ inText)

/-- A value that holds a reference and a `#` itself is put in as it is. -/
theorem expand_live_references_once :
    let text := "a = ${A}\n\nb = 1 # ${B}"
    let lookup (name : String) : Option String := if name = "A" then some "x # ${B}" else none
    '\r' ∉ text.toList ∧ ∃ pieces : List Piece, pieces.flatMap Piece.source = text.toList ∧
      StandsAt pieces 4 ['A'] ∧ .reference ['B'] ∉ pieces ∧
        pieces.flatMap (Piece.filled lookup) = "a = x # ${B}\n\nb = 1 # ${B}".toList := by
  intro text lookup
  have noReturn : '\r' ∉ text.toList := by decide
  obtain ⟨pieces, source, stands, -, -, expanded⟩ := expand_live_references lookup noReturn
  have ok : expand lookup text = .ok "a = x # ${B}\n\nb = 1 # ${B}" := by decide +kernel
  obtain ⟨set, output⟩ := (expanded _).mp ok
  refine ⟨noReturn, pieces, source, (stands _ _).mpr ?_, fun member => ?_, output.symm⟩
  · have clear : NoneWithin "a = ".toList (spelled ['A'] ++ []) := by
      simp [noneWithin_cons, noneWithin_nil, startsReference_iff]
    have found : Found "a = ${A}".toList 4 ['A'] := .first ⟨by decide, by decide⟩ clear
    refine ⟨"a = ${A}".toList, 4, ⟨[], "\n\nb = 1 # ${B}".toList, ?_⟩, found, by decide⟩
    decide
  · cases set _ member

end VectorSearch.Settings
