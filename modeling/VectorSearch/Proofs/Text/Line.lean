import Mathlib.Data.List.TakeWhile

namespace VectorSearch.Text

/-- A position in a text, and the same position counted from the start of its line. -/
def InLine (text : List Char) (start : Nat) (line : List Char) (place : Nat) : Prop :=
  ∃ front back, text = front ++ line ++ back ∧ (front = [] ∨ front.getLast? = some '\n') ∧
    '\n' ∉ line ∧ (back = [] ∨ back.head? = some '\n') ∧ start = front.length + place

theorem takeWhile_line {line rest : List Char} (whole : '\n' ∉ line)
    (ends : rest = [] ∨ rest.head? = some '\n') :
    (line ++ rest).takeWhile (· ≠ '\n') = line := by
  have passes : ∀ c ∈ line, decide (c ≠ '\n') = true := by
    intro c member
    exact decide_eq_true fun isBreak => whole (isBreak ▸ member)
  rw [List.takeWhile_append_of_pos passes]
  cases rest with
  | nil => simp
  | cons c tail => simp_all

theorem line_unique {line other rest rest' : List Char} (whole : '\n' ∉ line) (whole' : '\n' ∉ other)
    (ends : rest = [] ∨ rest.head? = some '\n') (ends' : rest' = [] ∨ rest'.head? = some '\n')
    (same : line ++ rest = other ++ rest') : line = other ∧ rest = rest' := by
  have lines : line = other := by
    rw [← takeWhile_line whole ends, same, takeWhile_line whole' ends']
  exact ⟨lines, List.append_cancel_left (lines ▸ same)⟩

theorem inLine_last {text line : List Char} {start place : Nat} (whole : '\n' ∉ text) :
    InLine text start line place ↔ line = text ∧ place = start := by
  constructor
  · rintro ⟨front, back, rfl, begins, -, ends, rfl⟩
    have noFront : front = [] := begins.resolve_right fun last =>
      whole (by simp [List.mem_of_getLast? last])
    have noBack : back = [] := ends.resolve_right fun head =>
      whole (by simp [List.mem_of_head? head])
    simp [noFront, noBack]
  · rintro ⟨rfl, rfl⟩
    exact ⟨[], [], by simp, .inl rfl, whole, .inl rfl, by simp⟩

/-- What ends with a line break at the start of a text holds the first line of the text. -/
theorem exists_lines_below {first rest front tail : List Char} (whole : '\n' ∉ first)
    (last : front.getLast? = some '\n') (same : first ++ '\n' :: rest = front ++ tail) :
    ∃ lines, front = first ++ '\n' :: lines ∧ (lines = [] ∨ lines.getLast? = some '\n') ∧
      rest = lines ++ tail := by
  rcases List.append_eq_append_iff.mp same with ⟨lines, rfl, below⟩ | ⟨remaining, rfl, -⟩
  · cases lines with
    | nil => exact absurd (List.mem_of_getLast? last) (by simpa using whole)
    | cons c lines =>
        obtain ⟨rfl, rfl⟩ := List.cons.inj below
        refine ⟨lines, rfl, ?_, rfl⟩
        cases lines with
        | nil => exact .inl rfl
        | cons d lines => exact .inr (by simpa using last)
  · exact absurd (List.mem_append_left _ (List.mem_of_getLast? last)) whole

theorem inLine_cons {first rest line : List Char} {start place : Nat} (whole : '\n' ∉ first) :
    InLine (first ++ '\n' :: rest) start line place ↔
      line = first ∧ place = start ∨
        ∃ below, start = first.length + 1 + below ∧ InLine rest below line place := by
  constructor
  · rintro ⟨front, back, same, begins, broken, ends, rfl⟩
    rcases begins with rfl | last
    · exact .inl ⟨(line_unique broken whole ends (.inr rfl) same.symm).1, by simp⟩
    · rw [List.append_assoc] at same
      obtain ⟨lines, rfl, begins, rfl⟩ := exists_lines_below whole last same
      refine .inr ⟨lines.length + place, ?_, lines, back, by simp, begins, broken, ends, rfl⟩
      simp only [List.length_append, List.length_cons]
      omega
  · rintro (⟨rfl, rfl⟩ | ⟨below, rfl, front, back, rfl, begins, broken, ends, rfl⟩)
    · exact ⟨[], '\n' :: rest, by simp, .inl rfl, whole, .inr rfl, by simp⟩
    · refine ⟨first ++ '\n' :: front, back, by simp, .inr ?_, broken, ends, ?_⟩
      · rcases begins with rfl | last
        · simp
        · simp [List.getLast?_cons, last]
      · simp only [List.length_append, List.length_cons]
        omega

variable {text line other : List Char} {start place place' : Nat}

/-- A line by positions: it starts with the text or behind a line break, and has none. -/
theorem InLine.positions {row : List Char} (inLine : InLine text start row place) :
    ∃ first, start = first + place ∧ (first = 0 ∨ text[first - 1]? = some '\n') ∧
      row = (text.drop first).takeWhile (· ≠ '\n') ∧
      ∀ i < row.length, text[first + i]? = row[i]? ∧ text[first + i]? ≠ some '\n' := by
  obtain ⟨front, back, rfl, begins, whole, ends, rfl⟩ := inLine
  refine ⟨front.length, rfl, ?_, ?_, fun i inside => ?_⟩
  · rcases begins with rfl | last
    · exact .inl rfl
    · have positive : 0 < front.length := List.length_pos_of_mem (List.mem_of_getLast? last)
      rw [List.append_assoc, List.getElem?_append_left (by omega), ← List.getLast?_eq_getElem?]
      exact .inr last
  · rw [List.append_assoc, List.drop_left, takeWhile_line whole ends]
  · have here : (front ++ row ++ back)[front.length + i]? = row[i]? := by
      rw [List.append_assoc, List.getElem?_append_right (Nat.le_add_right ..),
        Nat.add_sub_cancel_left, List.getElem?_append_left inside]
    rw [here]
    exact ⟨rfl, fun lineBreak => whole (List.mem_of_getElem? lineBreak)⟩

/-- A position is in one line. -/
theorem InLine.unique (inLine : InLine text start line place) (inside : place < line.length)
    (also : InLine text start other place') (inside' : place' < other.length) :
    line = other ∧ place = place' := by
  obtain ⟨first, rfl, begins, taken, within⟩ := inLine.positions
  obtain ⟨first', same, begins', taken', within'⟩ := also.positions
  rcases Nat.lt_trichotomy first first' with before | rfl | behind
  · have lineBreak := begins'.resolve_left (by omega)
    have inFirst := (within (first' - 1 - first) (by omega)).2
    rw [show first + (first' - 1 - first) = first' - 1 by omega] at inFirst
    exact absurd lineBreak inFirst
  · exact ⟨taken.trans taken'.symm, by omega⟩
  · have lineBreak := begins.resolve_left (by omega)
    have inSecond := (within' (first - 1 - first') (by omega)).2
    rw [show first' + (first - 1 - first') = first - 1 by omega] at inSecond
    exact absurd lineBreak inSecond

end VectorSearch.Text
