import VectorSearch.Proofs.Text.Line
import VectorSearch.Settings.Environment

namespace VectorSearch.Settings

open Text

/-! References to variables in a text.

References are found line by line and from left to right, each search going on behind the reference
that was found last. One that is found is live if no `#` stands before it on its line.
-/

/-- A reference as it is spelled. -/
def spelled (name : List Char) : List Char :=
  '$' :: '{' :: (name ++ ['}'])

/-- What may stand between the braces of a reference. -/
def IsName (name : List Char) : Prop :=
  name ≠ [] ∧ '}' ∉ name

def StartsReference (text : List Char) : Prop :=
  ∃ name rest, IsName name ∧ text = spelled name ++ rest

/-- No reference starts in the first part of a text. -/
def NoneWithin (before rest : List Char) : Prop :=
  ∀ earlier < before.length, ¬StartsReference ((before ++ rest).drop earlier)

/-- A reference to a name is found at a position: it is the first of the text, or it is found in what
follows the first. -/
inductive Found : List Char → Nat → List Char → Prop where
  | first {before name rest : List Char} (named : IsName name)
      (none : NoneWithin before (spelled name ++ rest)) :
      Found (before ++ (spelled name ++ rest)) before.length name
  | later {before name rest other : List Char} {place : Nat} (named : IsName name)
      (none : NoneWithin before (spelled name ++ rest)) (found : Found rest place other) :
      Found (before ++ (spelled name ++ rest)) (before.length + (spelled name).length + place) other

/-- A reference that is found in its line and has no `#` before it there. -/
def IsLive (text : List Char) (start : Nat) (name : List Char) : Prop :=
  ∃ line place, InLine text start line place ∧ Found line place name ∧ '#' ∉ line.take place

theorem spelled_append (name rest : List Char) :
    spelled name ++ rest = '$' :: '{' :: (name ++ '}' :: rest) := by
  simp [spelled]

theorem reference?_eq_some_iff {text name rest : List Char} :
    reference? text = some (name, rest) ↔ IsName name ∧ text = name ++ '}' :: rest := by
  have parted := List.takeWhile_append_dropWhile (p := (· ≠ '}')) (l := text)
  constructor
  · intro found
    rw [reference?] at found
    split at found
    next c kept brace after taken dropped =>
      cases found
      have named : '}' ∉ text.takeWhile (· ≠ '}') := fun member => by
        simpa using List.mem_takeWhile_imp member
      have closing : brace = '}' := by
        have := List.head?_dropWhile_not (p := (· ≠ '}')) (l := text)
        rw [dropped] at this
        simpa using this
      rw [taken] at named parted
      rw [dropped, closing] at parted
      exact ⟨⟨List.cons_ne_nil _ _, named⟩, parted.symm⟩
    next => cases found
  · rintro ⟨⟨nonempty, named⟩, rfl⟩
    obtain ⟨c, tail, rfl⟩ := List.exists_cons_of_ne_nil nonempty
    have passes : ∀ d ∈ c :: tail, decide (d ≠ '}') = true := by
      intro d member
      exact decide_eq_true fun same => named (same ▸ member)
    have taken : (c :: tail ++ '}' :: rest).takeWhile (· ≠ '}') = c :: tail := by
      rw [List.takeWhile_append_of_pos passes]
      simp
    have dropped : (c :: tail ++ '}' :: rest).dropWhile (· ≠ '}') = '}' :: rest := by
      rw [List.dropWhile_append_of_pos passes]
      simp
    rw [reference?, taken, dropped]

theorem startsReference_iff {c : Char} {text : List Char} :
    StartsReference (c :: text) ↔
      c = '$' ∧ ∃ tail, text = '{' :: tail ∧ (reference? tail).isSome = true := by
  constructor
  · rintro ⟨name, rest, named, same⟩
    rw [spelled_append] at same
    obtain ⟨rfl, rfl⟩ := List.cons.inj same
    exact ⟨rfl, _, rfl, by rw [reference?_eq_some_iff.mpr ⟨named, rfl⟩]; rfl⟩
  · rintro ⟨rfl, tail, rfl, some⟩
    obtain ⟨⟨name, rest⟩, found⟩ := Option.isSome_iff_exists.mp some
    obtain ⟨named, rfl⟩ := reference?_eq_some_iff.mp found
    exact ⟨name, rest, named, (spelled_append name rest).symm⟩

/-- The name of a reference ends at the first brace. -/
theorem spelled_inj {name other rest rest' : List Char} (named : IsName name)
    (named' : IsName other) (same : spelled name ++ rest = spelled other ++ rest') :
    name = other ∧ rest = rest' := by
  rw [spelled_append, spelled_append] at same
  have tails : name ++ '}' :: rest = other ++ '}' :: rest' := by simpa using same
  have here : reference? (name ++ '}' :: rest) = some (name, rest) :=
    reference?_eq_some_iff.mpr ⟨named, rfl⟩
  rw [tails, reference?_eq_some_iff.mpr ⟨named', rfl⟩] at here
  cases here
  exact ⟨rfl, rfl⟩

theorem noneWithin_nil (rest : List Char) : NoneWithin [] rest :=
  nofun

theorem noneWithin_cons {c : Char} {before rest : List Char} :
    NoneWithin (c :: before) rest ↔
      ¬StartsReference (c :: (before ++ rest)) ∧ NoneWithin before rest := by
  constructor
  · intro none
    exact ⟨none 0 (Nat.succ_pos _), fun earlier bound => none (earlier + 1) (Nat.succ_lt_succ bound)⟩
  · rintro ⟨here, none⟩ earlier bound
    cases earlier with
    | zero => exact here
    | succ earlier => exact none earlier (Nat.lt_of_succ_lt_succ bound)

theorem not_found_nil {place : Nat} {name : List Char} : ¬Found [] place name := by
  intro found
  generalize same : [] = text at found
  cases found <;> simp [spelled] at same

/-- Where no reference starts, the search goes on one character further. -/
theorem found_cons_iff {c : Char} {text : List Char} (none : ¬StartsReference (c :: text))
    {place : Nat} {name : List Char} :
    Found (c :: text) place name ↔ ∃ behind, place = behind + 1 ∧ Found text behind name := by
  constructor
  · intro found
    generalize same : c :: text = line at found
    cases found with
    | @first before _ rest named clear =>
        cases before with
        | nil => exact absurd ⟨name, rest, named, same⟩ none
        | cons d before =>
            obtain ⟨rfl, rfl⟩ := List.cons.inj same
            exact ⟨before.length, rfl, .first named (noneWithin_cons.mp clear).2⟩
    | @later before first rest _ place named clear found =>
        cases before with
        | nil => exact absurd ⟨first, rest, named, same⟩ none
        | cons d before =>
            obtain ⟨rfl, rfl⟩ := List.cons.inj same
            refine ⟨_, ?_, .later named (noneWithin_cons.mp clear).2 found⟩
            rw [List.length_cons]
            omega
  · rintro ⟨behind, rfl, found⟩
    cases found with
    | @first before _ rest named clear =>
        exact @Found.first (c :: before) name rest named (noneWithin_cons.mpr ⟨none, clear⟩)
    | @later before first rest _ place named clear found =>
        have moved : Found (c :: before ++ (spelled first ++ rest)) _ name :=
          .later named (noneWithin_cons.mpr ⟨none, clear⟩) found
        have length : before.length + (spelled first).length + place + 1 =
            (c :: before).length + (spelled first).length + place := by
          rw [List.length_cons]
          omega
        rw [length]
        exact moved

/-- Where a reference starts, the search goes on behind it. -/
theorem found_spelled_iff {name rest : List Char} (named : IsName name) {place : Nat}
    {other : List Char} :
    Found (spelled name ++ rest) place other ↔
      place = 0 ∧ other = name ∨
        ∃ behind, place = (spelled name).length + behind ∧ Found rest behind other := by
  constructor
  · intro found
    generalize same : spelled name ++ rest = line at found
    have starts : StartsReference line := ⟨name, rest, named, same.symm⟩
    cases found with
    | @first before _ after named' clear =>
        cases before with
        | nil => exact .inl ⟨rfl, (spelled_inj named named' same).1.symm⟩
        | cons d before => exact absurd starts (clear 0 (Nat.succ_pos _))
    | @later before first after _ place named' clear found =>
        cases before with
        | nil =>
            obtain ⟨rfl, rfl⟩ := spelled_inj named named' same
            exact .inr ⟨place, by simp, found⟩
        | cons d before => exact absurd starts (clear 0 (Nat.succ_pos _))
  · rintro (⟨rfl, rfl⟩ | ⟨behind, rfl, found⟩)
    · exact .first named (noneWithin_nil _)
    · simpa using Found.later named (noneWithin_nil _) found

/-- A dollar sign stands where a reference is found. -/
theorem Found.getElem? {row : List Char} {place : Nat} {name : List Char}
    (found : Found row place name) : row[place]? = some '$' := by
  induction found with
  | @first before name rest =>
      rw [List.getElem?_append_right (Nat.le_refl _), Nat.sub_self]
      rfl
  | @later before name rest other place named none found ih =>
      rw [List.getElem?_append_right (by omega), List.getElem?_append_right (by omega), ← ih]
      congr 1
      omega

theorem Found.lt_length {line : List Char} {place : Nat} {name : List Char}
    (found : Found line place name) : place < line.length :=
  (List.getElem?_eq_some_iff.mp found.getElem?).1

end VectorSearch.Settings
