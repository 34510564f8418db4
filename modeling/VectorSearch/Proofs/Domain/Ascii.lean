import VectorSearch.Domain.Name

namespace VectorSearch.Domain

open Text

/-! Domain names in ASCII stand for themselves.

None of what happens to a domain name on its way to ASCII concerns a character of ASCII but a
capital letter: such a character is no mark, no joiner and part of no composite, and runs from left to
right. So a name in ASCII, without a forbidden character and without a label that is spelled, comes out
in lower case and otherwise unchanged.
-/

variable {text label : List Char} {c : Char}

theorem toLower_cases (c : Char) :
    c.isUpper = false ∧ c.toLower = c ∨
      c.isUpper = true ∧ c.toLower.toNat = c.toNat + 32 ∧ 65 ≤ c.toNat ∧ c.toNat ≤ 90 := by
  delta Char.toLower Char.isUpper
  split
  next upper =>
    have above : 65 ≤ c.toNat := upper.1
    have below : c.toNat ≤ 90 := upper.2
    have shift : (c.val + ('a'.val - 'A'.val)).toNat = (c.toNat + 32) % 4294967296 :=
      UInt32.toNat_add _ _
    exact .inr ⟨by simpa using upper, shift.trans (Nat.mod_eq_of_lt (by omega)), above, below⟩
  next notUpper => exact .inl ⟨by simpa using notUpper, rfl⟩

theorem toNat_toLower_lt {limit : Nat} (low : c.toNat < limit) (room : 123 ≤ limit) :
    c.toLower.toNat < limit := by
  rcases toLower_cases c with ⟨-, same⟩ | ⟨-, shifted, -, below⟩
  · rw [same]
    exact low
  · omega

theorem map?_ascii (ascii : ∀ c ∈ text, c.toNat < 0x80) :
    map? text = some (text.map Char.toLower) := by
  induction text with
  | nil => rfl
  | cons c rest ih =>
      obtain ⟨here, later⟩ := List.forall_mem_cons.mp ascii
      rw [map?, status, if_pos here, ih later]
      rcases toLower_cases c with ⟨lower, same⟩ | ⟨upper, -⟩
      · rw [lower, List.map_cons, same]
        rfl
      · rw [upper]
        rfl

theorem orderMarks_low (low : ∀ c ∈ text, c.toNat < 0x300) : orderMarks text = text := by
  induction text with
  | nil => rfl
  | cons c rest ih =>
      obtain ⟨here, later⟩ := List.forall_mem_cons.mp low
      have starts : combiningClass c = 0 := if_pos here
      rw [orderMarks, List.foldr_cons, if_pos starts]
      exact congrArg (c :: ·) (ih later)

theorem composeAfter_low (starter : Char) (low : ∀ c ∈ text, c.toNat < 0x300) :
    composeAfter starter [] text = starter :: text := by
  induction text generalizing starter with
  | nil => rfl
  | cons c rest ih =>
      obtain ⟨here, later⟩ := List.forall_mem_cons.mp low
      have apart : composite? starter c = none := if_pos here
      have starts : combiningClass c = 0 := if_pos here
      rw [composeAfter]
      simp only [List.any_nil, Bool.false_eq_true, if_false, apart, starts, if_true,
        List.reverse_nil, ih c later]
      rfl

theorem compose_low (low : ∀ c ∈ text, c.toNat < 0xc0) : compose text = text := by
  have starters : ∀ c ∈ text, c.toNat < 0x300 :=
    fun c member => Nat.lt_of_lt_of_le (low c member) (by decide)
  have whole : text.flatMap decompose = text := by
    induction text with
    | nil => rfl
    | cons c rest ih =>
        obtain ⟨here, later⟩ := List.forall_mem_cons.mp low
        have single : decompose c = [c] := by
          rw [decompose, decomposeWithin, if_pos here]
        rw [List.flatMap_cons, single, ih later fun c member => starters c (.tail _ member)]
        rfl
  have leading : text.takeWhile (combiningClass · ≠ 0) = [] := by
    cases text with
    | nil => rfl
    | cons c rest =>
        have starts : combiningClass c = 0 := if_pos (starters c List.mem_cons_self)
        simp [starts]
  rw [compose, whole, orderMarks_low starters]
  simp only [leading, List.length_nil, List.drop_zero]
  cases text with
  | nil => rfl
  | cons c rest => exact composeAfter_low c fun other member => starters other (.tail _ member)

theorem joinersFit_low (low : ∀ c ∈ text, c.toNat < 0x300) (before : List Char) :
    joinersFit before text = true := by
  induction text generalizing before with
  | nil => rfl
  | cons c rest ih =>
      obtain ⟨here, later⟩ := List.forall_mem_cons.mp low
      have noJoiner : isJoiner c = false := by
        simp only [isJoiner, keepsApart, Bool.or_eq_false_iff, beq_eq_false_iff_ne]
        omega
      rw [joinersFit, noJoiner, ih later]
      rfl

theorem isAscii_iff : isAscii label = true ↔ ∀ c ∈ label, c.toNat < 0x80 := by
  simp [isAscii]

theorem isFit_ascii (ascii : ∀ c ∈ label, c.toNat < 0x80) : isFit label = true := by
  have unmarked : label.head?.any isMark = false := by
    cases label with
    | nil => rfl
    | cons c rest =>
        have low := ascii c List.mem_cons_self
        have noMark : isMark c = false := by
          rw [isMark, decide_eq_false (by omega)]
          rfl
        exact noMark
  have joined : joinersFit [] label = true :=
    joinersFit_low (fun c member => Nat.lt_of_lt_of_le (ascii c member) (by decide)) []
  rw [isFit, unmarked, joined, isAscii_iff.mpr ascii]
  rfl

theorem spell_ascii (ascii : ∀ c ∈ label, c.toNat < 0x80) : spell label = label :=
  if_pos (isAscii_iff.mpr ascii)

/-- A name in ASCII that no step refuses: nothing in it is forbidden, and no label is spelled. -/
structure PlainName (name : List Char) : Prop where
  ascii : ∀ c ∈ name, c.toNat < 0x80
  allowed : ∀ c ∈ name, isForbidden c = false
  unspelled : ∀ label ∈ (name.map Char.toLower).splitOn '.', spelledPrefix.isPrefixOf label = false

instance (name : List Char) : Decidable (PlainName name) :=
  decidable_of_iff
    ((name.all fun c => c.toNat < 0x80 && !isForbidden c) &&
      ((name.map Char.toLower).splitOn '.').all (!spelledPrefix.isPrefixOf ·)) <| by
    simp only [Bool.and_eq_true, List.all_eq_true, decide_eq_true_eq, Bool.not_eq_true']
    exact ⟨fun both => ⟨fun c member => (both.1 c member).1, fun c member => (both.1 c member).2,
        both.2⟩,
      fun plain => ⟨fun c member => ⟨plain.ascii c member, plain.allowed c member⟩,
        plain.unspelled⟩⟩

theorem isForbidden_toLower (allowed : isForbidden c = false) : isForbidden c.toLower = false := by
  rcases toLower_cases c with ⟨-, same⟩ | ⟨-, shifted, above, below⟩
  · rw [same]
    exact allowed
  · have other {sign : Char} (outside : sign.toNat < 97 ∨ 122 < sign.toNat) : c.toLower ≠ sign := by
      intro same
      rw [same] at shifted
      omega
    have visible : ¬c.toLower ≤ ' ' := by
      rw [Char.le_def, UInt32.le_iff_toNat_le]
      change ¬c.toLower.toNat ≤ 32
      omega
    have noDelete : c.toLower.toNat ≠ 0x7f := by omega
    simp [isForbidden, visible, noDelete, other]

/-- A piece of a text holds nothing that the text was split at. -/
theorem sublist_of_mem_splitOn {separator : Char} {piece : List Char}
    (member : piece ∈ text.splitOn separator) : piece.Sublist (text.filter (· ≠ separator)) := by
  induction text generalizing piece with
  | nil =>
      cases List.mem_singleton.mp member
      exact .slnil
  | cons c rest ih =>
      rw [List.splitOn_cons_eq_if_modifyHead] at member
      by_cases same : c = separator
      · rw [if_pos (beq_iff_eq.mpr same)] at member
        rw [List.filter_cons_of_neg (by simpa using same)]
        rcases List.mem_cons.mp member with rfl | later
        · exact List.nil_sublist _
        · exact ih later
      · rw [if_neg (by simpa using same)] at member
        rw [List.filter_cons_of_pos (by simpa using same)]
        cases split : rest.splitOn separator with
        | nil =>
            rw [split] at member
            cases member
        | cons first others =>
            rw [split] at member ih
            rcases List.mem_cons.mp member with rfl | later
            · exact .cons_cons c (ih List.mem_cons_self)
            · exact .cons c (ih (List.mem_cons_of_mem first later))

theorem mapM_eq_some {read : α → Option α} {items : List α}
    (same : ∀ item ∈ items, read item = some item) : items.mapM read = some items := by
  induction items with
  | nil => rfl
  | cons first rest ih =>
      obtain ⟨here, later⟩ := List.forall_mem_cons.mp same
      rw [List.mapM_cons, here, ih later]
      rfl

/-- Labels in ASCII are what they are read as, fit together, and are spelled as they are. -/
theorem areFit_ascii {labels : List (List Char)}
    (ascii : ∀ label ∈ labels, ∀ c ∈ label, c.toNat < 0x80) : areFit labels = true := by
  have each : labels.all isFit = true :=
    List.all_eq_true.mpr fun label member => isFit_ascii (ascii label member)
  have forwards : (labels.any fun label => label.any runsRightToLeft) = false := by
    apply List.any_eq_false.mpr
    intro label member
    rw [Bool.not_eq_true, List.any_eq_false]
    intro c inLabel
    have low := ascii label member c inLabel
    rw [runsRightToLeft, decide_eq_false (by omega)]
    exact Bool.false_ne_true
  rw [areFit, each, forwards]
  rfl

theorem toAscii?_plain {name : List Char} (plain : PlainName name) :
    toAscii? name = some (name.map Char.toLower) := by
  have ascii : ∀ c ∈ name.map Char.toLower, c.toNat < 0x80 := by
    intro c member
    obtain ⟨source, inName, rfl⟩ := List.mem_map.mp member
    exact toNat_toLower_lt (plain.ascii source inName) (by decide)
  have inLabels : ∀ label ∈ (name.map Char.toLower).splitOn '.', ∀ c ∈ label, c.toNat < 0x80 :=
    fun label member c inLabel =>
      ascii c (List.mem_filter.mp ((sublist_of_mem_splitOn member).subset inLabel)).1
  have composed : compose (name.map Char.toLower) = name.map Char.toLower :=
    compose_low fun c member => Nat.lt_of_lt_of_le (ascii c member) (by decide)
  have allowed : (name.map Char.toLower).any isForbidden = false := by
    apply List.any_eq_false.mpr
    intro c member
    obtain ⟨source, inName, rfl⟩ := List.mem_map.mp member
    exact Bool.not_eq_true _ ▸ isForbidden_toLower (plain.allowed source inName)
  have read : ((name.map Char.toLower).splitOn '.').mapM read? =
      some ((name.map Char.toLower).splitOn '.') := by
    apply mapM_eq_some
    intro label member
    rw [read?, plain.unspelled label member]
    rfl
  have spelled : ((name.map Char.toLower).splitOn '.').map spell =
      (name.map Char.toLower).splitOn '.' :=
    (List.map_congr_left fun label member => spell_ascii (inLabels label member)).trans
      (List.map_id _)
  have labels : labels? name = some ((name.map Char.toLower).splitOn '.') := by
    rw [labels?, map?_ascii plain.ascii]
    simp only [Option.bind_eq_bind, Option.bind_some, composed, allowed, read]
    rfl
  rw [toAscii?, labels]
  simp only [Option.bind_eq_bind, Option.bind_some, areFit_ascii inLabels, if_true, spelled]
  rw [List.intercalate_splitOn]

end VectorSearch.Domain
