import VectorSearch.Proofs.Filter.FloatText
import VectorSearch.Proofs.Filter.Items
import VectorSearch.Proofs.Filter.Written

namespace VectorSearch

open Number Json

/-- How the literal of a numeral is sent: by its own characters if it is a whole number of 64 bits,
and otherwise with a fraction, so that the text of no whole number stands in its place. -/
def Carried (text : List Char) (numeral : Numeral) (sent : String) : Prop :=
  ∃ literal, Literal text literal numeral ∧
    (numeral.FitsI64 → sent = String.ofList literal) ∧
    (¬numeral.FitsI64 → ∃ spelled : Numeral, spelled.Proper ∧ spelled.fraction ≠ [] ∧
      sent = String.ofList (spelled.spelled 'E')) ∧
    ((∃ spelled : Numeral, spelled.Proper ∧ spelled.isWhole = true ∧
      sent = String.ofList spelled.text) ↔ numeral.FitsI64)

/-- How an outline is sent that is a number, or a list with numbers among its items. -/
def CarriedFrom (text : List Char) (sent : String) : Outline → Prop
  | .number numeral => Carried text numeral sent
  | .items held _ => ∃ pieces, sent = String.intercalate "," pieces ∧ List.Forall₂
      (fun item piece => ∀ numeral, item = .number numeral → Carried text numeral piece) held pieces
  | _ => True

section Scalars

variable {text literal : List Char} {numeral : Numeral} (found : Literal text literal numeral)

include found

theorem carried_integer (fits : numeral.FitsI64) :
    Carried text numeral (Scalar.integer numeral.signed).wireText := by
  obtain ⟨proper, spelled⟩ := found.text_eq
  have sent : (Scalar.integer numeral.signed).wireText = String.ofList numeral.text :=
    congrArg String.ofList (Numeral.wholeText_signed proper fits)
  refine ⟨literal, found, fun _ => ?_, fun beyond => absurd fits beyond, fun _ => fits, fun _ => ?_⟩
  · rw [sent, spelled fits.whole]
  · exact ⟨numeral, Numeral.proper_of_isWhole proper fits.whole, fits.whole, sent⟩

theorem carried_float (beyond : ¬numeral.FitsI64) {x : Float} (finite : x.isFinite = true) :
    Carried text numeral (Scalar.float x).wireText := by
  have sent : (Scalar.float x).wireText = String.ofList ((wireNumeral x).spelled 'E') :=
    congrArg String.ofList (floatWireText_eq finite)
  refine ⟨literal, found, fun fits => absurd fits beyond, fun _ => ⟨wireNumeral x,
    proper_wireNumeral x, fraction_wireNumeral_ne_nil x, sent⟩, ?_, fun fits => absurd fits beyond⟩
  rintro ⟨spelled, proper, whole, same⟩
  have texts : floatWireText x = spelled.text := String.ofList_injective same
  have point := point_mem_floatWireText finite
  exact absurd (texts ▸ point) (Numeral.point_notMem_text proper.whole whole)

theorem carried_scalar {value : Json} {scalar : Scalar}
    (readAs : (Outline.number numeral).ReadAs value)
    (denoted : Scalar.ofJson? value = some scalar) : Carried text numeral scalar.wireText := by
  by_cases fits : numeral.FitsI64
  · have own := Numeral.read?_of_fits fits
    rcases readAs.number with ⟨n, read, rfl⟩ | ⟨x, read, rfl⟩
    · cases own.symm.trans read
      rw [Scalar.ofJson?, if_pos ⟨fits.low, fits.high⟩] at denoted
      cases denoted
      exact carried_integer found fits
    · cases own.symm.trans read
  · rcases readAs.number with ⟨n, read, rfl⟩ | ⟨x, read, rfl⟩
    · rcases Numeral.read?_of_not_fits fits read with ⟨n, ⟨⟩, large⟩ | ⟨x, ⟨⟩, -⟩
      rw [Scalar.ofJson?, if_neg fun range => Int.not_le.mpr large range.2] at denoted
      cases denoted
      exact carried_float found fits (isFinite_of_within (within_double n))
    · rcases Numeral.read?_of_not_fits fits read with ⟨n, ⟨⟩, -⟩ | ⟨x, ⟨⟩, finite⟩
      cases denoted
      exact carried_float found fits finite

end Scalars

theorem carried_items {text : List Char} {held : List Outline} {items : List Json}
    {scalars : List Scalar}
    (stand : ∀ numeral, Outline.number numeral ∈ held → ∃ literal, Literal text literal numeral)
    (readAs : List.Forall₂ Outline.ReadAs held items)
    (denoted : List.Forall₂ (fun item scalar => Scalar.ofJson? item = some scalar) items scalars) :
    List.Forall₂ (fun item piece => ∀ numeral, item = .number numeral → Carried text numeral piece)
      held (scalars.map Scalar.wireText) := by
  induction readAs generalizing scalars with
  | nil =>
      cases denoted
      exact .nil
  | cons here _ ih =>
      cases denoted with
      | cons first rest =>
          refine .cons ?_ (ih (fun numeral later => stand numeral (.tail _ later)) rest)
          rintro numeral rfl
          obtain ⟨literal, found⟩ := stand numeral (.head _)
          exact carried_scalar found here first

theorem carriedFrom_operand {text : List Char} {outline : Outline} {value : Json}
    {operand : Operand}
    (stand : ∀ numeral, (Outline.number numeral).Inside outline →
      ∃ literal, Literal text literal numeral)
    (readAs : outline.ReadAs value) (denoted : Operand.ofJson? value = some operand) :
    CarriedFrom text operand.wireText outline := by
  cases outline with
  | number numeral =>
      obtain ⟨literal, found⟩ := stand numeral .self
      obtain ⟨scalar, scalarDenoted, rfl⟩ : ∃ scalar, Scalar.ofJson? value = some scalar ∧
          Operand.one scalar = operand := by
        rcases readAs.number with ⟨n, -, rfl⟩ | ⟨x, -, rfl⟩
        · exact Option.map_eq_some_iff.mp denoted
        · exact Option.map_eq_some_iff.mp denoted
      exact carried_scalar found readAs scalarDenoted
  | items held closed =>
      obtain ⟨items, rfl, each⟩ := readAs.exists_items
      obtain ⟨scalars, found, rfl⟩ := Option.map_eq_some_iff.mp denoted
      have itemsStand : ∀ numeral, Outline.number numeral ∈ held →
          ∃ literal, Literal text literal numeral :=
        fun numeral present => stand numeral (.item present .self)
      exact ⟨scalars.map Scalar.wireText, rfl,
        carried_items itemsStand each (mapM_eq_some_iff.mp found)⟩
  | missing | null | bool | text | members => trivial

namespace Filter

/-- What may stand before a condition: nothing, another condition, or the mark that opens a
negation. -/
def Precedes (style : NegationStyle) (before : String) : Prop :=
  before = "" ∨ ∃ rest, before = rest ++ "&" ∨
    before = rest ++ match style with
      | .legacy => "metadata."
      | .wrapped => "not("

/-- What may stand behind a condition: nothing, another condition, or the mark that closes a
negation. -/
def Follows (style : NegationStyle) (after : String) : Prop :=
  after = "" ∨ ∃ rest, after = "&" ++ rest ∨
    after = (match style with
      | .legacy => ".not="
      | .wrapped => ")") ++ rest

/-- A condition that stands in a query string as a whole, up to its last digit: between others or the
marks of negations. -/
def StandsIn (style : NegationStyle) (query piece : String) : Prop :=
  ∃ before after, query = before ++ piece ++ after ∧ Precedes style before ∧ Follows style after

variable {style : NegationStyle} {query piece before after : String}

theorem StandsIn.refl (style : NegationStyle) (query : String) : StandsIn style query query :=
  ⟨"", "", by rw [String.empty_append, String.append_empty], .inl rfl, .inl rfl⟩

theorem StandsIn.within (stands : StandsIn style query piece) (precedes : Precedes style before)
    (follows : Follows style after) : StandsIn style (before ++ query ++ after) piece := by
  obtain ⟨first, last, rfl, preceded, followed⟩ := stands
  refine ⟨before ++ first, last ++ after, by simp only [String.append_assoc], ?_, ?_⟩
  · rcases preceded with rfl | ⟨rest, rfl | rfl⟩
    · rwa [String.append_empty]
    · exact .inr ⟨before ++ rest, .inl String.append_assoc.symm⟩
    · exact .inr ⟨before ++ rest, .inr String.append_assoc.symm⟩
  · rcases followed with rfl | ⟨rest, rfl | rfl⟩
    · rwa [String.empty_append]
    · exact .inr ⟨rest ++ after, .inl String.append_assoc⟩
    · exact .inr ⟨rest ++ after, .inr String.append_assoc⟩

theorem negationText_eq (style : NegationStyle) (first : Bool) :
    ∃ before after, Precedes style before ∧ Follows style after ∧
      ∀ inner, negationText style first inner = before ++ inner ++ after := by
  cases style with
  | legacy =>
      have follows : Follows .legacy ".not=" := .inr ⟨"", .inr rfl⟩
      cases first with
      | true => exact ⟨"metadata.", ".not=", .inr ⟨"", .inr rfl⟩, follows, fun _ => rfl⟩
      | false => exact ⟨"metadata.&", ".not=", .inr ⟨"metadata.", .inl rfl⟩, follows, fun _ => rfl⟩
  | wrapped =>
      exact ⟨"not(", ")", .inr ⟨"", .inr rfl⟩, .inr ⟨"", .inr rfl⟩, fun _ => rfl⟩

/-- The texts of all conditions stand in the query string, each as a whole. -/
theorem standsIn_of_mem_leaves {filter : Filter} {leaf : Condition}
    (present : leaf ∈ filter.leaves) (first : Bool) :
    StandsIn style (String.intercalate "&" (Item.texts style first filter.wireItems))
      leaf.wire.text := by
  induction filter generalizing first with
  | compare | member =>
      cases List.mem_singleton.mp present
      exact String.intercalate_singleton ▸ StandsIn.refl style _
  | not inner ih =>
      obtain ⟨before, after, precedes, follows, text⟩ := negationText_eq style first
      have same : String.intercalate "&" (Item.texts style first (Filter.not inner).wireItems) =
          negationText style first
            (String.intercalate "&" (Item.texts style true inner.wireItems)) := rfl
      rw [same, text]
      exact (ih present true).within precedes follows
  | and left right ihLeft ihRight | or left right ihLeft ihRight =>
      simp only [wireItems_and, wireItems_or, intercalate_texts_append]
      rcases List.mem_append.mp present with before | behind
      · have next : Follows style
            ("&" ++ String.intercalate "&" (Item.texts style false right.wireItems)) :=
          .inr ⟨_, .inl rfl⟩
        have stands := (ihLeft before first).within (.inl rfl) next
        rwa [String.empty_append, ← String.append_assoc] at stands
      · have previous : Precedes style
            (String.intercalate "&" (Item.texts style first left.wireItems) ++ "&") :=
          .inr ⟨_, .inl rfl⟩
        have stands := (ihRight behind false).within previous (.inl rfl)
        rwa [String.append_empty] at stands
  | group inner ih => exact ih present first

/-- Every number of a filter, alone in a condition or at any place of a list, is sent as its literal
if that is a whole number of 64 bits other than negative zero, and otherwise with a fraction. The
filter may be the whole text or stand anywhere in it, and the condition anywhere in the query string,
where nothing but another condition or the end of a negation comes behind its value. -/
theorem literals_carried {text : String} {part : Outline} {depth : Nat} {filter : Filter}
    (inside : part.Inside (Json.outline text).1) (read : Filter.shape depth part = .ok filter)
    (compiled : filter.compile style = .ok query) :
    Written (fun outline condition => CarriedFrom text.toList condition.wire.value outline ∧
      StandsIn style query condition.wire.text) part filter := by
  obtain ⟨-, rfl⟩ := compile_eq_ok_iff.mp compiled
  refine (written_of_shape read).mono ?_
  rintro outline condition within leaf ⟨value, readAs, denoted⟩
  have stand : ∀ numeral, (Outline.number numeral).Inside outline →
      ∃ literal, Literal text.toList literal numeral :=
    fun numeral held => literal_of_inside ((held.trans within).trans inside)
  have carried := carriedFrom_operand stand readAs denoted
  refine ⟨?_, standsIn_of_mem_leaves leaf true⟩
  cases condition with
  | compare | member => exact carried

/-- Around the ends of 64 bits, in both forms that a condition may have. -/
theorem literals_carried_at_bounds :
    let text := "[\"conjunction\",\x7b\"type\":\"comparison\",\"key\":\"n\"," ++
      "\"op\":\"gt\",\"value\":9223372036854775807\x7d," ++
      "[\"set_membership\",\"m\",false," ++
      "[-9223372036854775808,9223372036854775808,18446744073709551616,-0,1.0,1e2]]]"
    let query := "metadata.n.gt=9223372036854775807&metadata.m.in=-9223372036854775808," ++
      "9.223372036854776E18,1.8446744073709552E19,-0.0,1.0,100.0"
    ∃ said filter, said.Inside (Json.outline text).1 ∧ parse text = .ok filter ∧
      shape depthLimit said = .ok filter ∧ filter.compile .legacy = .ok query ∧
      Written (fun outline condition => CarriedFrom text.toList condition.wire.value outline ∧
        StandsIn .legacy query condition.wire.text) said filter := by
  intro text query
  have sent : (match parse text with
      | .ok filter => filter.compile .legacy
      | .error _ => .ok "") = .ok query := by
    decide +kernel
  cases parsed : parse text with
  | error reason =>
      rw [parsed] at sent
      exact absurd (Except.ok.inj sent) (by decide)
  | ok filter =>
      rw [parsed] at sent
      obtain ⟨said, whole, read⟩ := readWith_eq_ok_iff.mp parsed
      have inside : said.Inside (Json.outline text).1 := whole ▸ .self
      exact ⟨said, filter, inside, rfl, read, sent, literals_carried inside read sent⟩

end Filter

end VectorSearch
