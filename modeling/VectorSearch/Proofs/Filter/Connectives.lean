import VectorSearch.Proofs.Filter.Wrapped

namespace VectorSearch.Filter

/-- The first fragment of a filter is that of a negation. -/
def leadsWithNegation : Filter → Bool
  | .compare _ _ _ => false
  | .member _ _ _ => false
  | .not _ => true
  | .and left _ => left.leadsWithNegation
  | .or left _ => left.leadsWithNegation
  | .group inner => inner.leadsWithNegation

/-- A text with a character put in behind so many others. -/
def insertBehind (count : Nat) (mark : Char) (text : String) : String :=
  String.ofList (text.toList.take count ++ mark :: text.toList.drop count)

theorem insertBehind_append {front : String} {count : Nat} (size : front.length = count)
    (mark : Char) (rest : String) :
    insertBehind count mark (front ++ rest) = front ++ (String.singleton mark ++ rest) := by
  rw [← String.length_toList] at size
  apply String.toList_injective
  simp [insertBehind, ← size]

namespace Item

def isNegation : Item α → Bool
  | .condition _ => false
  | .negation _ => true

/-- Behind other fragments the mark that opens a negation is set apart. -/
theorem intercalate_texts_negation (items rest : List (Item WireCondition)) :
    ∃ marked,
      String.intercalate "&" (texts .legacy true (.negation items :: rest)) = "metadata." ++ marked ∧
      String.intercalate "&" (texts .legacy false (.negation items :: rest)) =
        "metadata." ++ ("&" ++ marked) := by
  let inner := String.intercalate "&" (texts .legacy true items)
  have first : negationText .legacy true inner = "metadata." ++ (inner ++ ".not=") :=
    String.append_assoc
  have behind : negationText .legacy false inner = "metadata." ++ ("&" ++ (inner ++ ".not=")) := by
    simp only [negationText, ← String.append_assoc]
    rfl
  refine ⟨String.intercalate "&" ((inner ++ ".not=") :: texts .legacy false rest), ?_, ?_⟩
  · rw [texts, text, first, String.intercalate_cons_append]
  · rw [texts, text, behind, String.intercalate_cons_append, String.intercalate_cons_append]

end Item

theorem leadsWithNegation_eq (filter : Filter) :
    filter.leadsWithNegation = filter.wireItems.head?.any Item.isNegation := by
  induction filter with
  | compare | member | not => rfl
  | and left right leftIH | or left right leftIH =>
      simp only [leadsWithNegation, wireItems_and, wireItems_or, leftIH]
      obtain ⟨item, rest, same⟩ := List.exists_cons_of_ne_nil left.wireItems_ne_nil
      rw [same]
      rfl
  | group inner ih => exact ih

/-- Both connectives join the same fragments, those of the right side behind those of the left. -/
theorem compile_joined {style : NegationStyle} {left right joined : Filter}
    {leftQuery rightQuery : String} (connects : joined = .and left right ∨ joined = .or left right)
    (leftCompiled : left.compile style = .ok leftQuery)
    (rightCompiled : right.compile style = .ok rightQuery) :
    joined.compile style =
      .ok (leftQuery ++ "&" ++ String.intercalate "&" (Item.texts style false right.wireItems)) := by
  obtain ⟨leftSound, rfl⟩ := compile_eq_ok_iff.mp leftCompiled
  obtain ⟨rightSound, -⟩ := compile_eq_ok_iff.mp rightCompiled
  have leaves : joined.leaves = left.leaves ++ right.leaves := by
    rcases connects with rfl | rfl <;> rfl
  have items : joined.wireItems = left.wireItems ++ right.wireItems := by
    rcases connects with rfl | rfl
    · exact wireItems_and left right
    · exact wireItems_or left right
  refine compile_eq_ok_iff.mpr ⟨?_, ?_⟩
  · rw [fault?, leaves, List.findSome?_append, ← fault?, leftSound, Option.none_or]
    exact rightSound
  · rw [items, intercalate_texts_append]

/-- Behind other fragments only a negation that comes first changes in the plain style. -/
theorem compile_joined_legacy {left right joined : Filter} {leftQuery rightQuery : String}
    (connects : joined = .and left right ∨ joined = .or left right)
    (leftCompiled : left.compile .legacy = .ok leftQuery)
    (rightCompiled : right.compile .legacy = .ok rightQuery) :
    (right.leadsWithNegation = false ∧
        joined.compile .legacy = .ok (leftQuery ++ "&" ++ rightQuery)) ∨
      (right.leadsWithNegation = true ∧ ∃ marked, rightQuery = "metadata." ++ marked ∧
        joined.compile .legacy = .ok (leftQuery ++ "&" ++ ("metadata." ++ ("&" ++ marked)))) := by
  obtain ⟨-, rfl⟩ := compile_eq_ok_iff.mp rightCompiled
  rw [compile_joined connects leftCompiled rightCompiled, leadsWithNegation_eq]
  obtain ⟨item, rest, items⟩ := List.exists_cons_of_ne_nil right.wireItems_ne_nil
  rw [items]
  cases item with
  | condition leaf => exact .inl ⟨rfl, rfl⟩
  | negation inner =>
      obtain ⟨marked, first, behind⟩ := Item.intercalate_texts_negation inner rest
      rw [behind]
      exact .inr ⟨rfl, marked, first, rfl⟩

/-- A connective joins the query strings of its sides by `&`. They stay as they are with wrapped
negations; in the plain style a right side that leads with a negation gets another `&` behind its
first nine characters, which are `metadata.`. -/
theorem compile_connective {left right joined : Filter}
    (connects : joined = .and left right ∨ joined = .or left right) :
    (∀ leftQuery rightQuery, left.compile .wrapped = .ok leftQuery →
      right.compile .wrapped = .ok rightQuery →
        joined.compile .wrapped = .ok (leftQuery ++ "&" ++ rightQuery)) ∧
    (∀ leftQuery rightQuery, left.compile .legacy = .ok leftQuery →
      right.compile .legacy = .ok rightQuery →
        joined.compile .legacy =
          .ok (leftQuery ++ "&" ++
            if right.leadsWithNegation then insertBehind 9 '&' rightQuery else rightQuery) ∧
        (right.leadsWithNegation → rightQuery.toList.take 9 = "metadata.".toList)) := by
  refine ⟨?_, ?_⟩
  · intro leftQuery rightQuery leftCompiled rightCompiled
    rw [compile_joined connects leftCompiled rightCompiled, texts_wrapped,
      (compile_eq_ok_iff.mp rightCompiled).2]
  · intro leftQuery rightQuery leftCompiled rightCompiled
    rcases compile_joined_legacy connects leftCompiled rightCompiled with
      ⟨plain, joins⟩ | ⟨negated, marked, rfl, joins⟩
    · simp [joins, plain]
    · have marks : "metadata.".length = 9 := by decide
      rw [joins, negated, if_pos rfl, insertBehind_append marks]
      exact ⟨rfl, fun _ => by simp⟩

/-- The negation that comes first on the right side changes behind the left side; neither the one
inside it nor the one after it does. -/
theorem compile_connective_negations :
    let brand : Filter := .compare "brand" .eq (.one (.string "Apple"))
    let year : Filter := .member "year" false (.many [.integer 2023, .integer 2024])
    let right : Filter := .and (.group (.or (.not (.not brand)) year)) (.not year)
    let joined : Filter := .or brand right
    let brandQuery := "metadata.brand.eq=Apple"
    let rightQuery := "metadata.metadata.metadata.brand.eq=Apple.not=.not=&" ++
      "metadata.year.in=2023,2024&metadata.&metadata.year.in=2023,2024.not="
    let behindQuery := "metadata.&metadata.metadata.brand.eq=Apple.not=.not=&" ++
      "metadata.year.in=2023,2024&metadata.&metadata.year.in=2023,2024.not="
    let wrappedQuery := "not(not(metadata.brand.eq=Apple))&metadata.year.in=2023,2024&" ++
      "not(metadata.year.in=2023,2024)"
    brand.compile .wrapped = .ok brandQuery ∧ right.compile .wrapped = .ok wrappedQuery ∧
      joined.compile .wrapped = .ok (brandQuery ++ "&" ++ wrappedQuery) ∧
      brand.compile .legacy = .ok brandQuery ∧ right.compile .legacy = .ok rightQuery ∧
      right.leadsWithNegation = true ∧ insertBehind 9 '&' rightQuery = behindQuery ∧
      joined.compile .legacy = .ok (brandQuery ++ "&" ++ insertBehind 9 '&' rightQuery) :=
  ⟨rfl, rfl, (compile_connective (.inr rfl)).1 _ _ rfl rfl, rfl, rfl, rfl, by decide +kernel,
    ((compile_connective (.inr rfl)).2 _ _ rfl rfl).1⟩

end VectorSearch.Filter
