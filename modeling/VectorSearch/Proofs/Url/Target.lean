import VectorSearch.Proofs.Filter.Wrapped
import VectorSearch.Proofs.Json.Shapes
import VectorSearch.Proofs.Url.Percent

namespace VectorSearch.Url

open Text

/-- What stands behind the first question mark of a target. -/
def queryOf? (target : List Char) : Option (List Char) :=
  (target.dropWhile (· != '?')).tail?

theorem mem_percentEncode {encoded : Char → Bool} {text : List Char} {c : Char}
    (member : c ∈ percentEncode encoded text) :
    c ∈ text ∧ encoded c = false ∨ c = '%' ∨ (hexValue? c).isSome = true := by
  obtain ⟨source, inText, spelled⟩ := List.mem_flatMap.mp member
  by_cases marked : encoded source = true
  · rw [if_pos marked] at spelled
    obtain ⟨octet, _, inEscape⟩ := List.mem_flatMap.mp spelled
    obtain ⟨high, low, digits, number⟩ := hexByte_spelled octet
    obtain ⟨highDigit, lowDigit⟩ := hexNumber?_eq_some number
    rw [digits] at inEscape
    simp only [List.mem_cons, List.not_mem_nil, or_false] at inEscape
    rcases inEscape with rfl | rfl | rfl
    · exact .inr (.inl rfl)
    · exact .inr (.inr highDigit)
    · exact .inr (.inr lowDigit)
  · rw [if_neg marked, List.mem_singleton] at spelled
    rw [spelled]
    exact .inl ⟨inText, by simpa using marked⟩

theorem question_notMem_percentEncode {encoded : Char → Bool} {text : List Char}
    (absent : '?' ∉ text ∨ encoded '?' = true) : '?' ∉ percentEncode encoded text := by
  intro member
  rcases mem_percentEncode member with ⟨inText, plain⟩ | percent | digit
  · rcases absent with outside | marked
    · exact outside inText
    · rw [marked] at plain
      contradiction
  · contradiction
  · contradiction

theorem mem_resolve {done rest : List (List Char)} {segment : List Char}
    (member : segment ∈ resolve done rest) :
    segment ∈ done ∨ ∃ text, (text = [] ∨ text ∈ rest) ∧ segment = percentEncode inPathSet text := by
  have front {others pieces : List (List Char)} {text : List Char} (source : text = [] ∨ text ∈ pieces)
      (member : segment ∈ percentEncode inPathSet text :: others) :
      segment ∈ others ∨
        ∃ text, (text = [] ∨ text ∈ pieces) ∧ segment = percentEncode inPathSet text := by
    rcases List.mem_cons.mp member with same | inOthers
    · exact .inr ⟨text, source, same⟩
    · exact .inl inOthers
  have later {first : List Char} {pieces : List (List Char)} :
      (∃ text, (text = [] ∨ text ∈ pieces) ∧ segment = percentEncode inPathSet text) →
        ∃ text, (text = [] ∨ text ∈ first :: pieces) ∧ segment = percentEncode inPathSet text := by
    rintro ⟨text, source, same⟩
    exact ⟨text, source.imp_right (List.mem_cons_of_mem first), same⟩
  induction done, rest using resolve.induct with
  | case1 done => exact .inl (List.mem_reverse.mp member)
  | case2 done text double =>
      rw [resolve, if_pos double] at member
      exact (front (.inl rfl) (List.mem_reverse.mp member)).imp_left List.mem_of_mem_tail
  | case3 done text double single =>
      rw [resolve, if_neg double, if_pos single] at member
      exact front (.inl rfl) (List.mem_reverse.mp member)
  | case4 done text double single =>
      rw [resolve, if_neg double, if_neg single] at member
      exact front (.inr List.mem_cons_self) (List.mem_reverse.mp member)
  | case5 done text rest more double ih =>
      rw [resolve.eq_3 _ _ _ more, if_pos double] at member
      exact (ih member).imp List.mem_of_mem_tail later
  | case6 done text rest more double single ih =>
      rw [resolve.eq_3 _ _ _ more, if_neg double, if_pos single] at member
      exact (ih member).imp_right later
  | case7 done text rest more double single ih =>
      rw [resolve.eq_3 _ _ _ more, if_neg double, if_neg single] at member
      exact (ih member).elim (front (.inr List.mem_cons_self)) fun found => .inr (later found)

theorem question_notMem_segments (special : Bool) (text : List Char) :
    '?' ∉ (Path.rooted (segments special text)).text := by
  intro member
  obtain ⟨segment, inPath, inSegment⟩ := List.mem_flatMap.mp member
  rcases List.mem_cons.mp inSegment with slash | inText
  · contradiction
  · obtain none | ⟨source, -, rfl⟩ := mem_resolve inPath
    · contradiction
    · exact question_notMem_percentEncode (.inr (by decide)) inText

theorem question_notMem_authorityPath (special : Bool) (text : List Char) :
    '?' ∉ (authorityPath special text).text := by
  cases text with
  | nil => cases special <;> decide
  | cons c rest => exact question_notMem_segments special _

theorem question_notMem_withRest {base : Url} {path : List Char → Path} {text : List Char}
    (clean : ∀ pathText, '?' ∉ pathText → '?' ∉ (path pathText).text) :
    '?' ∉ (withRest base path text).path.text := by
  apply clean
  intro member
  have passed := List.mem_takeWhile_imp member
  simp at passed

/-- What reading a text can come to: a path behind an authority, or one without. -/
inductive Read : Url → Prop where
  | authority (base : Url) (special : Bool) (rest : List Char) :
      Read (withRest base (authorityPath special) rest)
  | rootless (scheme rest : List Char) : Read (withoutAuthority scheme rest)

theorem read_withAuthority {scheme text : List Char} {url : Url}
    (parsed : withAuthority scheme text = .ok url) : Read url := by
  simp only [withAuthority] at parsed
  split at parsed
  · contradiction
  · split at parsed
    · contradiction
    · split at parsed
      all_goals
        obtain ⟨host, _, ported⟩ := Json.bind_eq_ok_iff.mp parsed
        obtain ⟨port, _, ⟨⟩⟩ := Json.bind_eq_ok_iff.mp ported
        exact .authority _ _ _

theorem read_file {scheme text : List Char} {url : Url} (parsed : file scheme text = .ok url) :
    Read url := by
  unfold file at parsed
  split at parsed
  · dsimp only at parsed
    split at parsed
    · split at parsed
      · cases parsed
        exact .authority _ _ _
      · obtain ⟨host, _, ⟨⟩⟩ := Json.bind_eq_ok_iff.mp parsed
        exact .authority _ _ _
    · cases parsed
      exact .authority _ _ _
  · cases parsed
    exact .authority _ _ _

theorem read_parse {text : String} {url : Url} (parsed : parse text = .ok url) : Read url := by
  unfold parse at parsed
  dsimp only at parsed
  split at parsed
  · contradiction
  · split at parsed
    · exact read_file parsed
    · split at parsed
      · exact read_withAuthority parsed
      · split at parsed
        · exact read_withAuthority parsed
        · cases parsed
          exact .rootless _ _

theorem question_notMem_path {text : String} {url : Url} (parsed : parse text = .ok url) :
    '?' ∉ url.path.text := by
  cases read_parse parsed with
  | authority base special rest =>
      apply question_notMem_withRest
      intro pathText _
      exact question_notMem_authorityPath special pathText
  | rootless scheme rest =>
      apply question_notMem_withRest
      intro pathText absent
      split
      · exact question_notMem_segments false _
      · exact question_notMem_percentEncode (.inl absent)

theorem keepsEscapes_of_outside {encoded : Char → Bool}
    (outside : ∀ c, encoded c = true → c ≠ '%' ∧ (c.toNat < 48 ∨ 57 < c.toNat ∧ c.toNat < 65 ∨
      70 < c.toNat ∧ c.toNat < 97 ∨ 102 < c.toNat)) : KeepsEscapes encoded := by
  intro c marked
  obtain ⟨percent, gap⟩ := outside c marked
  refine ⟨percent, ?_⟩
  have beside {low high : Char} (gap : c.toNat < low.toNat ∨ high.toNat < c.toNat) :
      ¬(low ≤ c ∧ c ≤ high) := by
    simp only [Char.le_def, UInt32.le_iff_toNat_le]
    rintro ⟨above, below⟩
    exact gap.elim (Nat.not_lt.mpr above) (Nat.not_lt.mpr below)
  rw [hexValue?, if_neg (beside (by simp; omega)), if_neg (beside (by simp; omega)),
    if_neg (beside (by simp; omega))]

theorem inQuerySet_keepsEscapes (special : Bool) : KeepsEscapes (inQuerySet special) := by
  apply keepsEscapes_of_outside
  intro c marked
  have outside : c.toNat < 36 ∨ c.toNat = 39 ∨ c.toNat = 60 ∨ c.toNat = 62 ∨ 126 < c.toNat := by
    simp [inQuerySet, isControl, Char.lt_def, UInt32.lt_iff_toNat_lt, ← Char.toNat_inj] at marked
    omega
  constructor
  · rintro rfl
    contradiction
  · omega

theorem inPathSet_keepsEscapes : KeepsEscapes inPathSet := by
  apply keepsEscapes_of_outside
  intro c marked
  have outside : c.toNat < 36 ∨ c.toNat = 60 ∨ c.toNat = 62 ∨ c.toNat = 63 ∨ c.toNat = 94 ∨
      c.toNat = 96 ∨ 122 < c.toNat := by
    simp [inPathSet, inFragmentSet, isControl, Char.lt_def, UInt32.lt_iff_toNat_lt,
      ← Char.toNat_inj] at marked
    omega
  constructor
  · rintro rfl
    contradiction
  · omega

theorem queryOf?_target {url : Url} (noMark : '?' ∉ url.path.text) (query : String) :
    queryOf? (url.withQuery query).target.toList =
      some (percentEncode (inQuerySet (isSpecial (String.ofList url.scheme)))
        (query.toList.filter (!isLineBreakOrTab ·))) := by
  rw [target, String.toList_ofList]
  exact Filter.WireCondition.tail?_dropWhile_mark noMark _

end VectorSearch.Url
