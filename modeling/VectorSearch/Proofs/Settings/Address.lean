import VectorSearch.Deployment
import VectorSearch.Proofs.Url.Segments

namespace VectorSearch

open Url

namespace PayloadSettings

/-- The host does not reach beyond the authority of an address. -/
def NamesHost (settings : PayloadSettings) : Prop :=
  ∀ c ∈ settings.host.toList, endsAuthority c = false

/-- The host and the port as they are read. -/
def authority (settings : PayloadSettings) : List Char :=
  visible settings.host.toList ++ ':' :: Nat.toDigits 10 settings.port

variable {settings : PayloadSettings}

theorem toList_base (settings : PayloadSettings) :
    settings.base.toList =
      "http://".toList ++ (settings.host.toList ++ ':' :: Nat.toDigits 10 settings.port) := by
  simp [base]

theorem isDigit_port {c : Char} (member : c ∈ Nat.toDigits 10 settings.port) :
    c.isDigit = true :=
  Nat.isDigit_of_mem_toDigits (by decide) (by decide) member

theorem visible_authority (settings : PayloadSettings) :
    visible (settings.host.toList ++ ':' :: Nat.toDigits 10 settings.port) = settings.authority := by
  have letters : (Nat.toDigits 10 settings.port).all Char.isAlphanum = true := by
    apply List.all_eq_true.mpr
    intro c member
    rw [Char.isAlphanum, isDigit_port member, Bool.or_true]
  have kept : visible (Nat.toDigits 10 settings.port) = Nat.toDigits 10 settings.port :=
    filter_of_kept (PlainSegment.of_isAlphanum letters).unaltered.kept
  rw [visible, List.filter_append]
  exact congrArg (visible settings.host.toList ++ ':' :: ·) kept

theorem bare_authority (named : settings.NamesHost) :
    ∀ c ∈ settings.authority, endsAuthority c = false := by
  intro c member
  rcases List.mem_append.mp member with inHost | inPort
  · exact named c (List.mem_filter.mp inHost).1
  · rcases List.mem_cons.mp inPort with rfl | digit
    · rfl
    · exact endsAuthority_of_test (by decide) (isDigit_port digit)

theorem dropWhile_authority (named : settings.NamesHost) (rest : List Char) :
    (settings.authority ++ rest).dropWhile (isSlash true) = settings.authority ++ rest := by
  obtain ⟨c, others, shape⟩ : ∃ c others, settings.authority = c :: others :=
    List.exists_cons_of_ne_nil (List.append_ne_nil_of_right_ne_nil _ (List.cons_ne_nil _ _))
  have first := bare_authority named c (shape ▸ List.mem_cons_self)
  rw [shape]
  exact List.dropWhile_cons_of_neg (by simp [(endsAuthority_eq_false_iff.mp first).1])

/-- An address ends in a digit of its port. -/
theorem isDigit_last {front : List Char} {last : Char}
    (final : last ∈ (front ++ ':' :: Nat.toDigits 10 settings.port).getLast?) :
    last.isDigit = true := by
  rw [← List.singleton_append, ← List.append_assoc,
    List.getLast?_append_of_ne_nil _ Nat.toDigits_ne_nil] at final
  exact isDigit_port (List.mem_of_getLast? final)

theorem lt_last {front : List Char} {last : Char}
    (final : last ∈ (front ++ ':' :: Nat.toDigits 10 settings.port).getLast?) : ' ' < last := by
  have digit := isDigit_last final
  simp only [Char.isDigit, Bool.and_eq_true, decide_eq_true_eq] at digit
  exact Char.lt_def.mpr (UInt32.lt_of_lt_of_le (by decide) digit.1)

theorem parse_behind (named : settings.NamesHost) {path : List Char}
    (begins : ∀ c ∈ (visible path).head?, endsAuthority c = true)
    (ends : ∀ last ∈ path.getLast?, ' ' < last) :
    Url.parse (settings.base ++ String.ofList path) =
      (readAuthority "http".toList settings.authority).map
        (withRest · (authorityPath true) (visible path)) := by
  have spelled : settings.base ++ String.ofList path = String.ofList ("http://".toList ++
      (settings.host.toList ++ ':' :: Nat.toDigits 10 settings.port ++ path)) := by
    rw [← String.toList_inj]
    simp only [String.toList_append, toList_base, String.toList_ofList, List.append_assoc]
  have final : ∀ last ∈ (settings.host.toList ++ ':' :: Nat.toDigits 10 settings.port ++
      path).getLast?, ' ' < last := by
    intro last member
    rw [List.getLast?_append] at member
    cases behind : path.getLast? with
    | some other =>
        rw [behind] at member
        cases member
        exact ends _ behind
    | none =>
        rw [behind] at member
        exact lt_last member
  have bare := bare_authority named
  rw [spelled, parse_http final, visible, List.filter_append]
  change withAuthority _ ((visible _ ++ visible path).dropWhile _) = _
  rw [visible_authority, dropWhile_authority named, withAuthority_append (by decide) bare begins]

end PayloadSettings

end VectorSearch
