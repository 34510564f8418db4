import Mathlib.Algebra.Order.Ring.Int
import Mathlib.Data.Prod.Lex

namespace VectorSearch.Number

open Float.Model UnpackedFloat

/-! The order of doubles.

A double that is a number has a place in a linear order, in which both zeros stand together.
Comparing two doubles is comparing their places, so `≤` is transitive, and total but for what is
not a number.
-/

/-- The place of a number: below, at or above zero, infinities outermost, and then its exponent
and its significand, both turned around below zero. -/
def unpackedPlace : UnpackedFloat → Option (Int ×ₗ Int ×ₗ Int)
  | .notANumber => none
  | .infinity .negative => some (toLex (-2, toLex (0, 0)))
  | .finite .negative significand exponent _ =>
      some (toLex (-1, toLex (-exponent, -(significand : Int))))
  | .zero _ => some (toLex (0, toLex (0, 0)))
  | .finite .positive significand exponent _ =>
      some (toLex (1, toLex (exponent, (significand : Int))))
  | .infinity .positive => some (toLex (2, toLex (0, 0)))

theorem compare_natCast (m n : Nat) : compare (m : Int) n = compare m n := by
  rcases Nat.lt_trichotomy m n with less | rfl | greater
  · rw [compare_lt_iff_lt.mpr less, compare_lt_iff_lt.mpr (by omega)]
  · rw [compare_eq_iff_eq.mpr rfl, compare_eq_iff_eq.mpr rfl]
  · rw [compare_gt_iff_gt.mpr greater, compare_gt_iff_gt.mpr (by omega)]

theorem compare_neg (a b : Int) : compare (-a) (-b) = (compare a b).swap := by
  rcases Int.lt_trichotomy a b with less | rfl | greater
  · rw [compare_lt_iff_lt.mpr less, compare_gt_iff_gt.mpr (by omega)]
    rfl
  · rw [compare_eq_iff_eq.mpr rfl, compare_eq_iff_eq.mpr rfl]
    rfl
  · rw [compare_gt_iff_gt.mpr greater, compare_lt_iff_lt.mpr (by omega)]
    rfl

theorem unpackedCompare_eq (a b : UnpackedFloat) :
    a.compare b = (unpackedPlace a).bind fun p => (unpackedPlace b).map (compare p) := by
  rcases a with (_ | _) | _ | _ | ⟨_ | _, m, d, _⟩ <;>
    rcases b with (_ | _) | _ | _ | ⟨_ | _, n, e, _⟩ <;> try rfl
  · change some ((compare d e).then (compare m n)).swap =
      some ((compare (-d) (-e)).then (compare (-(m : Int)) (-(n : Int))))
    rw [compare_neg, compare_neg, compare_natCast, Ordering.swap_then]
  · change some ((compare d e).then (compare m n)) =
      some ((compare d e).then (compare (m : Int) (n : Int)))
    rw [compare_natCast]

def place (x : Float) : Option (Int ×ₗ Int ×ₗ Int) :=
  unpackedPlace x.toModel.unpack

theorem doubleLe_iff {x y : Float} :
    x ≤ y ↔ ∃ p q, place x = some p ∧ place y = some q ∧ p ≤ q := by
  have unfolded : x ≤ y ↔ (x.toModel.unpack.compare y.toModel.unpack).any (·.isLE) = true :=
    decide_eq_true_iff
  rw [unfolded, unpackedCompare_eq]
  change (Option.any _ ((place x).bind fun p => (place y).map (compare p))) = true ↔ _
  cases place x <;> cases place y <;> simp [← Ordering.ne_gt_iff_isLE, compare_le_iff_le]

theorem doubleBeq_iff {x y : Float} :
    (x == y) = true ↔ ∃ p, place x = some p ∧ place y = some p := by
  have unfolded : (x == y) = true ↔
      (x.toModel.unpack.compare y.toModel.unpack == some .eq) = true := Iff.rfl
  rw [unfolded, unpackedCompare_eq]
  change (((place x).bind fun p => (place y).map (compare p)) == some Ordering.eq) = true ↔ _
  cases placeX : place x with
  | none => simp
  | some p =>
      cases placeY : place y with
      | none => simp
      | some q => simpa [compare_eq_iff_eq] using eq_comm

theorem isNaN_iff {x : Float} : x.isNaN = true ↔ place x = none := by
  change x.toModel.unpack.isNaN = true ↔ unpackedPlace x.toModel.unpack = none
  rcases x.toModel.unpack with (_ | _) | _ | _ | ⟨_ | _, _, _, _⟩ <;>
    constructor <;> intro holds <;> first | rfl | cases holds

theorem exists_place {x : Float} (number : x.isNaN = false) : ∃ p, place x = some p := by
  rwa [← Bool.not_eq_true, isNaN_iff, ← ne_eq, Option.ne_none_iff_exists'] at number

theorem not_isNaN_of_le {x y : Float} (less : x ≤ y) : x.isNaN = false ∧ y.isNaN = false := by
  obtain ⟨p, q, placeX, placeY, _⟩ := doubleLe_iff.mp less
  constructor
  · rw [← Bool.not_eq_true, isNaN_iff, placeX]
    exact Option.some_ne_none p
  · rw [← Bool.not_eq_true, isNaN_iff, placeY]
    exact Option.some_ne_none q

theorem doubleLe_trans {x y z : Float} (first : x ≤ y) (second : y ≤ z) : x ≤ z := by
  obtain ⟨p, q, placeX, placeY, below⟩ := doubleLe_iff.mp first
  obtain ⟨q', r, placeY', placeZ, below'⟩ := doubleLe_iff.mp second
  have same : q' = q := Option.some.inj (placeY'.symm.trans placeY)
  exact doubleLe_iff.mpr ⟨p, r, placeX, placeZ, le_trans below (same ▸ below')⟩

theorem doubleLe_total {x y : Float} (xNumber : x.isNaN = false) (yNumber : y.isNaN = false) :
    x ≤ y ∨ y ≤ x := by
  obtain ⟨p, placeX⟩ := exists_place xNumber
  obtain ⟨q, placeY⟩ := exists_place yNumber
  rcases le_total p q with below | above
  · exact .inl (doubleLe_iff.mpr ⟨p, q, placeX, placeY, below⟩)
  · exact .inr (doubleLe_iff.mpr ⟨q, p, placeY, placeX, above⟩)

theorem doubleBeq_iff_le {x y : Float} : (x == y) = true ↔ x ≤ y ∧ y ≤ x := by
  rw [doubleBeq_iff, doubleLe_iff, doubleLe_iff]
  constructor
  · rintro ⟨p, placeX, placeY⟩
    exact ⟨⟨p, p, placeX, placeY, le_rfl⟩, ⟨p, p, placeY, placeX, le_rfl⟩⟩
  · rintro ⟨⟨p, q, placeX, placeY, below⟩, ⟨q', p', placeY', placeX', above⟩⟩
    rw [placeX, Option.some.injEq] at placeX'
    rw [placeY, Option.some.injEq] at placeY'
    subst placeX' placeY'
    exact ⟨p, placeX, placeY.trans (congrArg some (le_antisymm above below))⟩

theorem doubleBeq_comm (x y : Float) : (x == y) = (y == x) := by
  rw [Bool.eq_iff_iff, doubleBeq_iff_le, doubleBeq_iff_le, and_comm]

theorem doubleLt_iff {x y : Float} :
    x < y ↔ ∃ p q, place x = some p ∧ place y = some q ∧ p < q := by
  have unfolded : x < y ↔
      (x.toModel.unpack.compare y.toModel.unpack == some .lt) = true := decide_eq_true_iff
  rw [unfolded, unpackedCompare_eq]
  change (((place x).bind fun p => (place y).map (compare p)) == some Ordering.lt) = true ↔ _
  cases place x <;> cases place y <;> simp [compare_lt_iff_lt]

theorem doubleLe_of_lt {x y : Float} (less : x < y) : x ≤ y := by
  obtain ⟨p, q, placeX, placeY, below⟩ := doubleLt_iff.mp less
  exact doubleLe_iff.mpr ⟨p, q, placeX, placeY, le_of_lt below⟩

theorem not_doubleLe_of_lt {x y : Float} (less : x < y) : ¬ y ≤ x := by
  obtain ⟨p, q, placeX, placeY, below⟩ := doubleLt_iff.mp less
  intro above
  obtain ⟨q', p', placeY', placeX', notBelow⟩ := doubleLe_iff.mp above
  rw [placeX, Option.some.injEq] at placeX'
  rw [placeY, Option.some.injEq] at placeY'
  subst placeX' placeY'
  exact absurd below (not_lt_of_ge notBelow)

theorem doubleLt_of_not_le {x y : Float} (xNumber : x.isNaN = false) (yNumber : y.isNaN = false)
    (notAbove : ¬ y ≤ x) : x < y := by
  obtain ⟨p, placeX⟩ := exists_place xNumber
  obtain ⟨q, placeY⟩ := exists_place yNumber
  refine doubleLt_iff.mpr ⟨p, q, placeX, placeY, lt_of_not_ge fun above => notAbove ?_⟩
  exact doubleLe_iff.mpr ⟨q, p, placeY, placeX, above⟩

theorem doubleLe_iff_not_lt {x y : Float} :
    x ≤ y ↔ ¬ y < x ∧ x.isNaN = false ∧ y.isNaN = false := by
  constructor
  · intro below
    exact ⟨fun above => not_doubleLe_of_lt above below, not_isNaN_of_le below⟩
  · rintro ⟨notAbove, xNumber, yNumber⟩
    by_contra notBelow
    exact notAbove (doubleLt_of_not_le yNumber xNumber notBelow)

theorem doubleLt_of_beq_of_lt {x y z : Float} (same : (x == y) = true) (less : y < z) : x < z := by
  obtain ⟨p, placeX, placeY⟩ := doubleBeq_iff.mp same
  obtain ⟨q, r, placeY', placeZ, below⟩ := doubleLt_iff.mp less
  have agree : p = q := Option.some.inj (placeY.symm.trans placeY')
  exact doubleLt_iff.mpr ⟨p, r, placeX, placeZ, agree ▸ below⟩

end VectorSearch.Number
