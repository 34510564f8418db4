import VectorSearch.Proofs.Number.Rounding

namespace VectorSearch.Number

open Float.Model UnpackedFloat

/-! Where sums and products become infinite, and where they stop being numbers.

A sum of numbers that are not negative is none, and it is infinite once one of them is. Squares that
are finite keep the exponents so low that every product of their roots is finite.
-/

variable {spec : Format}

theorem sign?_normalize_isSome (mantissa : Int) (exponent : Int) (zeroSign : Sign) :
    (sign? (normalize spec mantissa exponent zeroSign)).isSome = true := by
  rw [UnpackedFloat.normalize]
  split
  next => rw [UnpackedFloat.round, sign?_roundWithAccuracy]; rfl
  next => rfl
  next => rw [UnpackedFloat.round, sign?_roundWithAccuracy]; rfl

theorem sign?_normalize_of_pos {mantissa : Int} (positive : 0 < mantissa) (exponent : Int)
    (zeroSign : Sign) : sign? (normalize spec mantissa exponent zeroSign) = some .positive := by
  rw [UnpackedFloat.normalize, Int.compare_eq_gt.mpr positive]
  exact sign?_roundWithAccuracy _ _ _ _

theorem decreaseExponent_pos {mantissa : Nat} (positive : 0 < mantissa) (exponent target : Int) :
    0 < (decreaseExponent mantissa exponent target).1 := by
  rw [decreaseExponent, Nat.shiftLeft_eq]
  exact Nat.mul_pos positive (Nat.two_pow_pos _)

theorem add_infinity {x : UnpackedFloat} (positive : sign? x = some .positive) :
    UnpackedFloat.add spec (.infinity .positive) x = .infinity .positive ∧
      UnpackedFloat.add spec x (.infinity .positive) = .infinity .positive := by
  match x, positive with
  | .infinity .positive, _ => exact ⟨rfl, rfl⟩
  | .zero .positive, _ => exact ⟨rfl, rfl⟩
  | .finite .positive _ _ _, _ => exact ⟨rfl, rfl⟩

theorem sign?_add {x y : UnpackedFloat} (left : sign? x = some .positive)
    (right : sign? y = some .positive) : sign? (UnpackedFloat.add spec x y) = some .positive := by
  match x, y, left, right with
  | .infinity .positive, .infinity .positive, _, _ => rfl
  | .infinity .positive, .zero .positive, _, _ => rfl
  | .infinity .positive, .finite .positive _ _ _, _, _ => rfl
  | .zero .positive, .infinity .positive, _, _ => rfl
  | .zero .positive, .zero .positive, _, _ => rfl
  | .zero .positive, .finite .positive _ _ _, _, _ => rfl
  | .finite .positive _ _ _, .infinity .positive, _, _ => rfl
  | .finite .positive _ _ _, .zero .positive, _, _ => rfl
  | .finite .positive m d mPos, .finite .positive n e nPos, _, _ =>
      have first := decreaseExponent_pos mPos d (min d e)
      have second := decreaseExponent_pos nPos e (min d e)
      have sum : (0 : Int) < ((decreaseExponent m d (min d e)).1 : Int) +
          (decreaseExponent n e (min d e)).1 := by omega
      exact sign?_normalize_of_pos sum _ _

theorem isNaN_add {x y : UnpackedFloat} (number : x.isNaN = false) (finite : y.isFinite = true) :
    (UnpackedFloat.add spec x y).isNaN = false := by
  match x, y, number, finite with
  | .infinity _, .zero _, _, _ => rfl
  | .infinity _, .finite _ _ _ _, _, _ => rfl
  | .zero first, .zero second, _, _ => cases first <;> cases second <;> rfl
  | .zero _, .finite _ _ _ _, _, _ => rfl
  | .finite _ _ _ _, .zero _, _, _ => rfl
  | .finite _ _ _ _, .finite _ _ _ _, _, _ =>
      rw [isNaN_eq_isNone_sign?, ← Option.not_isSome]
      exact congrArg not (sign?_normalize_isSome _ _ _)

theorem zero_negative_add (x : UnpackedFloat) :
    UnpackedFloat.add spec (.zero .negative) x = x := by
  match x with
  | .notANumber => rfl
  | .infinity _ => rfl
  | .zero .positive => rfl
  | .zero .negative => rfl
  | .finite .. => rfl

/-- The negative zero is what a sum without terms comes to. -/
theorem negativeZero_add (x : Float32) : -0 + x = x := by
  obtain ⟨⟨bits, valid⟩⟩ := x
  have kept : UnpackedFloat.pack .binary32 (UnpackedFloat.add .binary32 (.zero .negative)
      (UnpackedFloat.unpack .binary32 bits.toBitVec)) = bits.toBitVec := by
    rw [zero_negative_add, pack_unpack_of_valid valid]
  change Float32.ofModel ⟨UInt32.ofBitVec (UnpackedFloat.pack .binary32
    (UnpackedFloat.add .binary32 (.zero .negative)
      (UnpackedFloat.unpack .binary32 bits.toBitVec))), _⟩ = _
  congr 2
  exact congrArg UInt32.ofBitVec kept

/-- A number with a positive sign: zero, finite or infinite. -/
def NotNegative (x : Float32) : Prop :=
  sign? x.toModel.unpack = some .positive

namespace NotNegative

variable {x y : Float32}

theorem unpack_of_isInf (positive : NotNegative x) (infinite : x.isInf = true) :
    x.toModel.unpack = .infinity .positive := by
  change x.toModel.unpack.isInf = true at infinite
  rw [NotNegative] at positive
  match x.toModel.unpack, positive, infinite with
  | .infinity .positive, _, _ => rfl

theorem add (left : NotNegative x) (right : NotNegative y) : NotNegative (x + y) :=
  (sign?_unpack_pack _).trans (sign?_add left right)

theorem isInf_add (left : NotNegative x) (right : NotNegative y)
    (infinite : x.isInf = true ∨ y.isInf = true) : (x + y).isInf = true := by
  have sum : UnpackedFloat.add .binary32 x.toModel.unpack y.toModel.unpack =
      .infinity .positive := by
    rcases infinite with infinite | infinite
    · rw [left.unpack_of_isInf infinite]
      exact (add_infinity right).1
    · rw [right.unpack_of_isInf infinite]
      exact (add_infinity left).2
  change (UnpackedFloat.unpack .binary32 (UnpackedFloat.pack .binary32
    (UnpackedFloat.add .binary32 x.toModel.unpack y.toModel.unpack))).isInf = true
  rw [sum, UnpackedFloat.pack, unpack_packedInfinity]
  rfl

theorem foldl_add {terms : List Float32} (positive : ∀ term ∈ terms, NotNegative term)
    {start : Float32} (first : NotNegative start) : NotNegative (terms.foldl (· + ·) start) := by
  induction terms generalizing start with
  | nil => exact first
  | cons term terms ih =>
      obtain ⟨next, others⟩ := List.forall_mem_cons.mp positive
      exact ih others (first.add next)

/-- A sum that is finite has no infinite terms. -/
theorem not_isInf_of_foldl_add {terms : List Float32}
    (positive : ∀ term ∈ terms, NotNegative term) {start : Float32} (first : NotNegative start)
    (finite : (terms.foldl (· + ·) start).isInf = false) :
    start.isInf = false ∧ ∀ term ∈ terms, term.isInf = false := by
  induction terms generalizing start with
  | nil => exact ⟨finite, List.forall_mem_nil _⟩
  | cons term terms ih =>
      obtain ⟨next, others⟩ := List.forall_mem_cons.mp positive
      obtain ⟨sum, rest⟩ := ih others (first.add next) finite
      have neither : start.isInf = false ∧ term.isInf = false := by
        rw [← Bool.not_eq_true, ← Bool.not_eq_true, ← not_or]
        intro infinite
        rw [isInf_add first next infinite] at sum
        contradiction
      exact ⟨neither.1, List.forall_mem_cons.mpr ⟨neither.2, rest⟩⟩

end NotNegative

/-- A sum of finite terms is a number. -/
theorem isNaN_foldl_add {terms : List Float32} (finite : ∀ term ∈ terms, term.isFinite = true)
    {start : Float32} (number : start.isNaN = false) :
    (terms.foldl (· + ·) start).isNaN = false := by
  induction terms generalizing start with
  | nil => exact number
  | cons term terms ih =>
      obtain ⟨next, others⟩ := List.forall_mem_cons.mp finite
      have sum : (start + term).isNaN = false :=
        (isNaN_unpack_pack _).trans (isNaN_add number next)
      exact ih others sum

theorem notNegative_mul_self {x : Float32} (finite : x.isFinite = true) :
    NotNegative (x * x) := by
  change x.toModel.unpack.isFinite = true at finite
  refine (sign?_unpack_pack _).trans ?_
  match x.toModel.unpack, finite with
  | .zero .positive, _ => rfl
  | .zero .negative, _ => rfl
  | .finite .positive _ _ _, _ => exact sign?_roundWithAccuracy _ _ _ _
  | .finite .negative _ _ _, _ => exact sign?_roundWithAccuracy _ _ _ _

theorem log2_mul_bounds {m n : Nat} (mPos : 0 < m) (nPos : 0 < n) :
    m.log2 + n.log2 ≤ (m * n).log2 ∧ (m * n).log2 ≤ m.log2 + n.log2 + 1 := by
  have nonzero : m * n ≠ 0 := Nat.ne_of_gt (Nat.mul_pos mPos nPos)
  constructor
  · rw [Nat.le_log2 nonzero, Nat.pow_add]
    exact Nat.mul_le_mul (Nat.log2_self_le (Nat.ne_of_gt mPos))
      (Nat.log2_self_le (Nat.ne_of_gt nPos))
  · have split : m.log2 + n.log2 + 2 = m.log2 + 1 + (n.log2 + 1) := by omega
    rw [← Nat.lt_succ_iff, Nat.log2_lt nonzero, Nat.succ_eq_add_one, split, Nat.pow_add]
    exact Nat.mul_lt_mul'' Nat.lt_log2_self Nat.lt_log2_self

/-- A square is finite only if its root lies so low that no product of such roots is infinite. -/
theorem within_of_square {x : Float32} (finite : x.isFinite = true)
    (square : (x * x).isInf = false) : Within 40 x.toModel.unpack := by
  change x.toModel.unpack.isFinite = true at finite
  change (UnpackedFloat.unpack .binary32 (UnpackedFloat.pack .binary32
    (UnpackedFloat.mul .binary32 x.toModel.unpack x.toModel.unpack))).isInf = false at square
  cases unpacked : x.toModel.unpack with
  | notANumber =>
      rw [unpacked] at finite
      contradiction
  | infinity =>
      rw [unpacked] at finite
      contradiction
  | zero => trivial
  | finite sign mantissa exponent positive =>
      -- An exponent above that, with all digits, makes a square of at least `2 ^ 128`.
      change exponent ≤ 40
      by_contra high
      obtain ⟨-, -, full | subnormal⟩ := digits_of_unpack unpacked
      · have width : mantissa.log2 + 1 = 24 := full.symm
        obtain ⟨digits, -⟩ := log2_mul_bounds positive positive
        have even : sign * sign = .positive := by cases sign <;> rfl
        have large : Full .binary32 105 (exponent + exponent + (mantissa * mantissa).log2 + 2 - 24)
            (UnpackedFloat.mul .binary32 x.toModel.unpack x.toModel.unpack) := by
          rw [unpacked, UnpackedFloat.mul, even]
          have least : Format.binary32.minExponent = -149 := by decide
          have bits : Format.binary32.mantissaBits = 24 := rfl
          exact (full_roundWithAccuracy (by omega) (by omega) .exact).mono (by omega) (by omega)
        rw [unpack_pack_of_full large (by decide)] at square
        contradiction
      · have least : Format.binary32.minExponent = -149 := by decide
        omega

theorem within_round_product {s t : Sign} {m n : Nat} {d e : Int} (mPos : 0 < m) (nPos : 0 < n)
    (mShort : m < 2 ^ 24) (nShort : n < 2 ^ 24) (dLow : d ≤ 40) (eLow : e ≤ 40) :
    Within 104 (roundWithAccuracy .binary32 (s * t) (m * n) (d + e) .exact) := by
  have product : m * n ≤ (2 ^ 24 - 1) * (2 ^ 24 - 1) := Nat.mul_le_mul (by omega) (by omega)
  have digits : (m * n).log2 < 48 :=
    (Nat.log2_lt (Nat.ne_of_gt (Nat.mul_pos mPos nPos))).mpr (by omega)
  have count : (dropped .binary32 (m * n) (d + e) : Int) =
      max 0 (max (((m * n).log2 : Int) + 1 - 24) (-149 - (d + e))) := dropped_eq _ _ _
  have rounds := rounds_roundWithAccuracy .binary32 (s * t) (m * n) (d + e) .exact
  generalize roundWithAccuracy .binary32 (s * t) (m * n) (d + e) .exact = result at rounds ⊢
  cases rounds with
  | zero => trivial
  | kept =>
      change _ ≤ (104 : Int)
      omega
  | carried carry =>
      -- The greatest product is too far below a power of two to be rounded up to it.
      have few : dropped .binary32 (m * n) (d + e) < 24 := by
        by_contra many
        have quotient : m * n / 2 ^ dropped .binary32 (m * n) (d + e) ≤ m * n / 2 ^ 24 :=
          Nat.div_le_div_left (Nat.pow_le_pow_right Nat.two_pos (Nat.le_of_not_lt many))
            (Nat.two_pow_pos _)
        have full : m * n / 2 ^ dropped .binary32 (m * n) (d + e) + 1 = 2 ^ 24 := carry
        omega
      change _ ≤ (104 : Int)
      omega

theorem within_mul_single {x y : UnpackedFloat} (left : Within 40 x) (right : Within 40 y)
    (shortLeft : ∀ {sign mantissa exponent positive},
      x = .finite sign mantissa exponent positive → mantissa < 2 ^ 24)
    (shortRight : ∀ {sign mantissa exponent positive},
      y = .finite sign mantissa exponent positive → mantissa < 2 ^ 24) :
    Within 104 (UnpackedFloat.mul .binary32 x y) := by
  match x, y, left, right with
  | .zero _, .zero _, _, _ => trivial
  | .zero _, .finite .., _, _ => trivial
  | .finite .., .zero _, _, _ => trivial
  | .finite _ _ _ mPos, .finite _ _ _ nPos, left, right =>
      exact within_round_product mPos nPos (shortLeft rfl) (shortRight rfl) left right

theorem isFinite_mul {x y : Float32} (left : Within 40 x.toModel.unpack)
    (right : Within 40 y.toModel.unpack) : (x * y).isFinite = true := by
  have product : Within 104 (UnpackedFloat.mul .binary32 x.toModel.unpack y.toModel.unpack) :=
    within_mul_single left right (fun unpacked => (digits_of_unpack unpacked).1)
      fun unpacked => (digits_of_unpack unpacked).1
  exact isFinite_unpack_pack product (by decide)

end VectorSearch.Number
