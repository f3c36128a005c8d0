import CameraRelay.Number.Binary64
import Mathlib.Tactic.Linarith
import Mathlib.Tactic.Ring

/-!
# How far the binary fractions reach

A quotient has no nearest number exactly from half a step beyond the largest one on
(`ofRatio?_eq_none_iff`), and a decimal number has none exactly when its rounded factors multiply to
that much (`ofDecimal?_eq_none_iff`).
-/

namespace CameraRelay.Binary64

variable {num den : Nat}

/-- Half a step beyond the largest number, which is `(2 ^ 53 - 1) * 2 ^ 971`. -/
def limit : Nat := (2 ^ 54 - 1) * 2 ^ 970

theorem shifted_pos (num : Nat) (pos : 0 < den) (e : Int) : 0 < (shifted num den e).2 := by
  cases e with
  | ofNat k => exact Nat.mul_pos pos (Nat.two_pow_pos k)
  | negSucc k => exact pos

/-- One step down doubles the scaled quotient. -/
theorem shifted_sub_one (num den : Nat) (e : Int) :
    ((shifted num den (e - 1)).1 = (shifted num den e).1 ∧
      (shifted num den e).2 = 2 * (shifted num den (e - 1)).2) ∨
    ((shifted num den (e - 1)).1 = 2 * (shifted num den e).1 ∧
      (shifted num den (e - 1)).2 = (shifted num den e).2) := by
  match e with
  | .ofNat 0 =>
    refine .inr ⟨?_, ?_⟩
    · show num * 2 ^ 1 = 2 * num
      ring
    · show den = den * 2 ^ 0
      ring
  | .ofNat (k + 1) =>
    have down : Int.ofNat (k + 1) - 1 = Int.ofNat k := by simp
    rw [down]
    refine .inl ⟨rfl, ?_⟩
    show den * 2 ^ (k + 1) = 2 * (den * 2 ^ k)
    ring
  | .negSucc k =>
    have down : Int.negSucc k - 1 = Int.negSucc (k + 1) := rfl
    rw [down]
    refine .inr ⟨?_, rfl⟩
    show num * 2 ^ (k + 1 + 1) = 2 * (num * 2 ^ (k + 1))
    ring

/-- The scaled quotient has 53 binary digits. -/
structure Scaled (num den : Nat) (e : Int) : Prop where
  low : 2 ^ 52 * (shifted num den e).2 ≤ (shifted num den e).1
  high : (shifted num den e).1 < 2 ^ 53 * (shifted num den e).2

/-- By their binary digits, numerator and denominator leave the first guess one step off at most. -/
theorem shifted_log2 (numPos : 0 < num) (denPos : 0 < den) :
    let e : Int := Int.ofNat (Nat.log2 num) - Int.ofNat (Nat.log2 den) - 52
    2 ^ 52 * (shifted num den e).2 < 2 * (shifted num den e).1 ∧
      (shifted num den e).1 < 2 ^ 53 * (shifted num den e).2 := by
  intro e
  have numLow := Nat.log2_self_le (Nat.ne_of_gt numPos)
  have numHigh := Nat.lt_log2_self (n := num)
  have denLow := Nat.log2_self_le (Nat.ne_of_gt denPos)
  have denHigh := Nat.lt_log2_self (n := den)
  rcases known : e with k | k
  · have digits : num.log2 = den.log2 + (52 + k) := by
      simp only [e, Int.ofNat_eq_natCast] at known
      omega
    have scale := Nat.two_pow_pos k
    constructor
    · show 2 ^ 52 * (den * 2 ^ k) < 2 * num
      calc 2 ^ 52 * (den * 2 ^ k) < 2 ^ 52 * (2 ^ (den.log2 + 1) * 2 ^ k) :=
            Nat.mul_lt_mul_of_pos_left (Nat.mul_lt_mul_of_pos_right denHigh scale) (by decide)
        _ = 2 * 2 ^ num.log2 := by rw [digits]; ring
        _ ≤ 2 * num := Nat.mul_le_mul_left 2 numLow
    · show num < 2 ^ 53 * (den * 2 ^ k)
      calc num < 2 ^ (num.log2 + 1) := numHigh
        _ = 2 ^ 53 * (2 ^ den.log2 * 2 ^ k) := by rw [digits]; ring
        _ ≤ 2 ^ 53 * (den * 2 ^ k) :=
            Nat.mul_le_mul_left _ (Nat.mul_le_mul_right _ denLow)
  · have digits : den.log2 + 52 = num.log2 + (k + 1) := by
      simp only [e, Int.ofNat_eq_natCast] at known
      omega
    have scale := Nat.two_pow_pos (k + 1)
    constructor
    · show 2 ^ 52 * den < 2 * (num * 2 ^ (k + 1))
      calc 2 ^ 52 * den < 2 ^ 52 * 2 ^ (den.log2 + 1) :=
            Nat.mul_lt_mul_of_pos_left denHigh (by decide)
        _ = 2 * 2 ^ (den.log2 + 52) := by ring
        _ = 2 * (2 ^ num.log2 * 2 ^ (k + 1)) := by rw [digits]; ring
        _ ≤ 2 * (num * 2 ^ (k + 1)) := Nat.mul_le_mul_left 2 (Nat.mul_le_mul_right _ numLow)
    · show num * 2 ^ (k + 1) < 2 ^ 53 * den
      calc num * 2 ^ (k + 1) < 2 ^ (num.log2 + 1) * 2 ^ (k + 1) :=
            Nat.mul_lt_mul_of_pos_right numHigh scale
        _ = 2 * 2 ^ (num.log2 + (k + 1)) := by ring
        _ = 2 ^ 53 * 2 ^ den.log2 := by rw [← digits]; ring
        _ ≤ 2 ^ 53 * den := Nat.mul_le_mul_left _ denLow

/-- The exponent that is chosen, but for the smallest numbers. -/
theorem scaleFor_eq (numPos : 0 < num) (denPos : 0 < den) :
    ∃ e, Scaled num den e ∧ scaleFor num den = if e < -1074 then -1074 else e := by
  obtain ⟨low, high⟩ := shifted_log2 numPos denPos
  simp only [scaleFor]
  generalize Int.ofNat (Nat.log2 num) - Int.ofNat (Nat.log2 den) - 52 = e at low high
  have pos := shifted_pos num denPos e
  refine ⟨_, ?_, rfl⟩
  split
  · next small =>
    have below : _ < 2 ^ 52 * _ := (Nat.div_lt_iff_lt_mul pos).mp small
    rcases shifted_sub_one num den e with ⟨same, half⟩ | ⟨double, same⟩
    · constructor <;> omega
    · constructor <;> omega
  · next large =>
    have above : 2 ^ 52 * _ ≤ _ := (Nat.le_div_iff_mul_le pos).mp (Nat.le_of_not_lt large)
    exact ⟨above, high⟩

/-- A quotient below 2^53 is rounded up to it from half a step below on. -/
theorem roundDiv_eq_top (high : num < 2 ^ 53 * den) :
    roundDiv num den = 2 ^ 53 ↔ (2 ^ 54 - 1) * den ≤ 2 * num := by
  have denPos : 0 < den := Nat.pos_of_ne_zero fun zero => by simp [zero] at high
  have parts := Nat.div_add_mod num den
  have rest := Nat.mod_lt num denPos
  have quotient : num / den < 2 ^ 53 := (Nat.div_lt_iff_lt_mul denPos).mpr high
  simp only [roundDiv]
  generalize num / den = q at parts quotient ⊢
  generalize num % den = r at parts rest ⊢
  by_cases top : q = 2 ^ 53 - 1
  · subst top
    split_ifs <;> omega
  · have lower : den * q ≤ den * (2 ^ 53 - 2) := Nat.mul_le_mul_left den (by omega)
    split_ifs <;> omega

theorem roundDiv_ne_zero (denPos : 0 < den) (large : den ≤ num) : roundDiv num den ≠ 0 := by
  have quotient : 1 ≤ num / den := (Nat.le_div_iff_mul_le denPos).mpr (by omega)
  simp only [roundDiv]
  split_ifs <;> omega

/-- Too far is what has a larger exponent, or is rounded up to one. -/
theorem ofRatio?_scaled (notZero : num ≠ 0) {e : Int} (scale : scaleFor num den = e) :
    ofRatio? num den = none ↔
      roundDiv (shifted num den e).1 (shifted num den e).2 ≠ 0 ∧
        (971 < e ∨
          e = 971 ∧ roundDiv (shifted num den e).1 (shifted num den e).2 = 2 ^ 53) := by
  have top : Nat.pow 2 53 = 2 ^ 53 := rfl
  simp only [ofRatio?, if_neg notZero, scale, top]
  generalize roundDiv (shifted num den e).1 (shifted num den e).2 = m
  by_cases carried : m = 2 ^ 53
  · have low : Nat.pow 2 52 ≠ 0 := by decide
    have far : 971 < e ∨ e = 971 ↔ 971 < e + 1 := by omega
    rw [if_pos carried, if_neg low]
    simp [carried, far]
  · have apart : ¬ (e = 971 ∧ m = 2 ^ 53) := fun both => carried both.2
    rw [if_neg carried, or_iff_left apart]
    by_cases zero : m = 0
    · simp [zero]
    · by_cases far : 971 < e <;> simp [zero, far]

section

variable {k p : Nat}

theorem lt_of_scaled (small : k ≤ p) (high : num < 2 ^ 53 * (den * 2 ^ k)) :
    num < (2 ^ 54 - 1) * 2 ^ p * den := by
  have grows : 2 ^ k ≤ 2 ^ p := Nat.pow_le_pow_right (by decide) small
  calc num < 2 ^ 53 * (den * 2 ^ k) := high
    _ ≤ 2 ^ 53 * (den * 2 ^ p) := Nat.mul_le_mul_left _ (Nat.mul_le_mul_left _ grows)
    _ = 2 ^ 53 * 2 ^ p * den := by rw [Nat.mul_comm den, Nat.mul_assoc]
    _ ≤ (2 ^ 54 - 1) * 2 ^ p * den := Nat.mul_le_mul_right den (Nat.mul_le_mul_right _ (by decide))

theorem le_of_scaled (large : p + 2 ≤ k) (low : 2 ^ 52 * (den * 2 ^ k) ≤ num) :
    (2 ^ 54 - 1) * 2 ^ p * den ≤ num := by
  have grows : 2 ^ (p + 2) ≤ 2 ^ k := Nat.pow_le_pow_right (by decide) large
  calc (2 ^ 54 - 1) * 2 ^ p * den ≤ 2 ^ 54 * 2 ^ p * den :=
        Nat.mul_le_mul_right den (Nat.mul_le_mul_right _ (by decide))
    _ = 2 ^ 52 * (den * 2 ^ (p + 2)) := by ring
    _ ≤ 2 ^ 52 * (den * 2 ^ k) := Nat.mul_le_mul_left _ (Nat.mul_le_mul_left _ grows)
    _ ≤ num := low

theorem half_step : (2 ^ 54 - 1) * (den * 2 ^ (p + 1)) ≤ 2 * num ↔
    (2 ^ 54 - 1) * 2 ^ p * den ≤ num := by
  have double : (2 ^ 54 - 1) * (den * 2 ^ (p + 1)) = 2 * ((2 ^ 54 - 1) * 2 ^ p * den) := by ring
  rw [double]
  exact Nat.mul_le_mul_left_iff (by decide)

end

theorem ofRatio?_eq_none_iff (denPos : 0 < den) :
    ofRatio? num den = none ↔ limit * den ≤ num := by
  by_cases zero : num = 0
  · have small : 0 < 2 ^ 53 * (den * 2 ^ 0) := by omega
    have none := Nat.not_le.mpr (lt_of_scaled (Nat.zero_le 970) small)
    rw [limit, zero]
    simp only [ofRatio?, if_true, reduceCtorEq, none]
  obtain ⟨e, ⟨low, high⟩, scale⟩ := scaleFor_eq (Nat.pos_of_ne_zero zero) denPos
  rw [ofRatio?_scaled zero scale, limit]
  rcases e with k | k
  · have low : 2 ^ 52 * (den * 2 ^ k) ≤ num := low
    have high : num < 2 ^ 53 * (den * 2 ^ k) := high
    have some : roundDiv num (den * 2 ^ k) ≠ 0 :=
      roundDiv_ne_zero (Nat.mul_pos denPos (Nat.two_pow_pos k)) (by omega)
    have top := roundDiv_eq_top high
    rw [if_neg (by simp)]
    show (roundDiv num (den * 2 ^ k) ≠ 0 ∧
      (971 < (k : Int) ∨ (k : Int) = 971 ∧ roundDiv num (den * 2 ^ k) = 2 ^ 53)) ↔ _
    rw [top]
    rcases Nat.lt_trichotomy k 971 with below | same | above
    · have near := lt_of_scaled (Nat.le_of_lt_succ below) high
      constructor
      · rintro ⟨_, far | ⟨same, _⟩⟩ <;> omega
      · exact fun far => absurd far (Nat.not_le.mpr near)
    · rw [same] at some ⊢
      rw [half_step]
      constructor
      · rintro ⟨_, far | ⟨_, far⟩⟩
        · omega
        · exact far
      · exact fun far => ⟨some, .inr ⟨rfl, far⟩⟩
    · have far := le_of_scaled above low
      exact ⟨fun _ => far, fun _ => ⟨some, .inl (by omega)⟩⟩
  · have high : num * 2 ^ (k + 1) < 2 ^ 53 * den := high
    have small : num < 2 ^ 53 * (den * 2 ^ 0) := by
      have scaled : num * 1 ≤ num * 2 ^ (k + 1) := Nat.mul_le_mul_left num (Nat.two_pow_pos (k + 1))
      omega
    have near := lt_of_scaled (Nat.zero_le 970) small
    have under : (if Int.negSucc k < -1074 then -1074 else Int.negSucc k) < 971 := by
      split <;> omega
    constructor
    · rintro ⟨_, far | ⟨same, _⟩⟩ <;> omega
    · exact fun far => absurd far (Nat.not_le.mpr near)

/-! ### Decimal numbers -/

theorem ratio_pos (x : Binary64) : 0 < x.ratio.2 := by
  unfold ratio
  split
  · exact Nat.one_pos
  · exact Nat.two_pow_pos _

/-- Two numbers have a product that is too far from 0. -/
def Overflows (x y : Binary64) : Prop :=
  limit * (x.ratio.2 * y.ratio.2) ≤ x.ratio.1 * y.ratio.1

theorem mul?_eq_none_iff {x y : Binary64} : x.mul? y = none ↔ Overflows x y :=
  ofRatio?_eq_none_iff (Nat.mul_pos x.ratio_pos y.ratio_pos)

/-- The smallest exponents are for numbers below 1. -/
theorem scaleFor_one {n : Nat} (pos : 0 < n) : ∃ e, Scaled n 1 e ∧ scaleFor n 1 = e := by
  obtain ⟨e, scaled, scale⟩ := scaleFor_eq pos Nat.one_pos
  refine ⟨e, scaled, ?_⟩
  rw [scale, if_neg]
  intro small
  obtain ⟨k, rfl⟩ : ∃ k, e = Int.negSucc k := by
    cases e with
    | ofNat k => simp at small; omega
    | negSucc k => exact ⟨k, rfl⟩
  have high : n * 2 ^ (k + 1) < 2 ^ 53 * 1 := scaled.high
  have large : 2 ^ 53 ≤ 2 ^ (k + 1) := Nat.pow_le_pow_right (by decide) (by omega)
  have scaledUp : 1 * 2 ^ (k + 1) ≤ n * 2 ^ (k + 1) := Nat.mul_le_mul_right _ pos
  omega

theorem mantissa_ne_zero {e : Int} {x : Binary64} (notZero : num ≠ 0)
    (scale : scaleFor num den = e)
    (rounded : roundDiv (shifted num den e).1 (shifted num den e).2 ≠ 0)
    (nearest : ofRatio? num den = some x) : x.mantissa ≠ 0 := by
  simp only [ofRatio?, if_neg notZero, scale] at nearest
  generalize roundDiv (shifted num den e).1 (shifted num den e).2 = m at rounded nearest
  have carried : Nat.pow 2 52 ≠ 0 := by decide
  split at nearest
  · simp only at nearest
    split at nearest
    · cases nearest
    · obtain rfl := Option.some.inj nearest
      exact carried
  · simp only at nearest
    split at nearest
    · cases nearest
    · obtain rfl := Option.some.inj nearest
      exact rounded

/-- No natural within reach is rounded to 0 but 0. -/
theorem isZero_ofNat {n : Nat} (small : n < limit) : (ofNat n).isZero = true ↔ n = 0 := by
  constructor
  · intro isZero
    by_contra notZero
    obtain ⟨e, scaled, scale⟩ := scaleFor_one (Nat.pos_of_ne_zero notZero)
    have low := scaled.low
    have denPos := shifted_pos n Nat.one_pos e
    have rounded := roundDiv_ne_zero denPos (by omega : _ ≤ (shifted n 1 e).1)
    cases nearest : ofRatio? n 1 with
    | none =>
      have far := (ofRatio?_eq_none_iff Nat.one_pos).mp nearest
      omega
    | some x =>
      refine mantissa_ne_zero notZero scale rounded nearest ?_
      simpa [ofNat, nearest, Binary64.isZero] using isZero
  · rintro rfl
    rfl

/-- Of a decimal number without a fraction no number is made if its power of ten is beyond the last,
or its rounded factors multiply to too much. -/
theorem ofDecimal?_eq_none_iff {significand : Nat} (small : significand < limit)
    {exponent : Int} :
    ofDecimal? significand exponent = none ↔
      significand ≠ 0 ∧ ∃ k : Nat, exponent = k ∧
        (308 < k ∨ Overflows (ofNat significand) (powerOfTen k)) := by
  have isZero := isZero_ofNat small
  cases exponent with
  | ofNat k =>
    have only : (∃ n : Nat, Int.ofNat k = n ∧
        (308 < n ∨ Overflows (ofNat significand) (powerOfTen n))) ↔
        308 < k ∨ Overflows (ofNat significand) (powerOfTen k) := by
      simp
    rw [only]
    simp only [ofDecimal?, isZero]
    by_cases zero : significand = 0
    · simp [zero]
    by_cases inTable : k ≤ 308
    · simp [zero, inTable, mul?_eq_none_iff, Nat.not_lt.mpr inTable]
    · simp [zero, inTable, Nat.lt_of_not_le inTable]
  | negSucc k => simp [ofDecimal?]

end CameraRelay.Binary64
