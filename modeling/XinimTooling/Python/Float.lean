/-
Module: XinimTooling.Python.Float
Purpose: Python's `float` as the scripts use it: IEEE 754 binary64 values, the conversion of
  an `int`, multiplication, division and `<`.  A finite float is kept as the rational it
  denotes, and every operation rounds its exact result to the nearest double, half to
  even, overflowing to an infinity.  Rounding to the grid of a value keeps it on the same
  side of every coarser grid point, so integers below 2^53 convert exactly and a quotient
  with a small denominator rounds below an integer exactly when it lies below it.
Trusted boundary: CPython's `float` is IEEE 754 binary64 with rounding to nearest, ties to
  even; `-0.0` is not told apart from `0.0`, and `nan` carries no payload
Main exports: roundHalfEven, quantum, roundDouble, PyFloat, PyFloat.ofInt, PyFloat.mul,
  PyFloat.div, PyFloat.lt, roundDouble_le, le_roundDouble, roundDouble_intCast,
  roundDouble_div_lt_iff
-/
import Mathlib.Algebra.Order.Field.Power
import Mathlib.Data.Int.Log
import Mathlib.Data.Rat.Floor
import Mathlib.Tactic.Linarith
import Mathlib.Tactic.NormNum.Basic

namespace XinimTooling

/-!
A double is `m * 2^e` with `|m| < 2^53` and `e ≥ -1074`.  Near a value `x` the doubles are
the multiples of `2^(quantum x)`: `quantum x` is the exponent of the last significand bit
of a double of the binade of `x`, and `-1074` among the subnormals.  `roundDouble` rounds
to that grid with an unbounded exponent above; a result of magnitude `2^1024` or more is
what IEEE 754 turns into an infinity, and `PyFloat` does so.

Every fact below comes from two properties of `roundHalfEven`: it never crosses an integer
(`roundHalfEven_le`, `le_roundHalfEven`), so `roundDouble` never crosses a multiple of
`2^k` for `k ≥ quantum x` (`roundDouble_le`, `le_roundDouble`).
-/

/-! ### Rounding to an integer -/

/-- The integer nearest `x`, the even one of the two on a tie. -/
def roundHalfEven (x : ℚ) : ℤ :=
  if x - ⌊x⌋ < 1 / 2 then ⌊x⌋
  else if 1 / 2 < x - ⌊x⌋ then ⌊x⌋ + 1
  else if ⌊x⌋ % 2 = 0 then ⌊x⌋ else ⌊x⌋ + 1

/-- `roundHalfEven` gives the floor, or the next integer when `x` is at least half way
to it. -/
theorem roundHalfEven_cases (x : ℚ) :
    roundHalfEven x = ⌊x⌋ ∨ (roundHalfEven x = ⌊x⌋ + 1 ∧ 1 / 2 ≤ x - ⌊x⌋) := by
  unfold roundHalfEven
  split_ifs with below above even
  · exact .inl rfl
  · exact .inr ⟨rfl, above.le⟩
  · exact .inl rfl
  · exact .inr ⟨rfl, not_lt.mp below⟩

/-- Rounding never crosses an integer from below. -/
theorem roundHalfEven_le {x : ℚ} {bound : ℤ} (below : x ≤ bound) :
    roundHalfEven x ≤ bound := by
  have floor : ⌊x⌋ ≤ bound := Int.floor_le_floor below |>.trans_eq (Int.floor_intCast bound)
  rcases roundHalfEven_cases x with rounded | ⟨rounded, half⟩
  · exact rounded ▸ floor
  · have strict : ⌊x⌋ < bound := floor.lt_of_ne fun same => by rw [same] at half; linarith
    omega

/-- Rounding never crosses an integer from above. -/
theorem le_roundHalfEven {x : ℚ} {bound : ℤ} (above : (bound : ℚ) ≤ x) :
    bound ≤ roundHalfEven x := by
  have floor : bound ≤ ⌊x⌋ := Int.le_floor.mpr above
  rcases roundHalfEven_cases x with rounded | ⟨rounded, -⟩ <;> omega

/-! ### Rounding to a double -/

/-- The exponent of the last significand bit of the doubles near `x`: `2^52 ≤ |x| / 2^e <
2^53` for a normal `x`, and the subnormal exponent `-1074` below them. -/
def quantum (x : ℚ) : ℤ := max (Int.log 2 |x| - 52) (-1074)

/-- `x` rounded to the nearest double, half to even, with no bound on the exponent above:
the overflow to an infinity is `PyFloat`'s. -/
def roundDouble (x : ℚ) : ℚ := roundHalfEven (x / 2 ^ quantum x) * 2 ^ quantum x

/-- A value below `2^(k+1)` has its last significand bit at `2^(k-52)` or lower. -/
theorem quantum_le {x : ℚ} {k : ℕ} (small : |x| < 2 ^ (k + 1)) : quantum x ≤ k - 52 := by
  have log : Int.log 2 |x| ≤ k := by
    rcases (abs_nonneg x).eq_or_lt with zero | positive
    · rw [← zero, Int.log_zero_right]
      exact Int.natCast_nonneg k
    · by_contra! over
      have reached :=
        (Int.zpow_le_iff_le_log (by norm_num) positive).mpr (Int.add_one_le_of_lt over)
      rw [Nat.cast_ofNat, ← Nat.cast_succ, zpow_natCast] at reached
      exact absurd small (not_lt.mpr reached)
  unfold quantum
  omega

/-- A multiple of `2^k` with `k` at least the quantum of `x` is a multiple of `2^(quantum x)`. -/
theorem multiple_of_quantum_le {x : ℚ} {k : ℤ} (fine : quantum x ≤ k) (m : ℤ) :
    (m : ℚ) * 2 ^ k = ((m * 2 ^ (k - quantum x).toNat : ℤ) : ℚ) * 2 ^ quantum x := by
  have exponent : k = ((k - quantum x).toNat : ℤ) + quantum x := by omega
  conv_lhs => rw [exponent, zpow_add₀ two_ne_zero, zpow_natCast]
  push_cast
  ring

/-- Rounding never crosses a multiple of `2^k`, for `k` at least the quantum, from below. -/
theorem roundDouble_le {x : ℚ} {m k : ℤ} (fine : quantum x ≤ k) (below : x ≤ m * 2 ^ k) :
    roundDouble x ≤ m * 2 ^ k := by
  rw [multiple_of_quantum_le fine] at below ⊢
  have positive : (0 : ℚ) < 2 ^ quantum x := zpow_pos two_pos _
  have scaled := roundHalfEven_le ((div_le_iff₀ positive).mpr below)
  exact mul_le_mul_of_nonneg_right (Int.cast_le.mpr scaled) positive.le

/-- Rounding never crosses a multiple of `2^k`, for `k` at least the quantum, from above. -/
theorem le_roundDouble {x : ℚ} {m k : ℤ} (fine : quantum x ≤ k) (above : m * 2 ^ k ≤ x) :
    m * 2 ^ k ≤ roundDouble x := by
  rw [multiple_of_quantum_le fine] at above ⊢
  have positive : (0 : ℚ) < 2 ^ quantum x := zpow_pos two_pos _
  have scaled := le_roundHalfEven ((le_div_iff₀ positive).mpr above)
  exact mul_le_mul_of_nonneg_right (Int.cast_le.mpr scaled) positive.le

theorem roundDouble_nonneg {x : ℚ} (nonneg : 0 ≤ x) : 0 ≤ roundDouble x := by
  simpa using le_roundDouble (m := 0) le_rfl (by simpa using nonneg)

/-- An integer below `2^53` is a double. -/
theorem roundDouble_intCast {n : ℤ} (small : |(n : ℚ)| < 2 ^ 53) : roundDouble n = n := by
  have fine : quantum n ≤ 0 := by simpa using quantum_le (k := 52) small
  apply le_antisymm
  · simpa using roundDouble_le (m := n) fine (by simp)
  · simpa using le_roundDouble (m := n) fine (by simp)

/-- A value of magnitude below `2^53` rounds to magnitude at most `2^53`. -/
theorem roundDouble_le_of_lt {x : ℚ} (nonneg : 0 ≤ x) (small : x < 2 ^ 53) :
    roundDouble x ≤ 2 ^ 53 := by
  have fine : quantum x ≤ 0 := by
    simpa using quantum_le (k := 52) (by rwa [abs_of_nonneg nonneg])
  simpa using roundDouble_le (m := 2 ^ 53) fine (by simpa using small.le)

/-- A quotient of naturals with a denominator of at most `2^46`, below `2^7`, rounds below an
integer exactly when it lies below it: the gap between them is at least `2^-46`, more than
rounding on the grid of `2^-46` can close. -/
theorem roundDouble_div_lt_iff (numerator : ℕ) {denominator : ℕ} (bound : ℤ)
    (positive : 0 < denominator) (fewDigits : denominator ≤ 2 ^ 46)
    (small : (numerator : ℚ) / denominator < 2 ^ 7) :
    roundDouble ((numerator : ℚ) / denominator) < bound ↔
      (numerator : ℚ) / denominator < bound := by
  have positive' : (0 : ℚ) < denominator := Nat.cast_pos.mpr positive
  have nonneg : (0 : ℚ) ≤ (numerator : ℚ) / denominator := by positivity
  have fine : quantum ((numerator : ℚ) / denominator) ≤ -46 := by
    simpa using quantum_le (k := 6) (by rwa [abs_of_nonneg nonneg])
  constructor
  · intro rounded
    by_contra! reached
    have := le_roundDouble (m := bound) (k := 0) (fine.trans (by norm_num)) (by simpa using reached)
    simp only [zpow_zero, mul_one] at this
    exact absurd rounded (not_lt.mpr this)
  · intro below
    have cancel : (2 : ℚ) ^ 46 * 2 ^ (-46 : ℤ) = 1 := by
      rw [← zpow_natCast, ← zpow_add₀ two_ne_zero]
      norm_num
    have point :
        ((bound * 2 ^ 46 - 1 : ℤ) : ℚ) * 2 ^ (-46 : ℤ) = bound - 2 ^ (-46 : ℤ) := by
      simp only [Int.cast_sub, Int.cast_mul, Int.cast_pow, Int.cast_ofNat, Int.cast_one]
      rw [sub_mul, mul_assoc, cancel, mul_one, one_mul]
    have whole : (numerator : ℚ) + 1 ≤ bound * denominator := by
      have below' : (numerator : ℤ) < bound * denominator := by
        exact_mod_cast (div_lt_iff₀ positive').mp below
      exact_mod_cast Int.add_one_le_of_lt below'
    have spacing : 2 ^ (-46 : ℤ) * (denominator : ℚ) ≤ 1 := by
      rw [zpow_neg, inv_mul_le_iff₀ (by positivity), mul_one]
      exact_mod_cast fewDigits
    have gap : (numerator : ℚ) / denominator ≤ bound - 2 ^ (-46 : ℤ) := by
      rw [div_le_iff₀ positive', sub_mul]
      linarith
    calc roundDouble ((numerator : ℚ) / denominator)
        ≤ ((bound * 2 ^ 46 - 1 : ℤ) : ℚ) * 2 ^ (-46 : ℤ) :=
          roundDouble_le fine (point ▸ gap)
      _ = bound - 2 ^ (-46 : ℤ) := point
      _ < bound := sub_lt_self _ (zpow_pos two_pos _)

/-! ### Python floats -/

/-- A Python `float`: a finite double, kept as the rational it denotes, an infinity, or
`nan`. -/
inductive PyFloat where
  | finite (value : ℚ)
  | infinity (negative : Bool)
  | nan
  deriving DecidableEq

namespace PyFloat

/-- The float an exact result rounds to: the nearest double, or an infinity of its sign
when that lies at `2^1024` or beyond. -/
def ofRational (x : ℚ) : PyFloat :=
  if 2 ^ 1024 ≤ |roundDouble x| then .infinity (decide (x < 0)) else .finite (roundDouble x)

/-- `float(n)`, as the arithmetic on a float and an `int` converts the `int`: `none` for
`OverflowError` when it rounds out of range. -/
def ofInt (n : ℤ) : Option PyFloat :=
  if 2 ^ 1024 ≤ |roundDouble n| then none else some (.finite (roundDouble n))

/-- `a * b`. -/
def mul : PyFloat → PyFloat → PyFloat
  | .finite a, .finite b => ofRational (a * b)
  | .nan, _ | _, .nan => .nan
  | .infinity negative, .finite b | .finite b, .infinity negative =>
      if b = 0 then .nan else .infinity (negative != decide (b < 0))
  | .infinity first, .infinity second => .infinity (first != second)

/-- `a / b`: `none` for `ZeroDivisionError`, which Python raises on a zero divisor. -/
def div (a b : PyFloat) : Option PyFloat :=
  if b = .finite 0 then none
  else some <| match a, b with
    | .finite a, .finite b => ofRational (a / b)
    | .nan, _ | _, .nan => .nan
    | .infinity negative, .finite b => .infinity (negative != decide (b < 0))
    | .finite _, .infinity _ => .finite 0
    | .infinity _, .infinity _ => .nan

/-- `a < b`: the order of the extended reals, false whenever `nan` is involved. -/
def lt : PyFloat → PyFloat → Bool
  | .finite a, .finite b => decide (a < b)
  | .finite _, .infinity negative => !negative
  | .infinity negative, .finite _ => negative
  | .infinity first, .infinity second => first && !second
  | _, _ => false

theorem ofRational_of_small {x : ℚ} (nonneg : 0 ≤ x) (small : x < 2 ^ 53) :
    ofRational x = .finite (roundDouble x) := by
  have bounded := roundDouble_le_of_lt nonneg small
  rw [ofRational, if_neg]
  rw [abs_of_nonneg (roundDouble_nonneg nonneg)]
  linarith

theorem div_finite_of_small {a b : ℚ} (nonzero : b ≠ 0) (nonneg : 0 ≤ a / b)
    (small : a / b < 2 ^ 53) :
    (finite a).div (finite b) = some (.finite (roundDouble (a / b))) := by
  rw [div, if_neg (by simpa using nonzero), ofRational_of_small nonneg small]

/-- A natural number below `2^53` converts exactly. -/
theorem ofInt_natCast {n : ℕ} (small : n < 2 ^ 53) : ofInt n = some (.finite n) := by
  have small' : |((n : ℤ) : ℚ)| < 2 ^ 53 := by
    rw [Int.cast_natCast, Nat.abs_cast]
    exact_mod_cast small
  rw [ofInt, roundDouble_intCast small', if_neg (by rw [Int.cast_natCast] at small' ⊢; linarith)]
  simp

end PyFloat

end XinimTooling
