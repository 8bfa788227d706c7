import Mathlib.Algebra.Order.Field.Power
import Mathlib.Algebra.Order.Field.Rat
import RouteDoc.Json.Number

namespace RouteDoc.Number

/-- The value that a number stands for, whatever its spelling. -/
def value (n : Number) : ℚ := n.scaled.1 * 2 ^ n.scaled.2

/-- The value in units of the smaller one of two powers of two. -/
def unitsBeside (a b : Number) : Int :=
  a.scaled.1 * Int.pow 2 (a.scaled.2 - b.scaled.2).toNat

variable {a b c : Number}

theorem value_eq_units (a b : Number) :
    a.value = a.unitsBeside b * 2 ^ min a.scaled.2 b.scaled.2 := by
  have hexponent : a.scaled.2 =
      ((a.scaled.2 - b.scaled.2).toNat : Int) + min a.scaled.2 b.scaled.2 := by omega
  have hpow : (2 : ℚ) ^ a.scaled.2 =
      2 ^ (a.scaled.2 - b.scaled.2).toNat * 2 ^ min a.scaled.2 b.scaled.2 := by
    conv_lhs => rw [hexponent, zpow_add₀ (by norm_num), zpow_natCast]
  have hcast : ((Int.pow 2 (a.scaled.2 - b.scaled.2).toNat : Int) : ℚ) =
      2 ^ (a.scaled.2 - b.scaled.2).toNat := Int.cast_pow 2 _
  rw [value, hpow, unitsBeside, Int.cast_mul, hcast, mul_assoc]

theorem value_lt_iff : a.value < b.value ↔ a.unitsBeside b < b.unitsBeside a := by
  have hunit : (0 : ℚ) < 2 ^ min a.scaled.2 b.scaled.2 := zpow_pos (by norm_num) _
  rw [value_eq_units a b, value_eq_units b a, min_comm b.scaled.2, mul_lt_mul_iff_left₀ hunit,
    Int.cast_lt]

theorem order_eq_lt_iff : a.order b = .lt ↔ a.value < b.value :=
  Int.compare_eq_lt.trans value_lt_iff.symm

theorem order_eq_gt_iff : a.order b = .gt ↔ b.value < a.value :=
  Int.compare_eq_gt.trans value_lt_iff.symm

/-- What is strictly on one side of a number is so of all numbers that are not. -/
theorem order_eq_of_strict {strict : Ordering} (hs : strict ≠ .eq) (h : a.order c = strict)
    (hb : b.order c ≠ strict) : a.order b = strict := by
  cases strict with
  | lt =>
    rw [order_eq_lt_iff] at h ⊢
    rw [ne_eq, order_eq_lt_iff, not_lt] at hb
    exact lt_of_lt_of_le h hb
  | eq => exact absurd rfl hs
  | gt =>
    rw [order_eq_gt_iff] at h ⊢
    rw [ne_eq, order_eq_gt_iff, not_lt] at hb
    exact lt_of_le_of_lt hb h

end RouteDoc.Number
