import Mathlib.Algebra.Order.Field.Basic
import Mathlib.Algebra.Order.Ring.Unbundled.Rat
import Mathlib.Data.Rat.Lemmas
import Mathlib.Tactic.Linarith
import UnitWatch.Number.Binary64

/-!
# Rounding keeps numbers apart from zero

A number of one or more is at least one quantum, so rounding does not lose it.
-/

namespace UnitWatch.Binary64

variable {q : Rat}

/-- The magnitude is small enough. -/
theorem two_zpow_magnitude_le (h : 0 < q) : (2 : Rat) ^ magnitude q ≤ q := by
  unfold magnitude
  simp only
  split
  · next le => rwa [Rat.abs_of_nonneg h.le] at le
  · have num : (0 : Int) < q.num := Rat.num_pos.2 h
    have below : (2 ^ q.num.natAbs.log2 : Rat) ≤ (q.num.natAbs : Rat) := by
      exact_mod_cast Nat.log2_self_le (by omega)
    have above : (q.den : Rat) ≤ (2 ^ (q.den.log2 + 1) : Rat) := by
      exact_mod_cast Nat.lt_log2_self.le
    have natAbs : ((q.num.natAbs : Nat) : Rat) = (q.num : Rat) := by
      rw [← Int.cast_natCast, Int.natAbs_of_nonneg num.le]
    have exponent : ((q.num.natAbs.log2 : Int) - (q.den.log2 : Int)) - 1 =
        (q.num.natAbs.log2 : Int) - ((q.den.log2 + 1 : Nat) : Int) := by omega
    calc (2 : Rat) ^ (((q.num.natAbs.log2 : Int) - (q.den.log2 : Int)) - 1)
        = 2 ^ q.num.natAbs.log2 / 2 ^ (q.den.log2 + 1) := by
          rw [exponent, zpow_sub₀ two_ne_zero, zpow_natCast, zpow_natCast]
      _ ≤ (q.num : Rat) / (q.den : Rat) := by
          rw [natAbs] at below
          exact div_le_div₀ (by exact_mod_cast num.le) below (by exact_mod_cast q.den_pos) above
      _ = q := q.num_div_den

theorem quantum_le (h : 1 ≤ q) : quantum q ≤ q := by
  unfold quantum
  rcases le_total (magnitude q - 52) (-1074) with le | le
  · rw [max_eq_right le]
    refine le_trans (zpow_le_one_of_nonpos₀ (by norm_num) (by norm_num)) h
  · rw [max_eq_left le]
    refine le_trans ?_ (two_zpow_magnitude_le (by linarith))
    exact zpow_le_zpow_right₀ (by norm_num) (by omega)

theorem one_le_roundHalfEven (h : 1 ≤ q) : 1 ≤ roundHalfEven q := by
  have low : 1 ≤ q.floor := Rat.le_floor_iff.2 (by exact_mod_cast h)
  unfold roundHalfEven
  simp only
  split_ifs <;> omega

/-- What is one or more is rounded to something positive. -/
theorem pos_of_toRat?_ofRat {r : Rat} (h : 1 ≤ q) (hr : (ofRat q).toRat? = some r) : 0 < r := by
  have quantum_pos : 0 < quantum q := Rat.zpow_pos (by norm_num)
  have rounded : 1 ≤ roundHalfEven (q / quantum q) :=
    one_le_roundHalfEven ((one_le_div quantum_pos).2 (quantum_le h))
  have positive : 0 < (roundHalfEven (q / quantum q) : Rat) * quantum q :=
    mul_pos (by exact_mod_cast rounded) quantum_pos
  unfold ofRat at hr
  rw [if_neg (by linarith)] at hr
  simp only at hr
  rw [if_neg positive.ne'] at hr
  split at hr
  · cases hr
  · cases hr
    exact positive

end UnitWatch.Binary64
