import UnitWatch.Proofs.Number.Binary64

/-!
# Rounding keeps order

A number that the format has is never crossed by rounding: what is below it is not rounded above it,
and what is above it is not rounded below it. So comparing a number of the format with a rounded one
says the same as comparing it with the exact one, unless they are equal (`lt_iff_of_exact`).

The reason is that a number of the format is a whole number of quanta, both of its own and of any
smaller ones; and from a smaller magnitude to a larger one there is a power of two in between, which
is a whole number of quanta on both sides.
-/

namespace UnitWatch.Binary64

variable {q r x y : Rat} {n : Int}

/-- The format has this number. -/
def IsExact (q : Rat) : Prop := ofRat q = .real q

instance (q : Rat) : Decidable (IsExact q) := inferInstanceAs (Decidable (_ = _))

/-! ## Rounding to integers -/

theorem le_roundHalfEven (h : (n : Rat) ≤ x) : n ≤ roundHalfEven x := by
  have low : n ≤ x.floor := Rat.le_floor_iff.2 h
  unfold roundHalfEven
  simp only
  split_ifs <;> omega

/-- Less than a half is rounded off. -/
theorem roundHalfEven_le (h : x < (n : Rat) + 1 / 2) : roundHalfEven x ≤ n := by
  have upper : x.floor ≤ n := by
    have below : (x.floor : Rat) < ((n + 1 : Int) : Rat) := by
      push_cast
      linarith [Rat.floor_le x]
    have : x.floor < n + 1 := by exact_mod_cast below
    omega
  rcases upper.lt_or_eq with below | same
  · unfold roundHalfEven
    simp only
    split_ifs <;> omega
  · unfold roundHalfEven
    simp only
    rw [if_pos (by rw [same]; linarith)]
    exact same.le

/-! ## Magnitudes -/

/-- The magnitude is large enough. -/
theorem lt_two_zpow_magnitude_succ (h : 0 < q) : q < (2 : Rat) ^ (magnitude q + 1) := by
  unfold magnitude
  simp only
  split
  · have num : (0 : Int) < q.num := Rat.num_pos.2 h
    have above : (q.num.natAbs : Rat) < (2 ^ (q.num.natAbs.log2 + 1) : Rat) := by
      exact_mod_cast Nat.lt_log2_self
    have below : (2 ^ q.den.log2 : Rat) ≤ (q.den : Rat) := by
      exact_mod_cast Nat.log2_self_le q.den_ne_zero
    have natAbs : ((q.num.natAbs : Nat) : Rat) = (q.num : Rat) := by
      rw [← Int.cast_natCast, Int.natAbs_of_nonneg num.le]
    have exponent : ((q.num.natAbs.log2 : Int) - (q.den.log2 : Int)) + 1 =
        ((q.num.natAbs.log2 + 1 : Nat) : Int) - (q.den.log2 : Int) := by omega
    calc q = (q.num : Rat) / (q.den : Rat) := q.num_div_den.symm
      _ < 2 ^ (q.num.natAbs.log2 + 1) / 2 ^ q.den.log2 := by
          rw [natAbs] at above
          exact div_lt_div₀ above below (by positivity) (by positivity)
      _ = (2 : Rat) ^ (((q.num.natAbs.log2 : Int) - (q.den.log2 : Int)) + 1) := by
          rw [exponent, zpow_sub₀ two_ne_zero, zpow_natCast, zpow_natCast]
  · next gt =>
    rw [Rat.abs_of_nonneg h.le] at gt
    simpa using gt

theorem magnitude_mono (hq : 0 < q) (h : q ≤ r) : magnitude q ≤ magnitude r := by
  have between : (2 : Rat) ^ magnitude q < (2 : Rat) ^ (magnitude r + 1) :=
    (two_zpow_magnitude_le hq).trans_lt (h.trans_lt (lt_two_zpow_magnitude_succ (hq.trans_le h)))
  have := (zpow_lt_zpow_iff_right₀ (by norm_num)).1 between
  omega

theorem magnitude_eq {e : Int} (low : (2 : Rat) ^ e ≤ q) (high : q < (2 : Rat) ^ (e + 1)) :
    magnitude q = e := by
  have hq : 0 < q := (Rat.zpow_pos (by norm_num)).trans_le low
  have upper := (zpow_lt_zpow_iff_right₀ (by norm_num)).1
    ((two_zpow_magnitude_le hq).trans_lt high)
  have lower := (zpow_lt_zpow_iff_right₀ (by norm_num)).1
    (low.trans_lt (lt_two_zpow_magnitude_succ hq))
  omega

/-! ## Rounding to quanta -/

/-- The nearest whole number of quanta. -/
def nearest (q : Rat) : Rat := (roundHalfEven (q / quantum q) : Rat) * quantum q

theorem quantum_pos (q : Rat) : 0 < quantum q := Rat.zpow_pos (by norm_num)

/-- A whole number of quanta that is not above is not above after rounding. -/
theorem le_nearest (h : (n : Rat) * quantum x ≤ x) : (n : Rat) * quantum x ≤ nearest x := by
  have whole : n ≤ roundHalfEven (x / quantum x) :=
    le_roundHalfEven ((le_div_iff₀ (quantum_pos x)).2 h)
  exact mul_le_mul_of_nonneg_right (by exact_mod_cast whole) (quantum_pos x).le

theorem nearest_le (h : x ≤ (n : Rat) * quantum x) : nearest x ≤ (n : Rat) * quantum x := by
  have whole : roundHalfEven (x / quantum x) ≤ n :=
    roundHalfEven_le (((div_le_iff₀ (quantum_pos x)).2 h).trans_lt (by linarith))
  exact mul_le_mul_of_nonneg_right (by exact_mod_cast whole) (quantum_pos x).le

/-- Larger numbers have the same quantum, or one that is a power of two times as large; in the
second case a power of two stands between the numbers. -/
theorem quantum_cases (hq : 0 < q) (h : q ≤ r) :
    ∃ k : Nat, quantum r = 2 ^ k * quantum q ∧
      (k = 0 ∨ q ≤ 2 ^ 52 * quantum r ∧ 2 ^ 52 * quantum r ≤ r) := by
  have mono := magnitude_mono hq h
  refine ⟨(max (magnitude r - 52) (-1074) - max (magnitude q - 52) (-1074)).toNat, ?_, ?_⟩
  · unfold quantum
    rw [← zpow_natCast, ← zpow_add₀ two_ne_zero]
    congr 1
    omega
  · by_cases same : max (magnitude r - 52) (-1074) = max (magnitude q - 52) (-1074)
    · exact .inl (by omega)
    · have power : (2 : Rat) ^ 52 * quantum r = (2 : Rat) ^ magnitude r := by
        unfold quantum
        rw [← zpow_natCast, ← zpow_add₀ two_ne_zero]
        congr 1
        push_cast
        omega
      refine .inr ⟨?_, power ▸ two_zpow_magnitude_le (hq.trans_le h)⟩
      rw [power]
      refine (lt_two_zpow_magnitude_succ hq).le.trans ?_
      exact zpow_le_zpow_right₀ (by norm_num) (by omega)

/-- What is not below a whole number of its quanta is not rounded below it. -/
theorem le_nearest_of_le (hq : 0 < q) (whole : q = (n : Rat) * quantum q) (h : q ≤ x) :
    q ≤ nearest x := by
  obtain ⟨k, scale, rfl | ⟨below, above⟩⟩ := quantum_cases hq h
  · have same : q = (n : Rat) * quantum x := by rw [scale, pow_zero, one_mul, ← whole]
    rw [same] at h
    exact same.trans_le (le_nearest h)
  · have between : ((2 ^ 52 : Int) : Rat) * quantum x ≤ nearest x :=
      le_nearest (by push_cast; exact above)
    push_cast at between
    exact below.trans between

/-- What is not above a whole number of its quanta is not rounded above it. -/
theorem nearest_le_of_le (hx : 0 < x) (whole : q = (n : Rat) * quantum q) (h : x ≤ q) :
    nearest x ≤ q := by
  obtain ⟨k, scale, -⟩ := quantum_cases hx h
  have same : q = ((n * 2 ^ k : Int) : Rat) * quantum x := by
    rw [whole, scale]
    push_cast
    rw [mul_assoc]
  rw [same] at h ⊢
  exact nearest_le h

/-! ## Numbers of the format -/

/-- A number that the format has is a whole number of its quanta, and not too large. -/
theorem IsExact.whole (exact : IsExact q) (hq : 0 < q) :
    q = (roundHalfEven (q / quantum q) : Rat) * quantum q ∧ q < (2 : Rat) ^ (1024 : Nat) := by
  unfold IsExact ofRat at exact
  rw [if_neg hq.ne'] at exact
  simp only at exact
  split at exact
  · split at exact
    · cases exact
    · injection exact with zero
      exact absurd zero.symm hq.ne'
  · split at exact
    · cases exact
    · next small =>
      injection exact with same
      rw [not_le, same, Rat.abs_of_nonneg hq.le] at small
      exact ⟨same.symm, small⟩

/-- Rounding gives the nearest whole number of quanta, unless that is too large. -/
theorem toRat?_ofRat (hx : 0 < x) : (ofRat x).toRat? =
    if (2 : Rat) ^ (1024 : Nat) ≤ nearest x then none else some (nearest x) := by
  have nonneg : 0 ≤ nearest x := by
    refine mul_nonneg ?_ (quantum_pos x).le
    exact_mod_cast le_roundHalfEven (by
      push_cast
      exact (div_pos hx (quantum_pos x)).le)
  unfold ofRat
  rw [if_neg hx.ne']
  show (if nearest x = 0 then (if x < 0 then negativeZero else real 0)
    else if (2 : Rat) ^ (1024 : Nat) ≤ (nearest x).abs then infinite (decide (x < 0))
    else real (nearest x)).toRat? = _
  rw [Rat.abs_of_nonneg nonneg, if_neg hx.not_gt]
  split_ifs with zero large large
  · rw [zero] at large
    exact absurd large (by norm_num)
  · rw [zero]
    rfl
  · rfl
  · rfl

/-- Where numbers of the format stand more than two apart, one more makes no difference. -/
theorem nearest_add_one_le (hq : 0 < q) (whole : q = (n : Rat) * quantum q)
    (wide : 2 < quantum q) : nearest (q + 1) ≤ q := by
  have step : quantum q = (2 : Rat) ^ (magnitude q - 52) := by
    unfold quantum at wide ⊢
    rcases le_total (-1074) (magnitude q - 52) with le | le
    · rw [max_eq_left le]
    · rw [max_eq_right le] at wide
      have : (2 : Rat) ^ (-1074 : Int) ≤ 1 := zpow_le_one_of_nonpos₀ (by norm_num) (by norm_num)
      linarith
  have top : (2 : Rat) ^ (magnitude q + 1) = 2 ^ 53 * quantum q := by
    rw [step, ← zpow_natCast, ← zpow_add₀ two_ne_zero]
    congr 1
    push_cast
    omega
  -- One more stays below the next power of two, from which on the steps are wider.
  have room : q + 1 < (2 : Rat) ^ (magnitude q + 1) := by
    have below := lt_two_zpow_magnitude_succ hq
    have count : (n : Rat) < ((2 ^ 53 : Int) : Rat) := by
      refine lt_of_mul_lt_mul_right ?_ (quantum_pos q).le
      rw [← whole]
      push_cast
      exact top ▸ below
    have next : ((n + 1 : Int) : Rat) ≤ ((2 ^ 53 : Int) : Rat) := by
      exact_mod_cast Int.add_one_le_of_lt (by exact_mod_cast count)
    push_cast at next
    calc q + 1 < (n : Rat) * quantum q + quantum q := by linarith
      _ = (n + 1) * quantum q := by rw [add_mul, one_mul]
      _ ≤ 2 ^ 53 * quantum q := mul_le_mul_of_nonneg_right next (quantum_pos q).le
      _ = (2 : Rat) ^ (magnitude q + 1) := top.symm
  have step' : quantum (q + 1) = quantum q := by
    rw [quantum, quantum, magnitude_eq (by linarith [two_zpow_magnitude_le hq]) room]
  have rounded : roundHalfEven ((q + 1) / quantum q) ≤ n := by
    refine roundHalfEven_le ((div_lt_iff₀ (quantum_pos q)).2 ?_)
    rw [add_mul, ← whole]
    linarith
  rw [nearest, step']
  calc (roundHalfEven ((q + 1) / quantum q) : Rat) * quantum q
      ≤ (n : Rat) * quantum q :=
        mul_le_mul_of_nonneg_right (by exact_mod_cast rounded) (quantum_pos q).le
    _ = q := whole.symm

/-- One more than a number of the format is not too large for it. -/
theorem exists_toRat?_add_one (exact : IsExact q) (hq : 0 < q) :
    ∃ r, (ofRat (q + 1)).toRat? = some r := by
  obtain ⟨whole, small⟩ := exact.whole hq
  have fits : nearest (q + 1) < (2 : Rat) ^ (1024 : Nat) := by
    by_cases wide : 2 < quantum q
    · exact (nearest_add_one_le hq whole wide).trans_lt small
    · have power : IsExact (2 ^ 55) := by decide +kernel
      obtain ⟨whole', small'⟩ := power.whole (by norm_num)
      have low : magnitude q - 52 ≤ 1 := by
        refine (zpow_le_zpow_iff_right₀ (one_lt_two : (1 : Rat) < 2)).1 ?_
        rw [zpow_one]
        exact (zpow_le_zpow_right₀ one_le_two (le_max_left _ _)).trans (not_lt.1 wide)
      have below : q < (2 : Rat) ^ (54 : Int) :=
        (lt_two_zpow_magnitude_succ hq).trans_le (zpow_le_zpow_right₀ one_le_two (by omega))
      refine (nearest_le_of_le (by linarith) whole' ?_).trans_lt small'
      norm_num at below ⊢
      linarith
  exact ⟨nearest (q + 1), by rw [toRat?_ofRat (by linarith), if_neg (not_le.2 fits)]⟩

/-- **Comparing with a rounded number.** A number of the format that is not the rounded one itself
is below it exactly if it is below the exact one. -/
theorem lt_iff_of_exact (exact : IsExact q) (nonneg : 0 ≤ q) (hx : 1 ≤ x)
    (hr : (ofRat x).toRat? = some r) (differs : q ≠ r) : q < r ↔ q < x := by
  rcases nonneg.eq_or_lt with rfl | hq
  · have positive := pos_of_toRat?_ofRat hx hr
    exact iff_of_true positive (by linarith)
  have hx' : 0 < x := by linarith
  obtain ⟨whole, -⟩ := exact.whole hq
  rw [toRat?_ofRat hx'] at hr
  split at hr
  · cases hr
  · cases hr
    constructor
    · intro below
      by_contra above
      exact absurd (nearest_le_of_le hx' whole (not_lt.1 above)) (not_le.2 below)
    · intro below
      exact lt_of_le_of_ne (le_nearest_of_le hq whole below.le) differs

end UnitWatch.Binary64
