import Mathlib.Data.List.Basic
import UnitWatch.Text.LowerCase

/-!
# Lower case is final

What has been put into lower case does not change when it is put into lower case again: it is made of
characters that are in lower case (`isLower_of_mem_toLower`), and these stay as they are
(`toLower_of_isLower`). The characters that a run of the table leads to lie in no run: either the
intervals are apart, or both go by twos and never meet (`CaseRun.avoids`).
-/

namespace UnitWatch.Text

namespace CaseRun

/-- A character of the run. -/
def Covers (r : CaseRun) (c : Nat) : Prop :=
  r.first ≤ c ∧ c ≤ r.last ∧ (c - r.first) % r.step = 0

/-- What a run leads to, from `low` to `high` by steps, is not in the other run. The comparisons are
those that are evaluated fast, since every run is compared with every other one. -/
def avoids (low high step : Nat) (s : CaseRun) : Bool :=
  Nat.blt high s.first || (Nat.blt s.last low ||
    (Nat.beq s.step 2 && (Nat.beq step 2 || Nat.beq low high) &&
      Nat.beq ((low + s.first) % 2) 1))

theorem not_covers_of_avoids {low high step : Nat} {s : CaseRun} (h : s.avoids low high step)
    {c : Nat} (atLeast : low ≤ c) (atMost : c ≤ high) (byStep : (c - low) % step = 0) :
    ¬s.Covers c := by
  rintro ⟨low', high', step'⟩
  simp only [avoids, Bool.or_eq_true, Bool.and_eq_true, Nat.blt_eq, Nat.beq_eq] at h
  rcases h with below | above | ⟨⟨twos, alike⟩, odd⟩
  · omega
  · omega
  · rw [twos] at step'
    rcases alike with sameStep | single
    · rw [sameStep] at byStep
      omega
    · omega

end CaseRun

theorem lowerRuns_avoid : lowerRuns.all fun r => lowerRuns.all
    (CaseRun.avoids (r.first + r.offset).toNat (r.last + r.offset).toNat r.step) := by
  decide +kernel

theorem lowerRuns_positive : ∀ r ∈ lowerRuns, 0 ≤ (r.first : Int) + r.offset := by decide +kernel

theorem lowerCode_of_not_covers {c : Nat} (h : ∀ r ∈ lowerRuns, ¬r.Covers c) : lowerCode c = c := by
  have none : (lowerRuns.find? fun r =>
      r.first ≤ c && c ≤ r.last && (c - r.first) % r.step == 0) = none := by
    rw [List.find?_eq_none]
    intro r hr covers
    simp only [Bool.and_eq_true, decide_eq_true_eq, beq_iff_eq] at covers
    exact h r hr ⟨covers.1.1, covers.1.2, covers.2⟩
  rw [lowerCode, none]

/-- The lower case of a character is its own lower case. -/
theorem lowerCode_lowerCode (c : Nat) : lowerCode (lowerCode c) = lowerCode c := by
  refine lowerCode_of_not_covers fun s hs => ?_
  unfold lowerCode
  split
  · next r found =>
    have hr := List.mem_of_find?_eq_some found
    have covers := List.find?_some found
    simp only [Bool.and_eq_true, decide_eq_true_eq, beq_iff_eq] at covers
    obtain ⟨⟨low, high⟩, step⟩ := covers
    have positive := lowerRuns_positive r hr
    have avoids := List.all_eq_true.mp (List.all_eq_true.mp lowerRuns_avoid r hr) s hs
    refine CaseRun.not_covers_of_avoids avoids (by omega) (by omega) ?_
    rwa [show (c + r.offset).toNat - (r.first + r.offset).toNat = c - r.first by omega]
  · next found =>
    rw [List.find?_eq_none] at found
    rintro ⟨low, high, step⟩
    exact found s hs (by simp [low, high, step])

/-- A character that is in lower case. -/
def IsLower (c : Char) : Prop := Char.ofNat (lowerCode c.toNat) = c

instance (c : Char) : Decidable (IsLower c) := inferInstanceAs (Decidable (_ = _))

/-- A number is that of its character, unless it is of none. -/
theorem toNat_ofNat_or (n : Nat) : (Char.ofNat n).toNat = n ∨ Char.ofNat n = '\x00' := by
  unfold Char.ofNat
  by_cases valid : n.isValidChar
  · rw [dif_pos valid]
    exact .inl rfl
  · rw [dif_neg valid]
    exact .inr rfl

theorem isLower_ofNat_lowerCode (n : Nat) : IsLower (Char.ofNat (lowerCode n)) := by
  rcases toNat_ofNat_or (lowerCode n) with same | null
  · rw [IsLower, same, lowerCode_lowerCode]
  · rw [null]
    decide +kernel

theorem isLower_of_mem_lowerChars {c d : Char} (h : d ∈ lowerChars c) : IsLower d := by
  unfold lowerChars at h
  split at h
  · simp only [List.mem_cons, List.not_mem_nil, or_false] at h
    rcases h with rfl | rfl <;> decide +kernel
  · rw [List.mem_singleton] at h
    exact h ▸ isLower_ofNat_lowerCode _

theorem lowerChars_of_isLower {c : Char} (h : IsLower c) : lowerChars c = [c] := by
  have notCapital : c ≠ '\u0130' := by
    rintro rfl
    revert h
    decide +kernel
  rw [lowerChars, if_neg notCapital, h]

/-- Lower case is made of characters that are in lower case. -/
theorem isLower_of_mem_toLower {s : String} {c : Char} (h : c ∈ (toLower s).toList) :
    IsLower c := by
  rw [toLower, String.toList_ofList] at h
  obtain ⟨d, -, hc⟩ := List.mem_flatMap.mp h
  exact isLower_of_mem_lowerChars hc

/-- A text of such characters is its own lower case. -/
theorem toLower_of_isLower {s : String} (h : ∀ c ∈ s.toList, IsLower c) : toLower s = s := by
  have unchanged : s.toList.flatMap lowerChars = s.toList := by
    rw [List.flatMap_congr fun c hc => lowerChars_of_isLower (h c hc), List.flatMap_singleton']
  rw [toLower, unchanged, String.ofList_toList]

end UnitWatch.Text
