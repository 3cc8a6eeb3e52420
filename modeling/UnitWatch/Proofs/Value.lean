import Mathlib.Data.List.Nodup
import UnitWatch.Value

/-!
# Fields

Looking a name up in fields, before and after a write. A write decides on its own name and leaves the
others as they are (`field?_put`). Where each name occurs once (`Named`), a write keeps it so.
-/

namespace UnitWatch.Value

/-! ## Looking up -/

@[simp] theorem field?_nil (name : String) : field? [] name = none := rfl

theorem field?_cons (f : String × Value) (fields : List (String × Value)) (name : String) :
    field? (f :: fields) name = if name = f.1 then some f.2 else field? fields name := by
  obtain ⟨n, v⟩ := f
  simp only [field?, List.lookup_cons]
  by_cases same : name = n
  · simp [same]
  · rw [if_neg same, beq_false_of_ne same]

theorem field?_append (fields others : List (String × Value)) (name : String) :
    field? (fields ++ others) name = (field? fields name).or (field? others name) := by
  induction fields with
  | nil => simp
  | cons f fields ih =>
    rw [List.cons_append, field?_cons, field?_cons, ih]
    split <;> rfl

theorem field?_eq_none_iff {fields : List (String × Value)} {name : String} :
    field? fields name = none ↔ name ∉ fields.map Prod.fst := by
  induction fields with
  | nil => simp
  | cons f fields ih =>
    rw [field?_cons]
    by_cases same : name = f.1 <;> simp [same, ih]

/-! ## Writing -/

/-- A write decides on its name and leaves the others as they are. -/
theorem field?_put (fields : List (String × Value)) (n name : String) (v : Value) :
    field? (put fields n v) name = if name = n then some v else field? fields name := by
  have replaced : field? (fields.map fun f => if f.1 == n then (n, v) else f) name =
      if name = n then (field? fields n).map fun _ => v else field? fields name := by
    induction fields with
    | nil => simp
    | cons f fields ih =>
      rw [List.map_cons, field?_cons, ih, field?_cons, field?_cons]
      by_cases atName : f.1 = n <;> by_cases same : name = n <;> grind
  have there : (fields.any fun f => f.1 == n) = (field? fields n).isSome := by
    rw [Bool.eq_iff_iff, Option.isSome_iff_ne_none, ne_eq, field?_eq_none_iff]
    simp
  unfold put
  rw [there]
  cases h : field? fields n with
  | some w =>
    rw [if_pos (by rfl), replaced, h]
    rfl
  | none =>
    rw [if_neg (by simp), field?_append, field?_cons]
    by_cases same : name = n
    · subst same; simp [h]
    · simp [same]

/-! ## Names that occur once -/

section

variable {κ : Type}

/-- Names occur once each. -/
def Named (fields : List (κ × Value)) : Prop := (fields.map Prod.fst).Nodup

instance [DecidableEq κ] (fields : List (κ × Value)) : Decidable (Named fields) :=
  inferInstanceAs (Decidable (List.Nodup _))

variable [BEq κ] [LawfulBEq κ]

theorem map_fst_put (fields : List (κ × Value)) (name : κ) (v : Value) :
    (put fields name v).map Prod.fst =
      if name ∈ fields.map Prod.fst then fields.map Prod.fst
      else fields.map Prod.fst ++ [name] := by
  have there : (fields.any fun f => f.1 == name) = true ↔ name ∈ fields.map Prod.fst := by simp
  unfold put
  by_cases h : name ∈ fields.map Prod.fst
  · rw [if_pos (there.mpr h), if_pos h, List.map_map]
    refine List.map_congr_left fun f _ => ?_
    simp only [Function.comp]
    split
    · next same => exact (eq_of_beq same).symm
    · rfl
  · rw [if_neg (h ∘ there.mp), if_neg h]
    simp

/-- A write adds no name but its own. -/
theorem name_of_put {fields : List (κ × Value)} {n name : κ} {v : Value}
    (h : name ∈ (put fields n v).map Prod.fst) : name ∈ fields.map Prod.fst ∨ name = n := by
  rw [map_fst_put] at h
  split at h
  · exact .inl h
  · simpa using h

theorem Named.put {fields : List (κ × Value)} (h : Named fields) (name : κ) (v : Value) :
    Named (put fields name v) := by
  unfold Named at *
  rw [map_fst_put]
  split
  · exact h
  · next fresh => exact List.nodup_append.mpr ⟨h, by simp, by rintro _ hf _ hn rfl; simp_all⟩

end

theorem Named.field?_of_mem {fields : List (String × Value)} (h : Named fields) {f : String × Value}
    (hf : f ∈ fields) : field? fields f.1 = some f.2 := by
  induction fields with
  | nil => cases hf
  | cons g fields ih =>
    obtain ⟨fresh, rest⟩ := List.nodup_cons.mp h
    rw [field?_cons]
    cases hf with
    | head => rw [if_pos rfl]
    | tail _ hf =>
      have other : f.1 ≠ g.1 := fun same => fresh (same ▸ List.mem_map_of_mem hf)
      rw [if_neg other, ih rest hf]

theorem Named.once {fields : List (String × Value)} (h : Named fields) (name : String) :
    (fields.map Prod.fst).count name ≤ 1 := List.nodup_iff_count_le_one.mp h name

/-! ## Writing one field after the other -/

/-- Fields written one after the other. -/
def putAll (fields later : List (String × Value)) : List (String × Value) :=
  later.foldl (fun fs f => put fs f.1 f.2) fields

theorem field?_putAll (fields later : List (String × Value)) (name : String) :
    field? (putAll fields later) name = (field? later.reverse name).or (field? fields name) := by
  induction later generalizing fields with
  | nil => rfl
  | cons f later ih =>
    rw [putAll, List.foldl_cons, ← putAll, ih, field?_put, List.reverse_cons, field?_append,
      field?_cons, field?_nil, Option.or_assoc]
    congr 1
    split <;> rfl

theorem Named.putAll {fields : List (String × Value)} (h : Named fields)
    (later : List (String × Value)) : Named (putAll fields later) := by
  induction later generalizing fields with
  | nil => exact h
  | cons f later ih => exact ih (h.put f.1 f.2)

theorem name_of_putAll {fields later : List (String × Value)} {name : String}
    (h : name ∈ (putAll fields later).map Prod.fst) :
    name ∈ fields.map Prod.fst ∨ name ∈ later.map Prod.fst := by
  induction later generalizing fields with
  | nil => exact .inl h
  | cons f later ih =>
    rcases ih h with earlier | there
    · rcases name_of_put earlier with earlier | rfl
      · exact .inl earlier
      · exact .inr List.mem_cons_self
    · exact .inr (List.mem_cons_of_mem _ there)

/-- Where names occur once each, the order does not matter. -/
theorem Named.field?_reverse {fields : List (String × Value)} (h : Named fields) (name : String) :
    field? fields.reverse name = field? fields name := by
  induction fields with
  | nil => rfl
  | cons f fields ih =>
    obtain ⟨fresh, rest⟩ := List.nodup_cons.mp h
    rw [List.reverse_cons, field?_append, ih rest, field?_cons, field?_cons, field?_nil]
    by_cases same : name = f.1
    · rw [if_pos same, if_pos same, field?_eq_none_iff.mpr (same ▸ fresh)]
      rfl
    · rw [if_neg same, if_neg same, Option.or_none]

end UnitWatch.Value
