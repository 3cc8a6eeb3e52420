import UnitWatch.Config.Merge
import UnitWatch.Proofs.Value

/-!
# Fields of merged values

Looking a name up after a merge.

**One level** (`field?_mergeFields`). Of two sets of named values the one with priority decides on its
own names; where both have an object the objects are merged, and elsewhere the other one stands. Where
priority lies a name may occur once at most, as it does in every object that is read or written.

**Two levels** (`inner?`). Seen through a group, the merge decides option by option
(`inner?_overlay`).
-/

namespace UnitWatch.Config

/-- One value over another, where either may be missing. -/
def overlay (base upper : Option Value) : Option Value :=
  match upper with
  | some v => some (mergeValue base v)
  | none => base

@[simp] theorem mergeValue_none (v : Value) : mergeValue none v = v := by
  cases v <;> rfl

/-- An object stays one, whatever it is put over. -/
theorem mergeValue_object (base : Option Value) (fields : List (String × Value)) :
    ∃ merged, mergeValue base (.object fields) = .object merged := by
  unfold mergeValue
  split <;> exact ⟨_, rfl⟩

theorem overlay_some (base : Option Value) (v : Value) :
    overlay base (some v) = some (mergeValue base v) := rfl

@[simp] theorem overlay_none_right (base : Option Value) : overlay base none = base := rfl

@[simp] theorem overlay_none_left (upper : Option Value) : overlay none upper = upper := by
  cases upper <;> simp [overlay_some]

theorem field?_mergeFields {base upper : List (String × Value)} {name : String}
    (once : (upper.map Prod.fst).count name ≤ 1) :
    Value.field? (mergeFields base upper) name =
      overlay (Value.field? base name) (Value.field? upper name) := by
  induction upper generalizing base with
  | nil => rfl
  | cons f upper ih =>
    obtain ⟨n, v⟩ := f
    rw [List.map_cons, List.count_cons] at once
    rw [mergeFields, ih (by omega), Value.field?_put, Value.field?_cons]
    by_cases same : name = n
    · subst same
      have absent : Value.field? upper name = none := by
        rw [Value.field?_eq_none_iff, ← List.count_eq_zero]
        simpa using once
      simp [absent, overlay]
    · simp [same]

theorem name_of_mergeFields {base upper : List (String × Value)} {name : String}
    (h : name ∈ (mergeFields base upper).map Prod.fst) :
    name ∈ base.map Prod.fst ∨ name ∈ upper.map Prod.fst := by
  induction upper generalizing base with
  | nil => exact .inl (by simpa only [mergeFields] using h)
  | cons f upper ih =>
    obtain ⟨n, v⟩ := f
    rw [mergeFields] at h
    rcases ih h with earlier | there
    · rcases Value.name_of_put earlier with earlier | rfl
      · exact .inl earlier
      · exact .inr List.mem_cons_self
    · exact .inr (List.mem_cons_of_mem _ there)

theorem named_mergeFields {base : List (String × Value)} (h : Value.Named base)
    (upper : List (String × Value)) : Value.Named (mergeFields base upper) := by
  induction upper generalizing base with
  | nil => simpa only [mergeFields] using h
  | cons f upper ih =>
    obtain ⟨n, v⟩ := f
    rw [mergeFields]
    exact ih (h.put n _)

/-- The value of an option in a group that may be missing, or be no group at all. -/
def inner? (group : Option Value) (option : String) : Option Value :=
  group.bind fun v => Value.field? v.fields option

/-- A group over another one decides option by option. -/
theorem inner?_overlay {base : Option Value} {upper : List (String × Value)} {option : String}
    (once : (upper.map Prod.fst).count option ≤ 1) :
    inner? (overlay base (some (.object upper))) option =
      overlay (inner? base option) (Value.field? upper option) := by
  cases base with
  | none => simp [inner?, Value.fields]
  | some v =>
    cases v with
    | object fields =>
      simpa only [overlay_some, mergeValue, inner?, Option.bind_some, Value.fields] using
        field?_mergeFields once
    | _ => simp [overlay_some, mergeValue, inner?, Value.fields]

end UnitWatch.Config
