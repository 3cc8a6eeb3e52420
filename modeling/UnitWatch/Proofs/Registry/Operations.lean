import UnitWatch.Proofs.Registry

/-!
# Histories of a registry

What can be done with a registry, as data, and what a registry answers. A history is a list of
operations; `Registry.after` is the registry it leads to, and `Registry.transcript` is what has been
answered on the way.

Every operation but a drain is about one unit (`Operation.unit?`). It reads and writes the entry of
that unit alone: the entry of any other unit stays (`get?_perform_of_ne`), and registries that agree
on the entry give the same answer and agree again afterwards (`Alike.perform`).
-/

namespace UnitWatch

variable {σ : Type}

namespace Registry

/-- What can be done with a registry, other than looking at all of it, which changes nothing. -/
inductive Operation (σ : Type) where
  | insert (report : Report) (subscription : σ)
  | insertPending (name : String) (subscription : σ)
  | evict (name : String)
  /-- A report, with the time on the clock when it is applied. -/
  | apply (report : Report) (now : Microseconds)
  | get (name : String)
  | contains (name : String)
  | drain

/-- What a registry answers. -/
inductive Answer (σ : Type) where
  | entry (e : Option (Entry σ))
  | event (t : Option Transition)
  | tracked (b : Bool)
  | entries (es : List (Entry σ))

/-- The unit that an operation names; a drain names none. -/
def Operation.unit? : Operation σ → Option String
  | insert report _ => some report.unit
  | insertPending name _ => some name
  | evict name => some name
  | apply report _ => some report.unit
  | get name => some name
  | contains name => some name
  | drain => none

/-- The operations that have a unit tracked. -/
def Operation.Adds (u : String) : Operation σ → Prop
  | insert report _ => report.unit = u
  | insertPending name _ => name = u
  | _ => False

/-- The registry that tracks nothing. -/
def empty (scope : BusScope) : Registry σ := ⟨scope, []⟩

/-- The tracked names in the order of the registry. -/
def names (r : Registry σ) : List String := r.entries.map (·.unit.name)

/-- The registry after an operation, and the answer. -/
def perform (r : Registry σ) : Operation σ → Registry σ × Answer σ
  | .insert report s => (r.insert report s, .entry (some (r.settledEntry report s)))
  | .insertPending name s => (r.insertPending name s, .entry (some (r.pendingEntry name s)))
  | .evict name => (r.evict name, .entry (r.get? name))
  | .apply report now => ((r.apply report now).1, .event (r.apply report now).2)
  | .get name => (r, .entry (r.get? name))
  | .contains name => (r, .tracked (r.contains name))
  | .drain => (r.drain, .entries r.entries)

/-- The registry after a history. -/
def after (r : Registry σ) (os : List (Operation σ)) : Registry σ :=
  os.foldl (fun r o => (r.perform o).1) r

/-- The operations of a history, each with its answer. -/
def transcript (r : Registry σ) : List (Operation σ) → List (Operation σ × Answer σ)
  | [] => []
  | o :: os => (o, (r.perform o).2) :: (r.perform o).1.transcript os

@[simp] theorem after_nil (r : Registry σ) : r.after [] = r := rfl

@[simp] theorem after_cons (r : Registry σ) (o : Operation σ) (os : List (Operation σ)) :
    r.after (o :: os) = (r.perform o).1.after os := rfl

@[simp] theorem after_append (r : Registry σ) (os os' : List (Operation σ)) :
    r.after (os ++ os') = (r.after os).after os' := List.foldl_append

@[simp] theorem transcript_cons (r : Registry σ) (o : Operation σ) (os : List (Operation σ)) :
    r.transcript (o :: os) = (o, (r.perform o).2) :: (r.perform o).1.transcript os := rfl

@[simp] theorem transcript_append (r : Registry σ) (os os' : List (Operation σ)) :
    r.transcript (os ++ os') = r.transcript os ++ (r.after os).transcript os' := by
  induction os generalizing r with
  | nil => rfl
  | cons o os ih => simp [ih]

/-! ## Well-formed registries -/

@[simp] theorem scope_perform (r : Registry σ) (o : Operation σ) :
    (r.perform o).1.scope = r.scope := by
  cases o with
  | apply report now => exact scope_apply r report now
  | _ => rfl

@[simp] theorem scope_after (r : Registry σ) (os : List (Operation σ)) :
    (r.after os).scope = r.scope := by
  induction os generalizing r with
  | nil => rfl
  | cons o os ih => rw [after_cons, ih, scope_perform]

theorem WellFormed.perform {r : Registry σ} (h : r.WellFormed) (o : Operation σ) :
    (r.perform o).1.WellFormed := by
  cases o with
  | insert report s => exact h.insert report s
  | insertPending name s => exact h.insertPending name s
  | evict name => exact h.evict name
  | apply report now => exact h.apply report now
  | get name => exact h
  | contains name => exact h
  | drain => exact .drain r

theorem WellFormed.after {r : Registry σ} (h : r.WellFormed) (os : List (Operation σ)) :
    (r.after os).WellFormed := by
  induction os generalizing r with
  | nil => exact h
  | cons o os ih => exact ih (h.perform o)

/-- A history from nothing leads to a well-formed registry. -/
theorem wellFormed_after_empty (scope : BusScope) (os : List (Operation σ)) :
    ((empty scope).after os).WellFormed :=
  (WellFormed.empty scope).after os

/-- The entry of a name is of the registry's scope and of that name. -/
theorem WellFormed.unit_of_get? {r : Registry σ} (h : r.WellFormed) {u : String} {e : Entry σ}
    (he : r.get? u = some e) : e.unit = ⟨r.scope, u⟩ := by
  rw [← h.scope e (mem_of_get? he), ← name_of_get? he]

/-! ## One unit at a time -/

/-- An operation that names a unit leaves the others. -/
theorem get?_perform_of_ne (r : Registry σ) {o : Operation σ} {u v : String}
    (ho : o.unit? = some v) (hu : u ≠ v) : (r.perform o).1.get? u = r.get? u := by
  cases o with
  | apply report now =>
    obtain rfl : report.unit = v := Option.some.inj ho
    cases he : r.get? report.unit with
    | none => simp only [perform, apply, he]
    | some e => exact (get?_apply now he u).trans (if_neg hu)
  | insert report s => cases ho; exact get?_put_of_ne r hu
  | insertPending name s => cases ho; exact get?_put_of_ne r hu
  | evict name => cases ho; exact (get?_evict r v u).trans (if_neg hu)
  | get name => rfl
  | contains name => rfl
  | drain => cases ho

/-- Registries that know the same of a unit. -/
structure Alike (u : String) (r r' : Registry σ) : Prop where
  scope : r.scope = r'.scope
  get? : r.get? u = r'.get? u

/-- Of an operation that names the unit, they know the same again, and answer the same. -/
theorem Alike.perform {u : String} {r r' : Registry σ} (h : Alike u r r') {o : Operation σ}
    (ho : o.unit? = some u) :
    Alike u (r.perform o).1 (r'.perform o).1 ∧ (r.perform o).2 = (r'.perform o).2 := by
  have scope : (r.perform o).1.scope = (r'.perform o).1.scope := by simp [h.scope]
  cases o with
  | insert report s =>
    cases ho
    have same : r.settledEntry report s = r'.settledEntry report s := by
      rw [settledEntry, settledEntry, h.scope]
    exact ⟨⟨scope, by simp only [Registry.perform, get?_insert_self, same]⟩,
      by simp only [Registry.perform, same]⟩
  | insertPending name s =>
    cases ho
    have same : r.pendingEntry u s = r'.pendingEntry u s := by
      rw [pendingEntry, pendingEntry, h.scope]
    exact ⟨⟨scope, by simp only [Registry.perform, get?_insertPending_self, same]⟩,
      by simp only [Registry.perform, same]⟩
  | evict name =>
    cases ho
    exact ⟨⟨scope, by simp only [Registry.perform, get?_evict, h.get?]⟩,
      congrArg Answer.entry h.get?⟩
  | apply report now =>
    cases ho
    cases he : r.get? report.unit with
    | none =>
      have he' := h.get?.symm.trans he
      exact ⟨⟨scope, by simp only [Registry.perform, Registry.apply, he, he']⟩,
        by simp only [Registry.perform, Registry.apply, he, he']⟩
    | some e =>
      have he' := h.get?.symm.trans he
      refine ⟨⟨scope, ?_⟩, ?_⟩
      · simp only [Registry.perform, get?_apply now he, get?_apply now he', h.get?]
      · simp only [Registry.perform, apply_of_get? now he, apply_of_get? now he']
  | get name =>
    cases ho
    exact ⟨h, congrArg Answer.entry h.get?⟩
  | contains name =>
    cases ho
    exact ⟨h, congrArg Answer.tracked (by rw [contains_eq, contains_eq, h.get?])⟩
  | drain => cases ho

end Registry

end UnitWatch
