import Mathlib.Data.List.Nodup
import UnitWatch.Registry

/-!
# Looking up in a registry

What the operations of a registry do to the entry of one name and to the others. Names occur once
and entries are of the registry's scope (`Registry.WellFormed`); every operation keeps that.
-/

namespace UnitWatch

variable {σ : Type}

namespace RawState

theorem unit_of_report {x : RawState} {r : Report} (h : x.report? = some r) : r.unit = x.unit := by
  obtain ⟨s, -, rfl⟩ := Option.map_eq_some_iff.1 h
  rfl

theorem monotonic_of_report {x : RawState} {r : Report} (h : x.report? = some r) :
    r.monotonic = x.monotonic := by
  obtain ⟨s, -, rfl⟩ := Option.map_eq_some_iff.1 h
  rfl

end RawState

namespace Entry

theorem isStale_iff {e : Entry σ} {m : Option Int} :
    e.isStale m = true ↔ ∃ t t', m = some t ∧ e.timestamp = some t' ∧ t ≤ t' := by
  cases m <;> cases h : e.timestamp <;> simp [isStale, h]

theorem update_of_stale {e : Entry σ} {r : Report} (now : Microseconds)
    (h : e.isStale r.monotonic = true) : e.update r now = (e, none) := by
  rw [update, if_pos h]

theorem update_fst_of_not_stale {e : Entry σ} {r : Report} (now : Microseconds)
    (h : e.isStale r.monotonic = false) :
    (e.update r now).1 =
      { e with timestamp := r.monotonic.or e.timestamp, state := some r.state } := by
  rw [update, if_neg (by simp [h]), Option.orElse_eq_or]
  cases e.state with
  | none => rfl
  | some s => by_cases hs : r.state = s <;> simp [hs]

/-- A report is a transition if it is not stale and another state was known. -/
theorem update_snd_eq_some {e : Entry σ} {r : Report} {now : Microseconds} {t : Transition} :
    (e.update r now).2 = some t ↔ e.isStale r.monotonic = false ∧
      ∃ s, e.state = some s ∧ r.state ≠ s ∧ t = ⟨e.unit, s, r.state, eventTime r.realtime now⟩ := by
  cases h : e.isStale r.monotonic with
  | true => simp [update_of_stale now h]
  | false =>
    rw [update, if_neg (by simp [h])]
    cases e.state with
    | none => simp
    | some s =>
      by_cases hs : r.state = s
      · simp [hs]
      · simpa [hs] using eq_comm

/-- A transition leads from the state that was known to the state that is known after it. -/
theorem states_of_update_eq_some {e : Entry σ} {r : Report} {now : Microseconds} {t : Transition}
    (h : (e.update r now).2 = some t) :
    t.unit = e.unit ∧ e.state = some t.previous ∧ (e.update r now).1.state = some t.current ∧
      t.previous ≠ t.current := by
  obtain ⟨fresh, s, hs, differs, rfl⟩ := update_snd_eq_some.1 h
  exact ⟨rfl, hs, by rw [update_fst_of_not_stale now fresh], differs.symm⟩

/-- Without a transition, a state that was known is still known. -/
theorem state_of_update_eq_none {e : Entry σ} {r : Report} {now : Microseconds} {s : ActiveState}
    (h : (e.update r now).2 = none) (hs : e.state = some s) :
    (e.update r now).1.state = some s := by
  cases stale : e.isStale r.monotonic with
  | true => rw [update_of_stale now stale, hs]
  | false =>
    rw [update_fst_of_not_stale now stale]
    by_contra differs
    have loud : (e.update r now).2 = some ⟨e.unit, s, r.state, eventTime r.realtime now⟩ :=
      update_snd_eq_some.2 ⟨stale, s, hs, fun same => differs (same ▸ rfl), rfl⟩
    rw [h] at loud
    cases loud

@[simp] theorem update_unit (e : Entry σ) (r : Report) (now : Microseconds) :
    (e.update r now).1.unit = e.unit := by
  cases h : e.isStale r.monotonic with
  | true => rw [update_of_stale now h]
  | false => rw [update_fst_of_not_stale now h]

@[simp] theorem update_subscription (e : Entry σ) (r : Report) (now : Microseconds) :
    (e.update r now).1.subscription = e.subscription := by
  cases h : e.isStale r.monotonic with
  | true => rw [update_of_stale now h]
  | false => rw [update_fst_of_not_stale now h]

end Entry

namespace Registry

/-! ## One name -/

theorem name_of_get? {r : Registry σ} {u : String} {e : Entry σ} (h : r.get? u = some e) :
    e.unit.name = u := by
  simpa using List.find?_some h

theorem mem_of_get? {r : Registry σ} {u : String} {e : Entry σ} (h : r.get? u = some e) :
    e ∈ r.entries :=
  List.mem_of_find?_eq_some h

theorem contains_eq (r : Registry σ) (u : String) : r.contains u = (r.get? u).isSome := by
  simp [contains, get?, List.isSome_find?]

theorem contains_of_get? {r : Registry σ} {u : String} {e : Entry σ} (h : r.get? u = some e) :
    r.contains u = true := by
  rw [contains_eq, h]
  rfl

theorem get?_eq_none {r : Registry σ} {u : String} : r.get? u = none ↔ r.contains u = false := by
  rw [contains_eq, Option.isSome_eq_false_iff, Option.isNone_iff_eq_none]

theorem get?_put_self (r : Registry σ) (e : Entry σ) : (r.put e).get? e.unit.name = some e := by
  unfold get? put
  by_cases h : r.contains e.unit.name
  · rw [if_pos h]
    simp only [contains, List.any_eq_true] at h
    obtain ⟨old, hmem, hold⟩ := h
    simp only [List.find?_map]
    have found : (r.entries.find? (·.unit.name == e.unit.name)).isSome := by
      rw [List.find?_isSome]
      exact ⟨old, hmem, hold⟩
    obtain ⟨x, hx⟩ := Option.isSome_iff_exists.1 found
    have hp : ((fun x : Entry σ => x.unit.name == e.unit.name) ∘
        fun old => if old.unit.name == e.unit.name then e else old) =
        fun x => x.unit.name == e.unit.name := by
      funext y
      by_cases hy : y.unit.name = e.unit.name <;> simp [hy]
    have hname : x.unit.name = e.unit.name := by simpa using List.find?_some hx
    rw [hp, hx]
    simp [hname]
  · rw [if_neg h]
    have none' : r.entries.find? (·.unit.name == e.unit.name) = none := by
      simpa [contains] using h
    simp [List.find?_append, none']

theorem get?_put_of_ne (r : Registry σ) {e : Entry σ} {u : String} (hu : u ≠ e.unit.name) :
    (r.put e).get? u = r.get? u := by
  unfold get? put
  by_cases h : r.contains e.unit.name
  · rw [if_pos h]
    simp only [List.find?_map]
    have hp : ((fun x : Entry σ => x.unit.name == u) ∘
        fun old => if old.unit.name == e.unit.name then e else old) =
        fun x => x.unit.name == u := by
      funext y
      by_cases hy : y.unit.name = e.unit.name <;> simp [hy]
    rw [hp]
    cases hx : r.entries.find? (·.unit.name == u) with
    | none => rfl
    | some x =>
      have hname : x.unit.name = u := by simpa using List.find?_some hx
      simp [hname, hu]
  · rw [if_neg h]
    have hne : (e.unit.name == u) = false := by simpa using Ne.symm hu
    simp [List.find?_append, hne]

theorem get?_put (r : Registry σ) (e : Entry σ) (u : String) :
    (r.put e).get? u = if u = e.unit.name then some e else r.get? u := by
  split
  · next h => rw [h, get?_put_self]
  · next h => exact get?_put_of_ne r h

theorem get?_insert_self (r : Registry σ) (report : Report) (s : σ) :
    (r.insert report s).get? report.unit = some (r.settledEntry report s) :=
  get?_put_self r (r.settledEntry report s)

theorem get?_insertPending_self (r : Registry σ) (name : String) (s : σ) :
    (r.insertPending name s).get? name = some (r.pendingEntry name s) :=
  get?_put_self r (r.pendingEntry name s)

/-- An entry that was put into a registry, or one of another name. -/
theorem mem_put {r : Registry σ} {e x : Entry σ} (h : x ∈ (r.put e).entries) :
    x = e ∨ x ∈ r.entries ∧ x.unit.name ≠ e.unit.name := by
  unfold put at h
  split at h
  · obtain ⟨old, ho, rfl⟩ := List.mem_map.1 h
    by_cases same : old.unit.name = e.unit.name
    · exact .inl (by simp [same])
    · exact .inr (by simpa [same] using ho)
  · next fresh =>
    rcases List.mem_append.1 h with h | h
    · refine .inr ⟨h, fun same => fresh ?_⟩
      exact List.any_eq_true.2 ⟨x, h, by simp [same]⟩
    · exact .inl (List.mem_singleton.1 h)

theorem get?_evict (r : Registry σ) (name u : String) :
    (r.evict name).get? u = if u = name then none else r.get? u := by
  unfold get? evict
  simp only [List.find?_filter]
  split
  · next h =>
    subst h
    simp
  · next h =>
    congr 1
    funext e
    by_cases he : e.unit.name = u <;> simp [he, h]

theorem evict_of_get?_none {r : Registry σ} {name : String} (h : r.get? name = none) :
    r.evict name = r := by
  have others : r.entries.filter (fun e => !(e.unit.name == name)) = r.entries := by
    simpa [get?] using h
  rw [evict, others]

theorem apply_of_get? {r : Registry σ} {report : Report} {e : Entry σ} (now : Microseconds)
    (h : r.get? report.unit = some e) :
    r.apply report now = (r.put (e.update report now).1, (e.update report now).2) := by
  simp only [apply, h]

theorem get?_apply {r : Registry σ} {report : Report} {e : Entry σ} (now : Microseconds)
    (h : r.get? report.unit = some e) (u : String) :
    (r.apply report now).1.get? u =
      if u = report.unit then some (e.update report now).1 else r.get? u := by
  rw [apply_of_get? now h, get?_put, Entry.update_unit, name_of_get? h]

theorem contains_put (r : Registry σ) (e : Entry σ) (u : String) :
    (r.put e).contains u = true ↔ u = e.unit.name ∨ r.contains u = true := by
  rw [contains_eq, contains_eq, get?_put]
  split <;> simp [*]

theorem contains_evict (r : Registry σ) (name u : String) :
    (r.evict name).contains u = true ↔ u ≠ name ∧ r.contains u = true := by
  rw [contains_eq, contains_eq, get?_evict]
  split <;> simp [*]

theorem contains_apply {r : Registry σ} {report : Report} {e : Entry σ} (now : Microseconds)
    (h : r.get? report.unit = some e) (u : String) :
    (r.apply report now).1.contains u = r.contains u := by
  rw [contains_eq, contains_eq, get?_apply now h]
  split
  · next same => simp [same, h]
  · rfl

/-! ## Well-formed registries -/

/-- Names occur once, and all entries are of the registry's scope. -/
structure WellFormed (r : Registry σ) : Prop where
  nodup : (r.entries.map (·.unit.name)).Nodup
  scope : ∀ e ∈ r.entries, e.unit.scope = r.scope

namespace WellFormed

theorem empty (scope : BusScope) : (⟨scope, []⟩ : Registry σ).WellFormed :=
  ⟨List.nodup_nil, by simp⟩

theorem drain (r : Registry σ) : r.drain.WellFormed := empty r.scope

theorem get?_of_mem {r : Registry σ} (h : r.WellFormed) {e : Entry σ} (he : e ∈ r.entries) :
    r.get? e.unit.name = some e := by
  have nodup := h.nodup
  unfold get?
  generalize r.entries = entries at he nodup
  induction entries with
  | nil => cases he
  | cons x xs ih =>
    simp only [List.map_cons, List.nodup_cons] at nodup
    rcases List.mem_cons.1 he with rfl | he'
    · simp
    · have hne : x.unit.name ≠ e.unit.name := fun eq =>
        nodup.1 (eq ▸ List.mem_map_of_mem (f := (·.unit.name)) he')
      have hx : (x.unit.name == e.unit.name) = false := by simpa using hne
      rw [List.find?_cons, hx]
      exact ih he' nodup.2

theorem put {r : Registry σ} (h : r.WellFormed) {e : Entry σ} (he : e.unit.scope = r.scope) :
    (r.put e).WellFormed := by
  -- The new entry has the name of the one that it replaces.
  have names : (r.entries.map fun old => if old.unit.name == e.unit.name then e else old).map
      (·.unit.name) = r.entries.map (·.unit.name) := by
    rw [List.map_map]
    refine List.map_congr_left ?_
    intro x _
    by_cases hx : x.unit.name = e.unit.name <;> simp [hx]
  by_cases hc : r.contains e.unit.name
  · refine ⟨?_, ?_⟩ <;> simp only [Registry.put, if_pos hc]
    · rw [names]
      exact h.nodup
    · intro x hx
      obtain ⟨y, hy, rfl⟩ := List.mem_map.1 hx
      split
      · exact he
      · exact h.scope y hy
  · refine ⟨?_, ?_⟩ <;> simp only [Registry.put, if_neg hc]
    · have fresh : ∀ x ∈ r.entries, x.unit.name ≠ e.unit.name := by
        simpa [contains] using hc
      rw [List.map_append, List.map_singleton, List.nodup_append]
      refine ⟨h.nodup, List.nodup_singleton _, ?_⟩
      intro a ha b hb
      obtain ⟨x, hx, rfl⟩ := List.mem_map.1 ha
      rw [List.mem_singleton.1 hb]
      exact fresh x hx
    · intro x hx
      rcases List.mem_append.1 hx with hx | hx
      · exact h.scope x hx
      · rw [List.mem_singleton.1 hx]
        exact he

theorem insert {r : Registry σ} (h : r.WellFormed) (report : Report) (s : σ) :
    (r.insert report s).WellFormed := h.put rfl

theorem insertPending {r : Registry σ} (h : r.WellFormed) (name : String) (s : σ) :
    (r.insertPending name s).WellFormed := h.put rfl

theorem evict {r : Registry σ} (h : r.WellFormed) (name : String) : (r.evict name).WellFormed :=
  ⟨h.nodup.sublist (List.filter_sublist.map _), fun e he => h.scope e (List.mem_filter.1 he).1⟩

theorem apply {r : Registry σ} (h : r.WellFormed) (report : Report) (now : Microseconds) :
    (r.apply report now).1.WellFormed := by
  cases hg : r.get? report.unit with
  | none => simpa only [Registry.apply, hg] using h
  | some e =>
    rw [apply_of_get? now hg]
    exact h.put ((Entry.update_unit e report now).symm ▸ h.scope e (mem_of_get? hg))

end WellFormed

@[simp] theorem scope_apply (r : Registry σ) (report : Report) (now : Microseconds) :
    (r.apply report now).1.scope = r.scope := by
  unfold apply
  split <;> rfl

/-! ## What is known of a unit -/

/-- The state in which a unit is settled. -/
def stateOf (r : Registry σ) (u : String) : Option ActiveState :=
  (r.get? u).bind (·.state)

theorem stateOf_of_mem {r : Registry σ} (h : r.WellFormed) {e : Entry σ}
    (he : e ∈ r.entries) : r.stateOf e.unit.name = e.state := by
  rw [stateOf, h.get?_of_mem he]
  rfl

theorem stateOf_evict (r : Registry σ) (u v : String) :
    (r.evict u).stateOf v = if v = u then none else r.stateOf v := by
  rw [stateOf, get?_evict]
  split <;> rfl

theorem stateOf_apply {r : Registry σ} {report : Report} {e : Entry σ}
    (now : Microseconds) (h : r.get? report.unit = some e) (v : String) :
    (r.apply report now).1.stateOf v =
      if v = report.unit then (e.update report now).1.state else r.stateOf v := by
  rw [stateOf, get?_apply now h]
  split <;> rfl

/-- What is known of a unit is the state in which it is settled. -/
theorem lookup_states {r : Registry σ} (h : r.WellFormed) (u : String) :
    r.states.lookup u = r.stateOf u := by
  have nodup := h.nodup
  unfold states stateOf get?
  generalize r.entries = entries at nodup
  induction entries with
  | nil => rfl
  | cons e entries ih =>
    rw [List.map_cons, List.nodup_cons] at nodup
    by_cases hu : e.unit.name = u
    · subst hu
      cases hs : e.state with
      | some s => simp [hs]
      | none =>
        -- A pending entry is passed over, and no later one has its name.
        have absent : entries.find? (·.unit.name == e.unit.name) = none := by
          rw [List.find?_eq_none]
          intro x hx
          have : x.unit.name ≠ e.unit.name := fun eq =>
            nodup.1 (eq ▸ List.mem_map_of_mem (f := (·.unit.name)) hx)
          simpa using this
        have rest := ih nodup.2
        rw [absent] at rest
        simpa [hs] using rest
    · have skip : (u == e.unit.name) = false := by simpa using Ne.symm hu
      rw [List.find?_cons, show (e.unit.name == u) = false by simpa using hu, ← ih nodup.2]
      cases hs : e.state with
      | some s => simp [hs, List.lookup_cons, skip]
      | none => simp [hs]

end Registry

end UnitWatch
