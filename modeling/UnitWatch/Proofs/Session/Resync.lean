import UnitWatch.Proofs.Session.Run

/-!
# What a resync yields

A resync compares a registry with what was known before. It yields one event for each unit that was
known in a state and is now settled in another one (`IsResync`), in the order of the registry. All it
asks for is the clock, so it changes nothing (`resync_safe`).
-/

namespace UnitWatch

variable {η : Type}

/-- What an event says, apart from the time. -/
def Transition.difference (t : Transition) : Session.Difference := ⟨t.unit, t.previous, t.current⟩

namespace Session

/-- The events by which a registry differs from what was known. -/
structure IsResync (r : Registry η) (snapshot : Snapshot) (ts : List Transition) : Prop where
  ordered : (ts.map (·.unit)).Sublist (r.entries.map (·.unit))
  once : (ts.map (·.unit.name)).Nodup
  sound : ∀ t ∈ ts, ∃ e ∈ r.entries, t.unit = e.unit ∧
    snapshot.lookup e.unit.name = some t.previous ∧ e.state = some t.current ∧
    t.previous ≠ t.current
  complete : ∀ e ∈ r.entries, ∀ previous current, snapshot.lookup e.unit.name = some previous →
    e.state = some current → previous ≠ current →
    ∃ t ∈ ts, t.unit = e.unit ∧ t.previous = previous ∧ t.current = current

/-- The difference of one entry. -/
theorem difference_of_entry {snapshot : Snapshot} {e : Entry η} {d : Difference} :
    (match snapshot.lookup e.unit.name, e.state with
      | some previous, some current =>
        if previous = current then none else some (⟨e.unit, previous, current⟩ : Difference)
      | _, _ => none) = some d ↔
      snapshot.lookup e.unit.name = some d.previous ∧ e.state = some d.current ∧
        d.previous ≠ d.current ∧ d.unit = e.unit := by
  obtain ⟨unit, previous, current⟩ := d
  cases snapshot.lookup e.unit.name with
  | none => simp
  | some p =>
    cases e.state with
    | none => simp
    | some s => by_cases h : p = s <;> simp only [h] <;> grind

theorem mem_differences {r : Registry η} {snapshot : Snapshot} {d : Difference} :
    d ∈ differences r snapshot ↔ ∃ e ∈ r.entries,
      snapshot.lookup e.unit.name = some d.previous ∧ e.state = some d.current ∧
        d.previous ≠ d.current ∧ d.unit = e.unit := by
  unfold differences
  rw [List.mem_filterMap]
  exact exists_congr fun e => and_congr_right fun _ => difference_of_entry

theorem units_of_differences (r : Registry η) (snapshot : Snapshot) :
    ((differences r snapshot).map (·.unit)).Sublist (r.entries.map (·.unit)) := by
  unfold differences
  generalize r.entries = entries
  induction entries with
  | nil => exact .slnil
  | cons e entries ih =>
    rw [List.filterMap_cons]
    split
    · exact ih.cons _
    · next d hd =>
      obtain ⟨-, -, -, unit⟩ := difference_of_entry.1 hd
      rw [List.map_cons, unit]
      exact ih.cons_cons _

/-- Events that say all differences are a resync, whatever their times. -/
theorem isResync_of_differences {r : Registry η} (h : r.WellFormed) {snapshot : Snapshot}
    {ts : List Transition} (hts : ts.map Transition.difference = differences r snapshot) :
    IsResync r snapshot ts := by
  have ordered : (ts.map (·.unit)).Sublist (r.entries.map (·.unit)) := by
    have units := units_of_differences r snapshot
    rwa [← hts, List.map_map] at units
  refine ⟨ordered, ?_, ?_, ?_⟩
  · have names := ordered.map UnitId.name
    rw [List.map_map, List.map_map] at names
    exact h.nodup.sublist names
  · intro t ht
    obtain ⟨e, he, hp, hc, hne, unit⟩ :=
      mem_differences.1 (hts ▸ List.mem_map_of_mem ht : t.difference ∈ differences r snapshot)
    exact ⟨e, he, unit, hp, hc, hne⟩
  · intro e he previous current hp hc hne
    have listed : (⟨e.unit, previous, current⟩ : Difference) ∈ differences r snapshot :=
      mem_differences.2 ⟨e, he, hp, hc, hne, rfl⟩
    obtain ⟨t, ht, same⟩ := List.mem_map.1 (hts ▸ listed)
    exact ⟨t, ht, Difference.mk.inj same⟩

/-! ## Taking the times -/

section

variable {ω : Type} {e : Around η ω} {J : ω → State η → Request η → Prop} {s : State η} {w : ω}

open Safe (Succeeds)

/-- The events come one by one, each with what the clock shows for it. -/
theorem resync_gathers {K : List Transition → ω → Prop} (stable : ∀ ts, e.Stable (K ts))
    (looks : ∀ ts (d : Difference) w, K ts w →
      Safe e J (Succeeds fun w s' now => s' = s ∧ K (ts ++ [d.event now]) w) (ask .clock s) w)
    (r : Registry η) (snapshot : Snapshot) (hw : K [] w) :
    Safe e J (Succeeds fun w s' ts => s' = s ∧ K ts w ∧
      ts.map Transition.difference = differences r snapshot) (resync r snapshot s) w := by
  refine Safe.collectSucceeds (I := fun ds ts w s' => s' = s ∧ K ts w ∧
    ts.map Transition.difference = ds) ?_ ?_ _ ⟨rfl, hw, rfl⟩
  · rintro ds ts s' w w' step ⟨rfl, hw, known⟩
    exact ⟨rfl, stable ts step hw, known⟩
  · rintro ds ts d w s' ⟨rfl, hw, known⟩
    refine (looks ts d w hw).seq ?_
    rintro w s' now ⟨rfl, hw⟩
    refine Safe.done (stable _) hw fun w hw => ⟨rfl, hw, ?_⟩
    rw [List.map_append, known]
    rfl

/-- A resync leaves everything as it is, if a look at the clock does. -/
theorem resync_safe {K : ω → Prop} (stable : e.Stable K)
    (looks : ∀ w, K w → Safe e J (Succeeds fun w s' _ => s' = s ∧ K w) (ask .clock s) w)
    (r : Registry η) (snapshot : Snapshot) (hw : K w) :
    Safe e J (Succeeds fun w s' ts => s' = s ∧ K w ∧
      ts.map Transition.difference = differences r snapshot) (resync r snapshot s) w :=
  resync_gathers (K := fun _ => K) (fun _ => stable) (fun _ _ => looks) r snapshot hw

end

end Session

end UnitWatch
