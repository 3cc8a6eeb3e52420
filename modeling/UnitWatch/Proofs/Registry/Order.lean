import Mathlib.Data.List.Induction
import UnitWatch.Proofs.Registry.Operations
import UnitWatch.Proofs.Session.Resync

/-!
# Units apart, and in order

**Apart.** What a registry knows of a unit, and what it answers about it, is what it would know and
answer if nobody had ever mentioned another unit (`alike_after`). The two histories are run side by
side. An operation that names the unit is in both, and an operation that names another is in one of
them and leaves the entry.

**In order.** The names stand in the order in which they have come to stay: a name arrives with the
last operation before which it was not tracked (`Arrives`). An operation adds one name at the end or
takes some away, and never moves any (`names_perform`), so the names that are left still stand in
the order of their arrivals (`arrivals`).
-/

namespace UnitWatch.Registry

variable {σ : Type} {r r' : Registry σ} {u : String} {os : List (Operation σ)}

/-! ## Apart -/

/-- Whether an operation may matter to a unit: it names the unit, or none. -/
def Operation.concerns (u : String) (o : Operation σ) : Bool := o.unit?.all (· == u)

/-- The operations of a history that name a unit, each with its answer. -/
def answers (r : Registry σ) (u : String) (os : List (Operation σ)) :
    List (Operation σ × Answer σ) :=
  (r.transcript os).filter fun x => x.1.unit? = some u

theorem answers_cons (r : Registry σ) (u : String) (o : Operation σ) (os : List (Operation σ)) :
    r.answers u (o :: os) =
      if o.unit? = some u then (o, (r.perform o).2) :: (r.perform o).1.answers u os
      else (r.perform o).1.answers u os := by
  by_cases h : o.unit? = some u <;> simp [answers, h]

/-- A history does to a unit what is left of it without the operations that name other units. -/
theorem alike_after (h : Alike u r r') (os : List (Operation σ)) :
    Alike u (r.after os) (r'.after (os.filter (·.concerns u))) ∧
      r.answers u os = r'.answers u (os.filter (·.concerns u)) := by
  induction os generalizing r r' with
  | nil => exact ⟨h, rfl⟩
  | cons o os ih =>
    cases ho : o.unit? with
    | none =>
      have both : Alike u (r.perform o).1 (r'.perform o).1 := by
        cases o with
        | drain => exact ⟨h.scope, rfl⟩
        | _ => cases ho
      obtain ⟨same, told⟩ := ih both
      simpa [answers_cons, Operation.concerns, ho] using ⟨same, told⟩
    | some v =>
      by_cases hv : v = u
      · subst hv
        obtain ⟨both, answer⟩ := h.perform ho
        obtain ⟨same, told⟩ := ih both
        simpa [answers_cons, Operation.concerns, ho, answer] using ⟨same, told⟩
      · have one : Alike u (r.perform o).1 r' :=
          ⟨by rw [scope_perform, h.scope], by rw [get?_perform_of_ne r ho (Ne.symm hv), h.get?]⟩
        obtain ⟨same, told⟩ := ih one
        simpa [answers_cons, Operation.concerns, ho, hv] using ⟨same, told⟩

/-! ## Names -/

theorem mem_names : u ∈ r.names ↔ r.contains u = true := by
  simp [names, contains]

theorem names_put (r : Registry σ) (e : Entry σ) :
    (r.put e).names = if e.unit.name ∈ r.names then r.names else r.names ++ [e.unit.name] := by
  unfold put
  by_cases h : r.contains e.unit.name
  · rw [if_pos (mem_names.2 h), if_pos h, names, List.map_map]
    refine List.map_congr_left fun x _ => ?_
    by_cases hx : x.unit.name = e.unit.name <;> simp [hx]
  · rw [if_neg (mem_names.not.2 h), if_neg h, names, List.map_append]
    rfl

theorem names_evict (r : Registry σ) (name : String) :
    (r.evict name).names = r.names.filter (!· == name) := by
  rw [names, names, List.filter_map]
  rfl

theorem names_apply (r : Registry σ) (report : Report) (now : Microseconds) :
    (r.apply report now).1.names = r.names := by
  cases he : r.get? report.unit with
  | none => simp only [apply, he]
  | some e =>
    rw [apply_of_get? now he, names_put, Entry.update_unit, name_of_get? he,
      if_pos (mem_names.2 (contains_of_get? he))]

/-- Adding a unit keeps the place of its name, if it has one. -/
theorem names_perform_of_adds (r : Registry σ) {o : Operation σ} (h : o.Adds u) :
    (r.perform o).1.names = if u ∈ r.names then r.names else r.names ++ [u] := by
  cases o with
  | insert report s =>
    obtain rfl : report.unit = u := h
    exact names_put r (r.settledEntry report s)
  | insertPending name s =>
    obtain rfl : name = u := h
    exact names_put r (r.pendingEntry name s)
  | _ => exact absurd h id

/-- An operation takes names away, or adds one at the end. -/
theorem names_perform (r : Registry σ) (o : Operation σ) :
    (r.perform o).1.names.Sublist r.names ∨
      ∃ u, u ∉ r.names ∧ (r.perform o).1.names = r.names ++ [u] := by
  have adds {u : String} (h : o.Adds u) : (r.perform o).1.names.Sublist r.names ∨
      ∃ u, u ∉ r.names ∧ (r.perform o).1.names = r.names ++ [u] := by
    rw [names_perform_of_adds r h]
    split
    · exact .inl (.refl _)
    · next absent => exact .inr ⟨u, absent, rfl⟩
  cases o with
  | insert report s => exact adds rfl
  | insertPending name s => exact adds rfl
  | evict name => exact .inl (names_evict r name ▸ List.filter_sublist)
  | apply report now => exact .inl (names_apply r report now ▸ .refl _)
  | get name => exact .inl (.refl _)
  | contains name => exact .inl (.refl _)
  | drain => exact .inl (List.nil_sublist _)

/-! ## Arrivals -/

/-- The last time that a name has come: it was not tracked before, and has been ever since. -/
def Arrives (r : Registry σ) (os : List (Operation σ)) (u : String) (i : Nat) : Prop :=
  u ∉ (r.after (os.take i)).names ∧ ∀ j, i < j → u ∈ (r.after (os.take j)).names

theorem Arrives.lt_length {i : Nat} (h : r.Arrives os u i) : i < os.length := by
  by_contra late
  have ends : os.take i = os.take (i + 1) := by
    rw [List.take_of_length_le (by omega), List.take_of_length_le (by omega)]
  exact h.1 (ends ▸ h.2 (i + 1) (by omega))

theorem Arrives.mem {i : Nat} (h : r.Arrives os u i) : u ∈ (r.after os).names := by
  simpa using h.2 os.length h.lt_length

/-- A name that stays has arrived when it had. -/
theorem Arrives.concat {i : Nat} {o : Operation σ} (h : r.Arrives os u i)
    (stays : u ∈ (r.after (os ++ [o])).names) : r.Arrives (os ++ [o]) u i := by
  refine ⟨?_, ?_⟩
  · rw [List.take_append_of_le_length (Nat.le_of_lt h.lt_length)]
    exact h.1
  · intro j later
    by_cases hj : j ≤ os.length
    · rw [List.take_append_of_le_length hj]
      exact h.2 j later
    · rwa [List.take_of_length_le (by simp; omega)]

/-- A name that an operation adds arrives with it. -/
theorem arrives_of_added {o : Operation σ} (absent : u ∉ (r.after os).names)
    (added : u ∈ (r.after (os ++ [o])).names) : r.Arrives (os ++ [o]) u os.length := by
  refine ⟨by simpa using absent, ?_⟩
  intro j later
  rwa [List.take_of_length_le (by simp; omega)]

/-- Names stand in the order of their arrivals. -/
theorem arrivals (scope : BusScope) (os : List (Operation σ)) :
    (∀ u ∈ ((empty scope).after os).names, ∃ i, (empty scope).Arrives os u i) ∧
      ((empty scope).after os).names.Pairwise fun u v =>
        ∃ i j, (empty scope).Arrives os u i ∧ (empty scope).Arrives os v j ∧ i < j := by
  induction os using List.reverseRecOn with
  | nil => exact ⟨nofun, .nil⟩
  | append_singleton os o ih =>
    obtain ⟨arrived, ordered⟩ := ih
    have ends : (empty scope).after (os ++ [o]) = (((empty scope).after os).perform o).1 := by simp
    have stays {v : String} {i : Nat} (h : (empty scope).Arrives os v i)
        (hv : v ∈ (((empty scope).after os).perform o).1.names) :
        (empty scope).Arrives (os ++ [o]) v i := h.concat (ends ▸ hv)
    rw [ends]
    -- An operation takes names away, or it adds one at the end.
    rcases names_perform ((empty scope).after os) o with fewer | ⟨u, absent, more⟩
    · refine ⟨?_, (ordered.sublist fewer).imp_of_mem ?_⟩
      · intro v hv
        exact (arrived v (fewer.subset hv)).imp fun i hi => stays hi hv
      · rintro v w hv hw ⟨i, j, hi, hj, before⟩
        exact ⟨i, j, stays hi hv, stays hj hw, before⟩
    · have kept {v : String} (hv : v ∈ ((empty scope).after os).names) :
          v ∈ (((empty scope).after os).perform o).1.names := more ▸ List.mem_append_left _ hv
      have last : (empty scope).Arrives (os ++ [o]) u os.length :=
        arrives_of_added absent (ends ▸ more ▸ List.mem_append_right _ (List.mem_singleton_self u))
      rw [more]
      refine ⟨?_, List.pairwise_append.2 ⟨?_, List.pairwise_singleton _ _, ?_⟩⟩
      · intro v hv
        rcases List.mem_append.1 hv with hv | hv
        · exact (arrived v hv).imp fun i hi => stays hi (kept hv)
        · exact ⟨os.length, List.mem_singleton.1 hv ▸ last⟩
      · refine ordered.imp_of_mem ?_
        rintro v w hv hw ⟨i, j, hi, hj, before⟩
        exact ⟨i, j, stays hi (kept hv), stays hj (kept hw), before⟩
      · intro v hv w hw
        obtain ⟨i, hi⟩ := arrived v hv
        exact ⟨i, os.length, stays hi (kept hv), List.mem_singleton.1 hw ▸ last, hi.lt_length⟩

/-! ## What lists the entries -/

/-- The states are those of the names, in their order, without the pending ones. -/
theorem states_eq (h : r.WellFormed) :
    r.states = r.names.filterMap fun u => (r.stateOf u).map (u, ·) := by
  rw [states, names, List.filterMap_map]
  refine List.filterMap_congr ?_
  intro e he
  rw [Function.comp, stateOf_of_mem h he]

/-- What a history comes to: units apart, and in order. -/
structure Orderly (start : Registry σ) (os : List (Operation σ)) : Prop where
  nodup : (start.after os).names.Nodup
  unit : ∀ u e, (start.after os).get? u = some e → e.unit = ⟨start.scope, u⟩
  /-- The other units might as well not have been mentioned. -/
  apart : ∀ u, (start.after os).get? u = (start.after (os.filter (·.concerns u))).get? u ∧
    start.answers u os = start.answers u (os.filter (·.concerns u))
  arrived : ∀ u, u ∈ (start.after os).names ↔ ∃ i, start.Arrives os u i
  ordered : (start.after os).names.Pairwise fun u v =>
    ∃ i j, start.Arrives os u i ∧ start.Arrives os v j ∧ i < j
  /-- A name that is added again keeps its place. -/
  kept : ∀ u o, o.Adds u → u ∈ (start.after os).names →
    ((start.after os).perform o).1.names = (start.after os).names
  /-- Unless it has been taken away: then it comes last. -/
  moved : ∀ u o, o.Adds u → (start.after (os ++ [.evict u, o])).names =
    (start.after os).names.erase u ++ [u]
  states : (start.after os).states = (start.after os).names.filterMap fun u =>
    ((start.after os).stateOf u).map (u, ·)
  /-- A drain takes every entry, once and in order, and leaves none. -/
  drained : ∃ es, (start.after os).perform .drain = (empty start.scope, .entries es) ∧
    es.map (·.unit.name) = (start.after os).names ∧
    ∀ e, e ∈ es ↔ (start.after os).get? e.unit.name = some e
  resynced : ∀ snapshot, ((Session.differences (start.after os) snapshot).map
    (·.unit.name)).Sublist (start.after os).names

/-- **Units are apart, and in the order in which they have come to stay**, after any history. -/
theorem orderly (scope : BusScope) (os : List (Operation σ)) : Orderly (empty scope) os := by
  have wellFormed := wellFormed_after_empty scope os
  have nodup : ((empty scope).after os).names.Nodup := wellFormed.nodup
  obtain ⟨arrived, ordered⟩ := arrivals scope os
  refine ⟨nodup, ?_, ?_, ?_, ordered, ?_, ?_, states_eq wellFormed, ?_, ?_⟩
  · intro u e he
    rw [wellFormed.unit_of_get? he, scope_after]
  · intro u
    obtain ⟨same, told⟩ := alike_after (⟨rfl, rfl⟩ : Alike u (empty scope) (empty scope)) os
    exact ⟨same.get?, told⟩
  · exact fun u => ⟨arrived u, fun ⟨i, hi⟩ => hi.mem⟩
  · intro u o adds here
    rw [names_perform_of_adds _ adds, if_pos here]
  · intro u o adds
    -- After an eviction the unit is new, and comes last.
    have gone : u ∉ (((empty scope).after os).evict u).names := by simp [names_evict]
    rw [after_append, after_cons, after_cons, after_nil, perform, names_perform_of_adds _ adds,
      if_neg gone, names_evict, nodup.erase_eq_filter]
    rfl
  · refine ⟨((empty scope).after os).entries, ?_, rfl, ?_⟩
    · rw [perform, drain, scope_after]
      rfl
    · exact fun e => ⟨wellFormed.get?_of_mem, mem_of_get?⟩
  · intro snapshot
    have ordered := (Session.units_of_differences ((empty scope).after os) snapshot).map UnitId.name
    rwa [List.map_map, List.map_map] at ordered

theorem orderly_when_one_returns :
    let report (state : ActiveState) : Report := ⟨"a.service", state, none, none⟩
    let os : List (Operation Unit) := [.insert (report .active) (), .insertPending "b.service" (),
      .insert (report .failed) ()]
    let back : Operation Unit := .insertPending "a.service" ()
    let r := (empty .system).after os
    r.names = ["a.service", "b.service"] ∧ (r.perform back).1.names = r.names ∧
      ((empty .system).after (os ++ [.evict "a.service", back])).names =
        ["b.service", "a.service"] ∧
      r.get? "b.service" =
        ((empty .system).after [.insertPending "b.service" ()]).get? "b.service" ∧
      r.states = [("a.service", .failed)] := by
  intro report os back r
  have now : Orderly (empty .system) os := orderly .system os
  have kept := now.kept "a.service" back rfl (by decide)
  have moved := now.moved "a.service" back rfl
  exact ⟨by decide, kept, moved.trans (by decide), (now.apart "b.service").1, by decide⟩

end UnitWatch.Registry
