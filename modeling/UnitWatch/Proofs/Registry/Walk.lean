import UnitWatch.Proofs.Registry.Operations

/-!
# Events as a walk through the states

The events that a registry yields about one unit join up: each leads away from the state that the
last one has led to (`Walk`). A walk goes on as long as the entry of the unit is neither made anew
nor taken away (`Operation.Remakes`).

**Where a walk begins.** At the state of the report with which the unit has been inserted. An entry
that was pending has no state to lead away from; its first report gives it one, without an event,
and the walk begins there. There is no walk for a unit that is not tracked, and no report makes it
tracked.

**Where a walk ends.** At the state in which the entry is settled. One report takes the walk at most
one event further (`walk_perform`), so it never ends anywhere else (`walk_after`).
-/

namespace UnitWatch.Registry

variable {σ : Type} {r : Registry σ} {u : String}

/-- Transitions from a state to a state, each away from where the last one has led. -/
inductive Walk : ActiveState → List Transition → ActiveState → Prop where
  | nil (s : ActiveState) : Walk s [] s
  | cons {t : Transition} {ts : List Transition} {s : ActiveState} :
    t.previous ≠ t.current → Walk t.current ts s → Walk t.previous (t :: ts) s

theorem Walk.append {s s' s'' : ActiveState} {ts ts' : List Transition} (h : Walk s ts s')
    (h' : Walk s' ts' s'') : Walk s (ts ++ ts') s'' := by
  induction h with
  | nil s => exact h'
  | cons moves _ ih => exact .cons moves (ih h')

/-- The operations that make the entry of a unit anew or take it away. -/
def Operation.Remakes (u : String) : Operation σ → Prop
  | insert report _ => report.unit = u
  | insertPending name _ => name = u
  | evict name => name = u
  | drain => True
  | _ => False

/-- The operations that bring a report about a unit. -/
def Operation.Reports (u : String) : Operation σ → Prop
  | apply report _ => report.unit = u
  | _ => False

/-- The event about a unit in an answer. -/
def Answer.about (u : String) : Operation σ → Answer σ → Option Transition
  | .apply report _, .event t => if report.unit = u then t else none
  | _, _ => none

/-- The events about a unit in the course of a history. -/
def events (r : Registry σ) (u : String) (os : List (Operation σ)) : List Transition :=
  (r.transcript os).filterMap fun x => x.2.about u x.1

theorem events_cons (r : Registry σ) (u : String) (o : Operation σ) (os : List (Operation σ)) :
    r.events u (o :: os) = ((r.perform o).2.about u o).toList ++ (r.perform o).1.events u os := by
  rw [events, transcript_cons, List.filterMap_cons]
  cases (r.perform o).2.about u o <;> rfl

theorem events_append (r : Registry σ) (u : String) (os os' : List (Operation σ)) :
    r.events u (os ++ os') = r.events u os ++ (r.after os).events u os' := by
  simp only [events, transcript_append, List.filterMap_append]

/-! ## One operation -/

/-- A report about the unit tells what applying it yields. -/
theorem about_apply (r : Registry σ) (report : Report) (now : Microseconds) :
    (r.perform (.apply report now)).2.about report.unit (.apply report now) =
      (r.apply report now).2 := if_pos rfl

/-- Without a report about the unit nothing is told of it. -/
theorem about_of_not_reports (r : Registry σ) {o : Operation σ} (h : ¬ o.Reports u) :
    (r.perform o).2.about u o = none := by
  cases o with
  | apply report now => exact if_neg h
  | _ => rfl

/-- An operation that neither makes the entry anew nor takes it away, nor brings a report, leaves
the entry. -/
theorem get?_perform_of_quiet (r : Registry σ) {o : Operation σ} (keeps : ¬ o.Remakes u)
    (quiet : ¬ o.Reports u) : (r.perform o).1.get? u = r.get? u := by
  cases o with
  | insert report s => exact get?_perform_of_ne r rfl (Ne.symm keeps)
  | insertPending name s => exact get?_perform_of_ne r rfl (Ne.symm keeps)
  | evict name => exact get?_perform_of_ne r rfl (Ne.symm keeps)
  | apply report now => exact get?_perform_of_ne r rfl (Ne.symm quiet)
  | get name => rfl
  | contains name => rfl
  | drain => exact absurd trivial keeps

/-- A report about a unit that is not tracked changes nothing. -/
theorem apply_of_get?_none {report : Report} (now : Microseconds)
    (h : r.get? report.unit = none) : r.apply report now = (r, none) := by
  simp only [apply, h]

/-- A unit that is not tracked is tracked only when it is added. -/
theorem get?_perform_eq_none {o : Operation σ} (h : r.get? u = none) (absent : ¬ o.Adds u) :
    (r.perform o).1.get? u = none := by
  cases o with
  | insert report s => rwa [get?_perform_of_ne r rfl (Ne.symm absent)]
  | insertPending name s => rwa [get?_perform_of_ne r rfl (Ne.symm absent)]
  | evict name => rw [perform, get?_evict, h, ite_self]
  | apply report now =>
    by_cases hu : report.unit = u
    · subst hu
      rwa [perform, apply_of_get?_none now h]
    · rwa [get?_perform_of_ne r rfl (Ne.symm hu)]
  | get name => exact h
  | contains name => exact h
  | drain => rfl

/-- An operation that takes the entry away leaves none. -/
theorem get?_perform_of_removes (r : Registry σ) {o : Operation σ} (remakes : o.Remakes u)
    (removes : ¬ o.Adds u) : (r.perform o).1.get? u = none := by
  cases o with
  | insert report s => exact absurd remakes removes
  | insertPending name s => exact absurd remakes removes
  | evict name =>
    obtain rfl : name = u := remakes
    rw [perform, get?_evict, if_pos rfl]
  | drain => rfl
  | _ => exact absurd remakes id

/-- The first report about a pending unit settles it and is not an event. -/
theorem apply_of_pending {e : Entry σ} {report : Report} (now : Microseconds)
    (h : r.get? report.unit = some e) (pending : e.state = none) (untimed : e.timestamp = none) :
    (r.apply report now).2 = none ∧
      (r.apply report now).1.stateOf report.unit = some report.state := by
  have fresh : e.isStale report.monotonic = false := by
    cases stale : e.isStale report.monotonic with
    | false => rfl
    | true =>
      obtain ⟨t, t', -, ht', -⟩ := Entry.isStale_iff.1 stale
      rw [untimed] at ht'
      cases ht'
  refine ⟨?_, ?_⟩
  · rw [apply_of_get? now h]
    by_contra loud
    obtain ⟨t, ht⟩ := Option.ne_none_iff_exists'.1 loud
    obtain ⟨-, s, hs, -⟩ := Entry.update_snd_eq_some.1 ht
    rw [pending] at hs
    cases hs
  · rw [stateOf_apply now h, if_pos rfl, Entry.update_fst_of_not_stale now fresh]

/-- A report is an event exactly if it changes the state of a settled entry. -/
theorem isSome_apply_iff (r : Registry σ) (report : Report) (now : Microseconds) :
    (r.apply report now).2.isSome = true ↔ ∃ s, r.stateOf report.unit = some s ∧
      (r.apply report now).1.stateOf report.unit ≠ some s := by
  cases he : r.get? report.unit with
  | none => simp [apply_of_get?_none now he, stateOf, he]
  | some e =>
    have known : r.stateOf report.unit = e.state := by rw [stateOf, he]; rfl
    rw [stateOf_apply now he, if_pos rfl, known, apply_of_get? now he]
    cases ht : (e.update report now).2 with
    | none =>
      refine ⟨fun h => absurd h (by simp), ?_⟩
      rintro ⟨s, hs, differs⟩
      exact absurd (Entry.state_of_update_eq_none ht hs) differs
    | some t =>
      obtain ⟨-, previous, current, moves⟩ := Entry.states_of_update_eq_some ht
      exact ⟨fun _ => ⟨t.previous, previous, by simp [current, moves.symm]⟩, fun _ => rfl⟩

/-- An operation takes the walk of a settled unit one event further, or leaves it. -/
theorem walk_perform {s : ActiveState} {o : Operation σ} (hs : r.stateOf u = some s)
    (keeps : ¬ o.Remakes u) : ∃ s', (r.perform o).1.stateOf u = some s' ∧
      Walk s ((r.perform o).2.about u o).toList s' := by
  by_cases reports : o.Reports u
  · cases o with
    | apply report now =>
      obtain rfl : report.unit = u := reports
      obtain ⟨e, he, known⟩ := Option.bind_eq_some_iff.1 hs
      rw [about_apply, perform, stateOf_apply now he, if_pos rfl, apply_of_get? now he]
      cases ht : (e.update report now).2 with
      | none => exact ⟨s, Entry.state_of_update_eq_none ht known, .nil s⟩
      | some t =>
        obtain ⟨-, previous, current, moves⟩ := Entry.states_of_update_eq_some ht
        obtain rfl : t.previous = s := Option.some.inj (previous.symm.trans known)
        exact ⟨t.current, current, .cons moves (.nil t.current)⟩
    | _ => exact absurd reports id
  · rw [about_of_not_reports r reports, stateOf, get?_perform_of_quiet r keeps reports]
    exact ⟨s, hs, .nil s⟩

/-! ## Histories -/

/-- As long as the entry is neither made anew nor taken away, the events walk from the state that is
known before to the state that is known after. -/
theorem walk_after {s : ActiveState} {os : List (Operation σ)} (hs : r.stateOf u = some s)
    (keeps : ∀ o ∈ os, ¬ o.Remakes u) :
    ∃ s', (r.after os).stateOf u = some s' ∧ Walk s (r.events u os) s' := by
  induction os generalizing r s with
  | nil => exact ⟨s, hs, .nil s⟩
  | cons o os ih =>
    obtain ⟨first, rest⟩ := List.forall_mem_cons.1 keeps
    obtain ⟨s₁, hs₁, walk⟩ := walk_perform hs first
    obtain ⟨s₂, hs₂, walk'⟩ := ih hs₁ rest
    exact ⟨s₂, hs₂, events_cons r u o os ▸ walk.append walk'⟩

/-- Without reports the entry stays and nothing is told. -/
theorem after_of_quiet {os : List (Operation σ)}
    (quiet : ∀ o ∈ os, ¬ o.Remakes u ∧ ¬ o.Reports u) :
    (r.after os).get? u = r.get? u ∧ r.events u os = [] := by
  induction os generalizing r with
  | nil => exact ⟨rfl, rfl⟩
  | cons o os ih =>
    obtain ⟨⟨keeps, silent⟩, rest⟩ := List.forall_mem_cons.1 quiet
    obtain ⟨same, nothing⟩ := ih (r := (r.perform o).1) rest
    refine ⟨same.trans (get?_perform_of_quiet r keeps silent), ?_⟩
    rw [events_cons, about_of_not_reports r silent, nothing]
    rfl

/-- The walk of a pending unit begins at the state of its first report. -/
theorem walk_of_pending {e : Entry σ} {report : Report} (now : Microseconds)
    {earlier later : List (Operation σ)} (he : r.get? report.unit = some e)
    (pending : e.state = none) (untimed : e.timestamp = none)
    (keeps : ∀ o ∈ earlier ++ .apply report now :: later, ¬ o.Remakes report.unit)
    (silent : ∀ o ∈ earlier, ¬ o.Reports report.unit) :
    ((r.after earlier).apply report now).2 = none ∧
      ∃ s, (r.after (earlier ++ .apply report now :: later)).stateOf report.unit = some s ∧
        Walk report.state (r.events report.unit (earlier ++ .apply report now :: later)) s := by
  obtain ⟨keepsEarlier, -, keepsLater⟩ :=
    (List.forall_mem_append.1 keeps).imp id List.forall_mem_cons.1
  obtain ⟨same, nothing⟩ := after_of_quiet (r := r) fun o ho => ⟨keepsEarlier o ho, silent o ho⟩
  obtain ⟨unheard, known⟩ := apply_of_pending now (same.trans he) pending untimed
  obtain ⟨s, ends, walk⟩ := walk_after known keepsLater
  refine ⟨unheard, s, ?_, ?_⟩
  · rw [after_append]
    exact ends
  · rwa [events_append, nothing, events_cons, about_apply, unheard]

/-- A unit that is never added is never tracked, and nothing is told of it. -/
theorem after_of_absent {os : List (Operation σ)} (h : r.get? u = none)
    (absent : ∀ o ∈ os, ¬ o.Adds u) : (r.after os).get? u = none ∧ r.events u os = [] := by
  induction os generalizing r with
  | nil => exact ⟨h, rfl⟩
  | cons o os ih =>
    obtain ⟨first, rest⟩ := List.forall_mem_cons.1 absent
    obtain ⟨same, nothing⟩ := ih (get?_perform_eq_none h first) rest
    refine ⟨same, ?_⟩
    rw [events_cons, nothing, List.append_nil, Option.toList_eq_nil_iff]
    cases o with
    | apply report now =>
      by_cases hu : report.unit = u
      · subst hu
        rw [perform, apply_of_get?_none now h]
        exact if_pos rfl
      · exact if_neg hu
    | _ => rfl

/-- What is told of a unit is told under its identity. -/
theorem unit_of_mem_events (h : r.WellFormed) {os : List (Operation σ)} {t : Transition}
    (ht : t ∈ r.events u os) : t.unit = ⟨r.scope, u⟩ := by
  induction os generalizing r with
  | nil => cases ht
  | cons o os ih =>
    rw [events_cons, List.mem_append] at ht
    rcases ht with ht | ht
    · cases o with
      | apply report now =>
        rw [Option.mem_toList] at ht
        obtain ⟨rfl, told⟩ : report.unit = u ∧ (r.apply report now).2 = some t := by
          simpa [Answer.about, perform] using ht
        cases he : r.get? report.unit with
        | none =>
          rw [apply_of_get?_none now he] at told
          cases told
        | some e =>
          rw [apply_of_get? now he] at told
          rw [(Entry.states_of_update_eq_some told).1, h.unit_of_get? he]
      | _ => cases ht
    · rw [ih (h.perform o) ht, scope_perform]

/-- What the events about a unit are along a stretch of a history, for each way in which the stretch
may begin. -/
structure Walks (r : Registry σ) (u : String) (os : List (Operation σ)) : Prop where
  unit : ∀ t ∈ r.events u os, t.unit = ⟨r.scope, u⟩
  /-- After an insertion, a walk from the inserted state. -/
  inserted : ∀ report s, report.unit = u → (∀ o ∈ os, ¬ o.Remakes u) →
    ∃ state, ((r.insert report s).after os).stateOf u = some state ∧
      Walk report.state ((r.insert report s).events u os) state
  /-- After a pending insertion, nothing until the first report. -/
  pending : ∀ s, (∀ o ∈ os, ¬ o.Remakes u ∧ ¬ o.Reports u) →
    ((r.insertPending u s).after os).get? u = some (r.pendingEntry u s) ∧
      (r.insertPending u s).events u os = []
  /-- And then a walk from the state of the first report, which is no event itself. -/
  settled : ∀ s report now earlier later, os = earlier ++ .apply report now :: later →
    report.unit = u → (∀ o ∈ os, ¬ o.Remakes u) → (∀ o ∈ earlier, ¬ o.Reports u) →
    (((r.insertPending u s).after earlier).apply report now).2 = none ∧
      ∃ state, ((r.insertPending u s).after os).stateOf u = some state ∧
        Walk report.state ((r.insertPending u s).events u os) state
  /-- After a removal, nothing. -/
  removed : ∀ o, o.Remakes u → ¬ o.Adds u → (∀ o ∈ os, ¬ o.Adds u) →
    ((r.perform o).1.after os).get? u = none ∧ (r.perform o).1.events u os = []
  /-- For a unit that is not tracked, nothing. -/
  absent : r.get? u = none → (∀ o ∈ os, ¬ o.Adds u) →
    (r.after os).get? u = none ∧ r.events u os = []
  /-- A report is an event if and only if it changes the state of a settled entry. -/
  event : ∀ report now, report.unit = u → ((r.apply report now).2.isSome = true ↔
    ∃ s, r.stateOf u = some s ∧ (r.apply report now).1.stateOf u ≠ some s)
  ignored : ∀ report now, report.unit = u → r.get? u = none → r.apply report now = (r, none)

/-- **Events walk through the states**, at any point of any history of any registry. -/
theorem events_walk (scope : BusScope) (before os : List (Operation σ)) (u : String) :
    Walks ((empty scope).after before) u os := by
  generalize hr : (empty scope).after before = r
  have wellFormed : r.WellFormed := hr ▸ wellFormed_after_empty scope before
  refine ⟨fun t => unit_of_mem_events wellFormed, ?_, ?_, ?_, ?_, after_of_absent, ?_, ?_⟩
  · rintro report s rfl keeps
    have known : (r.insert report s).stateOf report.unit = some report.state := by
      rw [stateOf, get?_insert_self]
      rfl
    exact walk_after known keeps
  · intro s quiet
    exact get?_insertPending_self r u s ▸ after_of_quiet quiet
  · rintro s report now earlier later rfl rfl keeps silent
    exact walk_of_pending now (get?_insertPending_self r report.unit s) rfl rfl keeps silent
  · intro o remakes removes absent
    exact after_of_absent (get?_perform_of_removes r remakes removes) absent
  · rintro report now rfl
    exact isSome_apply_iff r report now
  · rintro report now rfl h
    exact apply_of_get?_none now h

theorem events_walk_past_stale_report :
    let report (state : ActiveState) (t : Int) : Report := ⟨"a.service", state, some t, none⟩
    let waits : Registry Unit := (empty .system).insertPending "a.service" ()
    let later := [.apply (report .failed 3) 2, .apply (report .failed 7) 3]
    let os := .contains "a.service" :: .apply (report .active 5) 1 :: later
    waits.events "a.service" os = [⟨⟨.system, "a.service"⟩, .active, .failed, 3⟩] ∧
      (waits.apply (report .active 5) 1).2 = none ∧
      (∃ s, (waits.after os).stateOf "a.service" = some s ∧
        Walk .active (waits.events "a.service" os) s) ∧
      ((waits.evict "a.service").after later).get? "a.service" = none := by
  intro report waits later os
  have stays : ∀ o ∈ os, ¬ o.Remakes "a.service" := by simp [os, later, Operation.Remakes]
  have first := (events_walk .system [] os "a.service").settled () (report .active 5) 1
    [.contains "a.service"] later rfl rfl stays (by simp [Operation.Reports])
  have removed := (events_walk .system [.insertPending "a.service" ()] later "a.service").removed
    (.evict "a.service") rfl id (by simp [later, Operation.Adds])
  exact ⟨by decide, first.1, first.2, removed.1⟩

end UnitWatch.Registry
