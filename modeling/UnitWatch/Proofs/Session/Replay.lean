import UnitWatch.Proofs.Session.Steps

/-!
# Replaying reports to an entry

What an entry makes of reports that come one after another. The events that a list of states calls
for are its consecutive pairs that differ (`changes`). An entry that knows the last of some
reports, and is told of later ones, yields what the longer list calls for (`Knows.replay`); reports
that are not later are lost on it (`replay_of_stale`).
-/

namespace UnitWatch

/-- The consecutive states that differ. -/
def changes : List ActiveState → List (ActiveState × ActiveState)
  | a :: b :: rest => if a = b then changes (b :: rest) else (a, b) :: changes (b :: rest)
  | _ => []

/-- The two states of a transition. -/
def Transition.states (t : Transition) : ActiveState × ActiveState := (t.previous, t.current)

theorem changes_concat (l : List ActiveState) (a b : ActiveState) :
    changes (l ++ [a, b]) = changes (l ++ [a]) ++ if a = b then [] else [(a, b)] := by
  induction l with
  | nil => by_cases h : a = b <;> simp [changes, h]
  | cons x l ih =>
    cases l with
    | nil =>
      by_cases hx : x = a <;> by_cases h : a = b <;> simp [changes, hx, h]
    | cons y l =>
      simp only [List.cons_append, changes] at ih ⊢
      split <;> simp [ih]

/-- The order of reports by their timestamps. -/
def Report.Before (p r : Report) : Prop :=
  ∃ t t', p.monotonic = some t ∧ r.monotonic = some t' ∧ t < t'

namespace Entry

variable {η : Type} {e : Entry η} {r : Report} {past : List Report}

/-- The states of the event that a report brings. -/
def event? (e : Entry η) (r : Report) : Option (ActiveState × ActiveState) :=
  (e.update r 0).2.map Transition.states

/-- The entry after reports. -/
def settle (e : Entry η) (rs : List Report) : Entry η :=
  rs.foldl (fun e r => (e.update r 0).1) e

/-- The states of the events that reports bring. -/
def replay (e : Entry η) : List Report → List (ActiveState × ActiveState)
  | [] => []
  | r :: rs => (e.event? r).toList ++ replay (e.update r 0).1 rs

/-- The clock has a say in the time of an event only. -/
theorem update_fst_eq (e : Entry η) (r : Report) (now : Microseconds) :
    (e.update r now).1 = (e.update r 0).1 := by
  cases h : e.isStale r.monotonic with
  | true => rw [update_of_stale now h, update_of_stale 0 h]
  | false => rw [update_fst_of_not_stale now h, update_fst_of_not_stale 0 h]

theorem states_of_update (e : Entry η) (r : Report) (now : Microseconds) :
    (e.update r now).2.map Transition.states = e.event? r := by
  unfold event? update
  split
  · rfl
  · cases e.state with
    | none => rfl
    | some s => by_cases h : r.state = s <;> simp [h, Transition.states]

theorem replay_append (e : Entry η) (rs rs' : List Report) :
    e.replay (rs ++ rs') = e.replay rs ++ (e.settle rs).replay rs' := by
  induction rs generalizing e with
  | nil => rfl
  | cons r rs ih => simp [replay, settle, ih]

theorem settle_append (e : Entry η) (rs rs' : List Report) :
    e.settle (rs ++ rs') = (e.settle rs).settle rs' := List.foldl_append

/-- The entry has taken in the last of the reports, and nothing later. -/
structure Knows (e : Entry η) (past : List Report) : Prop where
  state : e.state = past.getLast?.map (·.state)
  timestamp : e.timestamp = past.getLast?.bind (·.monotonic)

theorem Knows.not_stale (h : e.Knows past) (later : ∀ p ∈ past, p.Before r) :
    e.isStale r.monotonic = false := by
  by_contra stale
  obtain ⟨t₁, t₂, h₁, h₂, le⟩ := isStale_iff.1 (by simpa using stale)
  obtain ⟨p, hp, hp'⟩ := Option.bind_eq_some_iff.1 (h.timestamp ▸ h₂)
  obtain ⟨t, t', ht, ht', lt⟩ := later p (List.mem_of_getLast? hp)
  rw [ht] at hp'
  rw [ht'] at h₁
  cases hp'
  cases h₁
  omega

/-- One later report. -/
theorem Knows.update (h : e.Knows past) (later : ∀ p ∈ past, p.Before r) :
    (e.update r 0).1.Knows (past ++ [r]) ∧
      changes ((past ++ [r]).map (·.state)) =
        changes (past.map (·.state)) ++ (e.event? r).toList := by
  have fresh := h.not_stale later
  have event : e.event? r =
      e.state.bind fun s => if s = r.state then none else some (s, r.state) := by
    unfold event? Entry.update
    rw [if_neg (by simp [fresh])]
    cases e.state with
    | none => rfl
    | some s => by_cases hs : s = r.state <;> simp [hs, eq_comm, Transition.states]
  rw [update_fst_of_not_stale 0 fresh, event, h.state]
  rcases List.eq_nil_or_concat past with rfl | ⟨init, p, rfl⟩
  · refine ⟨⟨by simp, ?_⟩, rfl⟩
    have nothing : e.timestamp = none := h.timestamp
    simp [nothing]
  · rw [List.concat_eq_append] at later ⊢
    obtain ⟨-, t, -, ht, -⟩ := later p (by simp)
    refine ⟨⟨by simp, by simp [ht]⟩, ?_⟩
    have pairs := changes_concat (init.map (·.state)) p.state r.state
    by_cases hs : p.state = r.state <;> simpa [hs] using pairs

/-- **Later reports** bring the events that all the states together call for. -/
theorem Knows.replay (h : e.Knows past) {rs : List Report}
    (order : (past ++ rs).Pairwise Report.Before) :
    (e.settle rs).Knows (past ++ rs) ∧
      changes ((past ++ rs).map (·.state)) = changes (past.map (·.state)) ++ e.replay rs := by
  induction rs generalizing e past with
  | nil => simpa [Entry.replay, settle] using h
  | cons r rs ih =>
    have later : ∀ p ∈ past, p.Before r := fun p hp =>
      (List.pairwise_append.1 order).2.2 p hp r List.mem_cons_self
    obtain ⟨knows, pairs⟩ := h.update later
    have rest := ih knows (by simpa using order)
    rw [List.append_assoc, List.singleton_append] at rest
    refine ⟨rest.1, ?_⟩
    rw [rest.2, pairs, Entry.replay, List.append_assoc]

/-- Reports that are not later are lost on an entry. -/
theorem replay_of_stale {rs : List Report} (stale : ∀ r ∈ rs, e.isStale r.monotonic = true) :
    e.replay rs = [] ∧ e.settle rs = e := by
  induction rs with
  | nil => exact ⟨rfl, rfl⟩
  | cons r rs ih =>
    rw [List.forall_mem_cons] at stale
    have same : e.update r 0 = (e, none) := update_of_stale 0 stale.1
    have rest := ih stale.2
    refine ⟨?_, ?_⟩
    · rw [Entry.replay, event?, same]
      simpa using rest.1
    · rw [settle, List.foldl_cons, same]
      exact rest.2

end Entry

end UnitWatch
