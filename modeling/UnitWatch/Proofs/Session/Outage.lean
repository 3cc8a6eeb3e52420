import UnitWatch.Proofs.Session.Reconnect

/-!
# Changes across an outage

What a session says about a unit that changed while there was no connection. Discovery is compared
with what was known when a connection was last lost, so the events of a resync about a unit are the
change between the two (`Resynced.about`): one event if the states differ, none if they do not or if
one of them is not known.

**Attempts.** Connections that could not be started leave what was known as it is, however many there
are: the change since the loss is not missed (`change_after_outage`). A connection that was started
and lost again replaces it, also if its discovery was cut short. What such a discovery has not found
is forgotten, and a change of it is missed (`change_missed`).
-/

namespace UnitWatch.Session

variable {η : Type}

/-- The change that leads from one state to the other, if both are known. -/
def change : Option ActiveState → Option ActiveState → List (ActiveState × ActiveState)
  | some s, some s' => if s = s' then [] else [(s, s')]
  | _, _ => []

/-- The states of the events about a unit. -/
def about (u : String) (ts : List Transition) : List (ActiveState × ActiveState) :=
  (ts.filter (·.unit.name = u)).map Transition.states

theorem about_of_silent {u : String} {ts : List Transition} (h : ∀ t ∈ ts, t.unit.name ≠ u) :
    about u ts = [] := by
  have nothing : ts.filter (·.unit.name = u) = [] := by simpa [List.filter_eq_nil_iff] using h
  rw [about, nothing, List.map_nil]

/-- The only event about a unit. -/
theorem about_of_mem {ts : List Transition} (once : (ts.map (·.unit.name)).Nodup) {t : Transition}
    (ht : t ∈ ts) : about t.unit.name ts = [t.states] := by
  obtain ⟨before, after, rfl⟩ := List.append_of_mem ht
  rw [List.map_append, List.map_cons, List.nodup_middle, List.nodup_cons] at once
  have silent (x : Transition) (hx : x ∈ before ++ after) : x.unit.name ≠ t.unit.name := by
    intro same
    refine once.1 ?_
    rw [← List.map_append, ← same]
    exact List.mem_map_of_mem hx
  have before' := about_of_silent fun x hx => silent x (List.mem_append_left _ hx)
  have after' := about_of_silent fun x hx => silent x (List.mem_append_right _ hx)
  unfold about at before' after' ⊢
  rw [List.filter_append, List.map_append, before', List.filter_cons_of_pos (by simp),
    List.map_cons, after', List.nil_append]

/-- **A resync says of each unit how it has changed.** -/
theorem IsResync.about {r : Registry η} {snapshot : Snapshot} {ts : List Transition}
    (h : IsResync r snapshot ts) (wellFormed : r.WellFormed) (u : String) :
    about u ts = change (snapshot.lookup u) (r.stateOf u) := by
  by_cases loud : ∃ t ∈ ts, t.unit.name = u
  · obtain ⟨t, ht, rfl⟩ := loud
    obtain ⟨e, he, unit, known, found, differs⟩ := h.sound t ht
    rw [about_of_mem h.once ht, unit, known, Registry.stateOf_of_mem wellFormed he, found, change,
      if_neg differs]
    rfl
  · rw [about_of_silent fun t ht name => loud ⟨t, ht, name⟩]
    cases known : snapshot.lookup u with
    | none => rfl
    | some s =>
      cases found : r.stateOf u with
      | none => rfl
      | some s' =>
        obtain ⟨e, he, state⟩ := Option.bind_eq_some_iff.1 found
        by_cases same : s = s'
        · rw [change, if_pos same]
        · have name : e.unit.name = u := Registry.name_of_get? he
          obtain ⟨t, ht, unit, -⟩ :=
            h.complete e (Registry.mem_of_get? he) s s' (name ▸ known) state same
          exact (loud ⟨t, ht, by rw [unit, name]⟩).elim

namespace Journal

/-- The events of a connection about a unit, before the first signal. -/
theorem Resynced.about {basis : Snapshot} {l : Leg η} (h : Resynced (some basis) l)
    {r : Registry η} (discovered : l.discovered = some r) (u : String) :
    about u l.resynced = change (basis.lookup u) (r.stateOf u) := by
  obtain ⟨r', found, wellFormed, resync⟩ := h
  rw [discovered] at found
  cases found
  exact IsResync.about resync wellFormed u

/-- Connections that were not lost leave what was known as it is. -/
theorem lastLost_of_failed {between older : List (Leg η)} (failed : ∀ l ∈ between, l.lost = none) :
    lastLost (between ++ older) = lastLost older := by
  induction between with
  | nil => rfl
  | cons l between ih =>
    rw [List.cons_append, lastLost, failed l List.mem_cons_self, Option.none_or]
    exact ih fun l hl => failed l (List.mem_cons_of_mem _ hl)

/-- All events of a resync are there: the session has gone on to the first signal. -/
def Heeds (p : Phase η) (newer : List (Leg η)) (l : Leg η) : Prop :=
  l.log ≠ [] ∨ l.lost.isSome = true ∨ newer = [] ∧ ∃ s resume, p = .ask s .nextSignal resume

variable {c : Plan} {w : Journal η} {p : Phase η} {newer older : List (Leg η)} {l : Leg η}

theorem resynced_of_run (run : Runs c around (⟨{}, []⟩, begin c) (w, p))
    (split : w.legs = newer ++ l :: older) (heeds : Heeds p newer l) :
    Resynced (lastLost older) l := by
  have safe := run.safe stage_stands (stage_stands _ _ _ (stands_initial c.scope))
  have consistent := (split ▸ (inOrder_of_safe safe).consistent).of_append.1
  obtain busy | lost | ⟨rfl, s, resume, rfl⟩ := heeds
  · exact consistent (.inl busy)
  · exact consistent (.inr lost)
  · obtain ⟨resynced, -⟩ := (safe w .refl).1.2 rfl
    rw [legs, List.nil_append, List.cons.injEq] at split
    rw [← split.1, ← split.2]
    exact resynced

/-- **A change during an outage is not missed.** A unit was settled in a state when a connection was
lost. However many connections could not be started since then, the first one that is started and
finds the unit settled in another state brings one event about it, from the one state to the
other. -/
theorem change_after_outage (run : Runs c around (⟨{}, []⟩, begin c) (w, p))
    {between : List (Leg η)} {lost : Leg η}
    (split : w.legs = newer ++ l :: (between ++ lost :: older)) (heeds : Heeds p newer l)
    {snapshot : Snapshot} (loss : lost.lost = some snapshot)
    (failed : ∀ attempt ∈ between, attempt.lost = none)
    {r : Registry η} (discovered : l.discovered = some r) {u : String} {s s' : ActiveState}
    (known : snapshot.lookup u = some s) (found : r.stateOf u = some s') (differs : s ≠ s') :
    about u l.resynced = [(s, s')] := by
  have basis : lastLost (between ++ lost :: older) = some snapshot := by
    rw [lastLost_of_failed failed, lastLost, loss, Option.some_or]
  have resynced := resynced_of_run run split heeds
  rw [basis] at resynced
  rw [resynced.about discovered, known, found, change, if_neg differs]

/-! ## A failed attempt, and a discovery that is cut short -/

/-- The connection is lost while the unit is active. -/
def parting : Leg Nat where
  arrived := [.loss]
  taken := 1
  discovered := discovery.discovered
  lost := some [("web", .active)]

/-- The unit has failed when it is discovered again. -/
def reunion : Leg Nat where
  discovered := some ⟨.system, [⟨⟨.system, "web"⟩, some .failed, some 9, 1⟩]⟩
  resynced := [⟨⟨.system, "web"⟩, .active, .failed, 1⟩]

theorem to_parting : Runs Plan.everything around
    (⟨discovery, [{}]⟩, stage .everything .listening (knowing .active 3 0))
    (⟨parting, [{}]⟩,
      stage .everything (.opening (some [("web", .active)]) 1) ⟨⟨.system, []⟩, false⟩) := by
  refine .head (.move _ (.arrive _ .loss)) ?_
  refine .head (.answer _ (.lost _ _ "system" rfl)) ?_
  refine .head (.answer _ (.noted _ _ _)) ?_
  refine .head (.answer _ (.slept _ _ _ (.ok ()))) ?_
  refine .head (.answer _ (.unsubscribed _ _ _ (.ok ()))) ?_
  refine .head (.answer _ (.closed _ _ (.ok ()))) ?_
  exact .head (.next _ _ _) .refl

/-- The first attempt fails, and the second one brings the event. -/
theorem change_after_failed_attempt :
    Runs Plan.everything around (⟨{}, []⟩, begin .everything)
        (⟨reunion, [{}, parting, {}]⟩, stage .everything .listening (knowing .failed 9 1)) ∧
      about "web" reunion.resynced = [(.active, .failed)] := by
  have run : Runs Plan.everything around (⟨{}, []⟩, begin .everything)
      (⟨reunion, [{}, parting, {}]⟩, stage .everything .listening (knowing .failed 9 1)) := by
    refine (to_discovery.trans to_parting).trans ?_
    -- The first attempt is refused, and the connection is closed again.
    refine .head (.answer _ (.opened _ _)) ?_
    refine .head (.answer _ (.connected _ _ (.error (.ofBus (.connection "system" "refused"))))) ?_
    refine .head (.answer _ (.noted _ _ _)) ?_
    refine .head (.answer _ (.slept _ _ _ (.ok ()))) ?_
    refine .head (.answer _ (.closed _ _ (.ok ()))) ?_
    refine .head (.next _ _ _) ?_
    refine .head (.answer _ (.opened _ _)) ?_
    refine .head (.answer _ (.connected _ _ (.ok ()))) ?_
    refine .head (.answer _ (.subscribedManager _ _ (.ok ()))) ?_
    refine .head (.answer _ (.listed _ _ (.ok ["web"]))) ?_
    refine .head (.answer _ (.subscribed _ _ _ 1)) ?_
    refine .head (.answer _ (.fetched _ _ _ ⟨"web", "failed", some 9, none⟩ rfl)) ?_
    refine .head (.answer _ (.noted _ _ _)) ?_
    refine .head (.answer _ (.noted _ _ _)) ?_
    refine .head (.answer _ (.time _ _ 1)) ?_
    refine .head (.answer _ (.taken _ _ _)) ?_
    refine .head (.answer _ (.noted _ _ _)) ?_
    exact .head (.next _ _ _) .refl
  refine ⟨run, ?_⟩
  have waits : Heeds (stage .everything .listening (knowing .failed 9 1)) [] reunion :=
    .inr (.inr ⟨rfl, _, _, rfl⟩)
  have split : (⟨reunion, [{}, parting, {}]⟩ : Journal Nat).legs =
      [] ++ reunion :: ([({} : Leg Nat)] ++ parting :: [{}]) := rfl
  exact change_after_outage run split waits rfl (by simp) rfl rfl rfl (by decide)

/-- A connection that is lost while its only unit is asked for. -/
def cutShort : Leg Nat where
  arrived := [.loss]
  taken := 1
  discovered := some ⟨.system, []⟩
  lost := some []

/-- The unit has failed when it is discovered at last, and there is no event. -/
def silence : Leg Nat where
  discovered := some ⟨.system, [⟨⟨.system, "web"⟩, some .failed, some 9, 2⟩]⟩

/-- **A change that is missed.** The unit was active at the loss, the next discovery is cut short by
another loss, and the one after that finds the unit failed. No event says so. -/
theorem change_missed :
    Runs Plan.everything around (⟨{}, []⟩, begin .everything)
        (⟨silence, [cutShort, parting, {}]⟩,
          stage .everything .listening (knowing .failed 9 2)) ∧
      Heeds (stage .everything .listening (knowing .failed 9 2)) [] silence ∧
      parting.lost = some [("web", .active)] ∧
      (∀ r, cutShort.discovered = some r → r.stateOf "web" = none) ∧
      (∀ r, silence.discovered = some r → r.stateOf "web" = some .failed) ∧
      about "web" silence.resynced ≠ [(.active, .failed)] := by
  refine ⟨(to_discovery.trans to_parting).trans ?_, .inr (.inr ⟨rfl, _, _, rfl⟩), rfl, ?_, ?_,
    by decide⟩
  · refine .head (.answer _ (.opened _ _)) ?_
    refine .head (.answer _ (.connected _ _ (.ok ()))) ?_
    refine .head (.answer _ (.subscribedManager _ _ (.ok ()))) ?_
    refine .head (.answer _ (.listed _ _ (.ok ["web"]))) ?_
    refine .head (.answer _ (.subscribed _ _ _ 1)) ?_
    -- The connection is lost again, so the unit cannot be fetched, and it is skipped.
    refine .head (.move _ (.arrive _ .loss)) ?_
    refine .head (.answer _ (.notFetched _ _ _ (callFailure "GetAll" "gone" none) ?_ ?_)) ?_
    · rintro ⟨scope, ⟨⟩⟩
    · rintro word ⟨⟩
    refine .head (.answer _ (.noted _ _ _)) ?_
    refine .head (.answer _ (.unsubscribed _ _ _ (.ok ()))) ?_
    refine .head (.answer _ (.noted _ _ _)) ?_
    refine .head (.answer _ (.noted _ _ _)) ?_
    refine .head (.next _ _ _) ?_
    -- The unit is not in the registry of this loss, with which the next discovery is compared.
    refine .head (.answer _ (.lost _ _ "system" rfl)) ?_
    refine .head (.answer _ (.noted _ _ _)) ?_
    refine .head (.answer _ (.slept _ _ _ (.ok ()))) ?_
    refine .head (.answer _ (.closed _ _ (.ok ()))) ?_
    refine .head (.next _ _ _) ?_
    refine .head (.answer _ (.opened _ _)) ?_
    refine .head (.answer _ (.connected _ _ (.ok ()))) ?_
    refine .head (.answer _ (.subscribedManager _ _ (.ok ()))) ?_
    refine .head (.answer _ (.listed _ _ (.ok ["web"]))) ?_
    refine .head (.answer _ (.subscribed _ _ _ 2)) ?_
    refine .head (.answer _ (.fetched _ _ _ ⟨"web", "failed", some 9, none⟩ rfl)) ?_
    refine .head (.answer _ (.noted _ _ _)) ?_
    refine .head (.answer _ (.noted _ _ _)) ?_
    refine .head (.answer _ (.noted _ _ _)) ?_
    exact .head (.next _ _ _) .refl
  · rintro r ⟨⟩
    rfl
  · rintro r ⟨⟩
    rfl

end Journal

end UnitWatch.Session
