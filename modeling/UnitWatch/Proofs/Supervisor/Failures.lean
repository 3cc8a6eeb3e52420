import UnitWatch.Proofs.Session.Stopping
import UnitWatch.Proofs.Supervisor.Delivery

/-!
# What is recorded of sessions that have ended

A session is recorded among the failures when it has ended in any way other than being stopped, with
the reason, once (`Recorded`). Sessions are stopped where they wait, and then they end as stopped or
go on (`Lane.GivesWay`), so a stop alone adds nothing to the failures.
-/

namespace UnitWatch.Supervisor

open Session (GivesWay Quits stage_givesWay)

variable {η : Type}

namespace Lane

/-- Why the session counts as failed, if it does. -/
def reason? (l : Lane η) : Option String :=
  match l.session with
  | .running p => p.outcome?.bind fun f => (State.ending f).map Prod.fst
  | _ => none

variable {l : Lane η}

theorem reason?_of_running {p : Session.Phase η} (running : l.session = .running p) :
    l.reason? = p.outcome?.bind fun f => (State.ending f).map Prod.fst := by
  rw [reason?, running]

theorem reason?_congr {l' : Lane η} (same : l'.session = l.session) : l'.reason? = l.reason? := by
  rw [reason?, reason?, same]

theorem ending_eq_none {f : Failure} : State.ending f = none ↔ f = .cancelled := by
  unfold State.ending
  split <;> simp_all

/-- A session counts as failed if it has ended in any way other than being stopped. -/
theorem reason?_isSome_iff :
    (∃ reason, l.reason? = some reason) ↔
      ∃ s f, l.session = .running (.done s (.error f)) ∧ f ≠ .cancelled := by
  constructor
  · rintro ⟨reason, h⟩
    cases running : l.session with
    | absent => simp [reason?, running] at h
    | created => simp [reason?, running] at h
    | running p =>
      rw [reason?_of_running running] at h
      match p, h with
      | .done s (.error f), h =>
        refine ⟨s, f, rfl, ?_⟩
        rintro rfl
        cases h
  · rintro ⟨s, f, running, other⟩
    rw [reason?_of_running running]
    cases ends : State.ending f with
    | none => exact absurd (ending_eq_none.1 ends) other
    | some reason => exact ⟨reason.1, by simp [Session.Phase.outcome?, ends]⟩

/-- A session that goes on has not failed. -/
theorem Proceeds.reason?_eq_none {p : Session.Phase η} {ts : List Transition}
    (moves : l.Proceeds p ts) : l.reason? = none := by
  cases moves with
  | begins created => rw [reason?, created]
  | answered _ _ _ _ waits => rw [reason?_of_running waits]; rfl
  | continues _ _ done => rw [reason?_of_running done]; rfl

/-! ## Giving way -/

/-- Where the session waits it gives way to a stop. -/
def GivesWay (l : Lane η) : Prop := ∀ p, l.session = .running p → Session.GivesWay Quits p

theorem GivesWay.proceeds (h : l.GivesWay) {p : Session.Phase η} {ts : List Transition}
    (moves : l.Proceeds p ts) : Session.GivesWay Quits p := by
  cases moves with
  | begins created => exact stage_givesWay _ _ _
  | answered s q resume a waits => exact (h _ waits).2 a
  | continues s st done => exact stage_givesWay _ _ _

theorem GivesWay.cancel (h : l.GivesWay) : l.cancel.GivesWay := by
  unfold Lane.cancel
  split
  · rintro _ ⟨⟩
    trivial
  · next p running =>
    split
    · exact h
    · rintro _ ⟨⟩
      exact (h p running).cancel
  · exact h

/-- A stop alone is no failure. -/
theorem GivesWay.reason?_cancel (h : l.GivesWay) : l.cancel.reason? = l.reason? := by
  unfold Lane.cancel
  split
  · next created =>
    rw [reason?, reason?, created]
    rfl
  · next p running =>
    by_cases ended : p.outcome?.isSome = true
    · rw [if_pos ended]
    · rw [if_neg ended]
      have alive : p.outcome? = none := by simpa using ended
      rw [reason?_of_running running, alive]
      show p.cancel.outcome?.bind _ = none
      rcases (h p running).outcome?_cancel alive with waits | stopped
      · rw [waits]
        rfl
      · rw [stopped]
        rfl
  · rfl

theorem GivesWay.sweep {q : Request} {f : Lane η → Lane η} (h : l.GivesWay)
    (sweeps : State.Sweeps q f) : (f l).GivesWay ∧ (f l).reason? = l.reason? := by
  cases sweeps with
  | starts =>
    unfold Lane.start
    split
    · next absent =>
      refine ⟨?_, ?_⟩
      · rintro _ ⟨⟩
      · rw [reason?, reason?, absent]
    · exact ⟨h, rfl⟩
  | cancels => exact ⟨h.cancel, h.reason?_cancel⟩
  | endsWorkers =>
    unfold endWorker
    split <;> exact ⟨h, rfl⟩
  | nothing => exact ⟨h, rfl⟩

end Lane

/-! ## The failures -/

/-- What a session that moves adds to the failures. -/
theorem State.moveSession_recorded (s : State η) (scope : BusScope) (p : Session.Phase η)
    (ts : List Transition) (l : Lane η) :
    (s.moveSession scope p ts).1 = { s.mapLane scope (·.moveTo p ts) with
      failures := s.failures ++
        ((l.moveTo p ts).reason?.map fun reason => (scope, reason)).toList } := by
  have reason : (l.moveTo p ts).reason? = p.outcome?.bind fun f => (ending f).map Prod.fst := rfl
  rw [reason]
  unfold moveSession
  cases outcome : p.outcome? with
  | none => simp [mapLane]
  | some f =>
    simp only [recordEnd, Option.bind_some]
    cases ending f with
    | none => simp [mapLane]
    | some noted => simp [mapLane]

theorem State.failures_of_respond {s s' : State η} {n : Nat} {q : Request} {a : Answer q}
    (h : s.respond n q = some (a, s')) : s'.failures = s.failures := by
  cases q with
  | sessionsEnded | drained | stopOrOver =>
    simp only [respond] at h
    split at h
    · cases h
      rfl
    · cases h
  | result job =>
    obtain ⟨code, -, eq⟩ := Option.map_eq_some_iff.1 h
    cases eq
    rfl
  | _ =>
    cases h
    rfl

/-- The failures are those of the sessions that count as failed, each of them once. -/
structure Recorded (s : State η) : Prop where
  scopes : (s.lanes.map Lane.scope).Nodup
  once : (s.failures.map Prod.fst).Nodup
  exact : ∀ scope reason, (scope, reason) ∈ s.failures ↔
    ∃ l ∈ s.lanes, l.scope = scope ∧ l.reason? = some reason

namespace Recorded

variable {s s' : State η}

theorem eq_of_scope (h : Recorded s) {l l' : Lane η} (hl : l ∈ s.lanes) (hl' : l' ∈ s.lanes)
    (same : l.scope = l'.scope) : l = l' :=
  List.inj_on_of_nodup_map h.scopes hl hl' same

/-- Lanes change, but none of them in what it counts as. -/
theorem map {f : Lane η → Lane η} (h : Recorded s)
    (same : ∀ l ∈ s.lanes, (f l).scope = l.scope ∧ (f l).reason? = l.reason?)
    (lanes : s'.lanes = s.lanes.map f) (failures : s'.failures = s.failures) : Recorded s' := by
  refine ⟨?_, failures ▸ h.once, ?_⟩
  · rw [lanes, List.map_map]
    have scopes : s.lanes.map (Lane.scope ∘ f) = s.lanes.map Lane.scope :=
      List.map_congr_left fun l hl => (same l hl).1
    rw [scopes]
    exact h.scopes
  · intro scope reason
    rw [failures, h.exact, lanes]
    constructor
    · rintro ⟨l, hl, rfl, failed⟩
      exact ⟨f l, List.mem_map_of_mem hl, (same l hl).1, (same l hl).2.trans failed⟩
    · rintro ⟨_, changed, rfl, failed⟩
      obtain ⟨l, hl, rfl⟩ := List.mem_map.1 changed
      exact ⟨l, hl, (same l hl).1.symm, (same l hl).2.symm.trans failed⟩

/-- A session goes on; if it ends in a way that counts as failed, that is recorded. -/
theorem moveTo (h : Recorded s) {scope : BusScope} {l : Lane η} {p : Session.Phase η}
    {ts : List Transition} (here : s.lane? scope = some l) (moves : l.Proceeds p ts) :
    Recorded (s.moveSession scope p ts).1 := by
  rw [State.moveSession_recorded s scope p ts l]
  have mem := State.mem_of_lane? here
  obtain rfl := State.scope_of_lane? here
  have unique (x : Lane η) (hx : x ∈ s.lanes) (same : x.scope = l.scope) : x = l :=
    h.eq_of_scope hx mem same
  -- A session that goes on has not failed yet, so its scope is not among the failures.
  have fresh : ∀ reason, (l.scope, reason) ∉ s.failures := by
    intro reason recorded
    obtain ⟨x, hx, same, failed⟩ := (h.exact _ _).1 recorded
    rw [unique x hx same, moves.reason?_eq_none] at failed
    cases failed
  refine ⟨?_, ?_, ?_⟩
  · have scopes : ((s.mapLane l.scope (·.moveTo p ts)).lanes.map Lane.scope) =
        s.lanes.map Lane.scope := State.scopes_mapLane fun _ h => h
    show ((s.mapLane l.scope (·.moveTo p ts)).lanes.map Lane.scope).Nodup
    rw [scopes]
    exact h.scopes
  · simp only [List.map_append, List.nodup_append]
    refine ⟨h.once, ?_, ?_⟩
    · cases (l.moveTo p ts).reason? <;> simp
    · intro scope member other last same
      cases failed : (l.moveTo p ts).reason? with
      | none => simp [failed] at last
      | some reason =>
        simp only [failed, Option.map_some, Option.toList_some, List.map_singleton,
          List.mem_singleton] at last
        obtain ⟨⟨_, before⟩, recorded, rfl⟩ := List.mem_map.1 member
        cases same.trans last
        exact fresh before recorded
  · intro scope reason
    simp only [List.mem_append, h.exact, State.mapLane, List.mem_map, Option.mem_toList,
      Option.map_eq_some_iff, Prod.mk.injEq]
    constructor
    · rintro (⟨x, hx, rfl, failed⟩ | ⟨reason, failed, rfl, rfl⟩)
      · have other : x.scope ≠ l.scope := by
          intro same
          rw [unique x hx same, moves.reason?_eq_none] at failed
          cases failed
        exact ⟨x, ⟨x, hx, if_neg other⟩, rfl, failed⟩
      · exact ⟨l.moveTo p ts, ⟨l, mem, if_pos rfl⟩, rfl, failed⟩
    · rintro ⟨_, ⟨x, hx, rfl⟩, rfl, failed⟩
      by_cases same : x.scope = l.scope
      · obtain rfl := unique x hx same
        rw [if_pos rfl] at failed ⊢
        exact .inr ⟨reason, failed, rfl, rfl⟩
      · rw [if_neg same] at failed ⊢
        exact .inl ⟨x, hx, rfl, failed⟩

end Recorded

namespace Daemon

variable {d d' : Daemon η} {a : Actor}

theorem Step.givesWay (step : Step a d d') (h : d.state.Every Lane.GivesWay) :
    d'.state.Every Lane.GivesWay := by
  refine step.every ?_ ?_ (fun _ _ _ sweep hl => (hl.sweep sweep).1) h
  · rintro l x p ts hl moves - _ ⟨⟩
    exact hl.proceeds moves
  · intro _ _ l _ _ l' _ hl works p running
    rw [works.session_eq.1] at running
    exact hl p running

theorem Step.recorded (step : Step a d d') (way : d.state.Every Lane.GivesWay)
    (h : Recorded d.state) : Recorded d'.state := by
  cases step with
  | session _ scope l p ts here moves => exact h.moveTo here moves
  | worker _ scope l l' flying hs here works =>
    obtain rfl := State.scope_of_lane? here
    refine h.map (f := fun x => if x.scope = l.scope then l' else x) ?_ rfl rfl
    intro x hx
    by_cases same : x.scope = l.scope
    · obtain rfl := h.eq_of_scope hx (State.mem_of_lane? here) same
      simp only [if_pos]
      exact ⟨works.scope_eq, Lane.reason?_congr works.session_eq.1⟩
    · simp only [if_neg same, and_self]
  | calls _ m ready => exact ⟨h.scopes, h.once, h.exact⟩
  | signalled =>
    unfold State.requestStop
    split
    · exact ⟨h.scopes, h.once, h.exact⟩
    · exact h
  | operates _ n o q resume a state here waits responds =>
    obtain ⟨f, sweep, lanes⟩ := (State.responds_of_respond responds).lanes
    have failures : state.failures = d.state.failures := State.failures_of_respond responds
    refine h.map (f := f) ?_ lanes failures
    intro l hl
    exact ⟨sweep.scope_eq l, ((way l hl).sweep sweep).2⟩

/-- What a daemon's lanes and failures keep. -/
structure Accounted (d : Daemon η) : Prop where
  way : d.state.Every Lane.GivesWay
  recorded : Recorded d.state

theorem Step.accounted (step : Step a d d') (h : Accounted d) : Accounted d' :=
  ⟨step.givesWay h.way, step.recorded h.way h.recorded⟩

theorem accounted_initial (settings : Settings) (timeout : Span) (attempts : Int)
    (backoff : Backoff) : Accounted (initial (η := η) settings timeout attempts backoff) := by
  refine ⟨?_, ?_, .nil, ?_⟩
  · intro l hl p running
    obtain ⟨_, -, rfl⟩ := List.mem_map.1 hl
    cases running
  · have scopes : ((initial (η := η) settings timeout attempts backoff).state.lanes.map
        Lane.scope) = settings.scopes := by
      simp [initial, State.make, Lane.scope, Function.comp_def]
    rw [scopes]
    exact List.Nodup.filter _ (by decide)
  · intro scope reason
    constructor
    · rintro ⟨⟩
    · rintro ⟨l, hl, -, failed⟩
      obtain ⟨_, -, rfl⟩ := List.mem_map.1 hl
      cases failed

theorem Reaches.accounted (run : Reaches d d') (h : Accounted d) : Accounted d' := by
  induction run with
  | refl => exact h
  | tail _ step ih =>
    obtain ⟨a, step⟩ := step
    exact step.accounted ih

end Daemon

/-! ## All of them -/

/-- As many failures as lanes, and all sessions are recorded. -/
theorem Recorded.length_eq_iff {s : State η} (h : Recorded s) :
    s.failures.length = s.lanes.length ↔
      s.Every fun l => ∃ reason, (l.scope, reason) ∈ s.failures := by
  have among : s.failures.map Prod.fst ⊆ s.lanes.map Lane.scope := by
    intro scope member
    obtain ⟨⟨_, reason⟩, recorded, rfl⟩ := List.mem_map.1 member
    obtain ⟨l, hl, same, -⟩ := (h.exact _ _).1 recorded
    exact same ▸ List.mem_map_of_mem hl
  have fewer := (h.once.subperm among).length_le
  simp only [List.length_map] at fewer
  constructor
  · intro equal l hl
    -- Lists without repetition, one among the other and as long, are permutations.
    have perm : (s.failures.map Prod.fst).Perm (s.lanes.map Lane.scope) :=
      (h.once.subperm among).perm_of_length_le (by simp [equal])
    obtain ⟨⟨_, reason⟩, recorded, same⟩ :=
      List.mem_map.1 (perm.mem_iff.2 (List.mem_map_of_mem hl))
    exact ⟨reason, by rwa [← same]⟩
  · intro all
    have back : s.lanes.map Lane.scope ⊆ s.failures.map Prod.fst := by
      intro scope member
      obtain ⟨l, hl, rfl⟩ := List.mem_map.1 member
      obtain ⟨reason, recorded⟩ := all l hl
      exact List.mem_map.2 ⟨_, recorded, rfl⟩
    have more := (h.scopes.subperm back).length_le
    simp only [List.length_map] at more
    omega

end UnitWatch.Supervisor
