import UnitWatch.Proofs.Session.Ownership

/-!
# Sessions that are stopped

A session may be stopped wherever it waits: while it opens a connection, in the middle of a
discovery, while it listens or pauses, and on the way out of a connection. Whatever its surroundings
answer, what it leaves behind is known (`stage_leaves`):

- every connection but the last is closed, the registry is empty;
- the last connection is closed too, and the session is not connected any more, unless the session
  ended because a subscription could not be given back on the way out.

Bus faults of such a release are only noted. So if connections fail in their documented ways, there
is one way to leave a connection open: being stopped while a release on the way out is in progress
(`closed_unless_release_stopped`).
-/

namespace UnitWatch.Session

open Safe (Ends)
open Ownership (calls calls_quiet Onward Any)

variable {η : Type}

namespace Cancellation

/-! ## Connections -/

/-- A connection that was closed, once and at last. -/
def Shut (calls : List (Call η)) : Prop := ∃ before, calls = .closed :: before ∧ .closed ∉ before

/-- All connections but the current one are closed. -/
def Open (w : Trace η) : Prop :=
  ∃ current older, connections (calls w) = current :: older ∧ .closed ∉ current ∧
    ∀ old ∈ older, Shut old

def AllShut (w : Trace η) : Prop := ∀ current ∈ connections (calls w), Shut current

variable {w : Trace η}

theorem AllShut.opened (h : AllShut w) : Open (⟨.open, .ok ()⟩ :: w) :=
  ⟨[], connections (calls w), rfl, by simp, h⟩

/-- Only two requests are calls that begin or end a connection. -/
theorem call?_inner {e : Exchange η} (notOpen : e.request ≠ .open) (notClose : e.request ≠ .close) :
    e.call? ≠ some .opened ∧ e.call? ≠ some .closed := by
  unfold Exchange.call?
  split
  · exact absurd rfl notOpen
  · simp
  · simp
  · exact absurd rfl notClose
  · simp

theorem Open.answered (h : Open w) {q : Request η} (notOpen : q ≠ .open) (notClose : q ≠ .close)
    (a : Answer q) : Open (⟨q, a⟩ :: w) := by
  obtain ⟨current, older, split, open', shut⟩ := h
  cases call : (⟨q, a⟩ : Exchange η).call? with
  | none =>
    rw [Open, calls_quiet call]
    exact ⟨current, older, split, open', shut⟩
  | some x =>
    have inner : x ≠ .opened ∧ x ≠ .closed := by
      simpa [call] using call?_inner (e := ⟨q, a⟩) notOpen notClose
    have grown : connections (calls (⟨q, a⟩ :: w)) = (x :: current) :: older := by
      rw [calls, List.filterMap_cons, call]
      show connections (x :: calls w) = _
      rw [connections, split]
      exact inner.1
    refine ⟨x :: current, older, grown, ?_, shut⟩
    rw [List.mem_cons, not_or]
    exact ⟨inner.2.symm, open'⟩

theorem Open.closed (h : Open w) (a : Answer (.close : Request η)) :
    AllShut (⟨.close, a⟩ :: w) := by
  obtain ⟨current, older, split, open', shut⟩ := h
  have all : connections (calls (⟨.close, a⟩ :: w)) = (.closed :: current) :: older := by
    show connections (.closed :: calls w) = _
    rw [connections, split]
    intro same
    cases same
  intro calls member
  rw [all, List.mem_cons] at member
  rcases member with rfl | member
  · exact ⟨current, rfl, open'⟩
  · exact shut calls member

/-! ## Steps -/

/-- Surroundings may answer as they are allowed to; nothing is asked of the requests. -/
abbrev Unasked (_ : Trace η) (_ : State η) (_ : Request η) : Prop := True

/-- There is a connection, and the session has reported it. -/
structure Serving (w : Trace η) (s : State η) : Prop where
  isOpen : Open w
  connected : s.connected = true

/-- There is a connection. What is tracked is tracked on one that was reported. -/
structure Attached (w : Trace η) (s : State η) : Prop where
  isOpen : Open w
  reported : s.registry.entries = [] ∨ s.connected = true

/-- After a connection was closed there is nothing. -/
structure Over (w : Trace η) (s : State η) : Prop where
  shut : AllShut w
  empty : s.registry.entries = []
  connected : s.connected = false

/-- The last exchange is a release that failed, and not by a bus fault. -/
def Unreleased (allowed : (q : Request η) → Answer q → Prop) (w : Trace η) (f : Failure) : Prop :=
  (∀ g, f = .fault g → g.isBusFault = false) ∧
    ∃ k rest, w = ⟨.unsubscribe k, .error f⟩ :: rest ∧ allowed (.unsubscribe k) (.error f)

/-- The session has ended in the middle of a release, on the way out of a connection. -/
structure Abandoned (allowed : (q : Request η) → Answer q → Prop) (w : Trace η) (s : State η)
    (f : Failure) : Prop where
  isOpen : Open w
  empty : s.registry.entries = []
  connected : s.connected = true
  last : Unreleased allowed w f

/-- What a session leaves behind. -/
def Left (allowed : (q : Request η) → Answer q → Prop) (w : Trace η) (s : State η) (f : Failure) :
    Prop :=
  Over w s ∨ Abandoned allowed w s f

theorem Serving.attached {s : State η} (h : Serving w s) : Attached w s :=
  ⟨h.isOpen, .inr h.connected⟩

variable {allowed : (q : Request η) → Answer q → Prop} {c : Plan} {s : State η} {α : Type}

/-- A step that keeps the connection, whatever it ends with. -/
abbrev Serves (allowed : (q : Request η) → Answer q → Prop) (P : α → Prop) (x : Step η α) : Prop :=
  Upholds allowed Unasked Serving (fun w s _ => Serving w s) P x

theorem fail_serves {P : α → Prop} (f : Failure) : Serves allowed P (Action.fail f : Step η α) :=
  Upholds.fail fun _ _ hw => hw

theorem ask_serves {q : Request η} (notOpen : q ≠ .open) (notClose : q ≠ .close) :
    Serves allowed Any (ask q) :=
  (Upholds.ask (fun _ _ _ => trivial) fun _ _ a _ hw =>
    ⟨hw.isOpen.answered notOpen notClose a, hw.connected⟩).imp fun _ _ => trivial

theorem demand_serves {q : Step η (Except Failure α)} (h : Serves allowed Any q) :
    Serves allowed Any (demand q) := h.demand fun _ _ _ hw => hw

theorem note_serves (n : Notice) : Serves allowed Any (note n : Step η Unit) :=
  ask_serves (by simp) (by simp)

theorem modifyRegistry_serves (f : Registry η → Registry η) :
    Serves allowed Any (modifyRegistry f : Step η Unit) :=
  Upholds.modify fun _ _ hw => ⟨hw.isOpen, hw.connected⟩

theorem resync_serves (r : Registry η) (snapshot : Snapshot) :
    Serves allowed Any (resync r snapshot : Step η _) :=
  (Upholds.resync (fun _ _ _ => trivial) (fun _ _ now hw =>
    ⟨hw.isOpen.answered (by simp) (by simp) now, hw.connected⟩) r snapshot).imp fun _ _ => trivial

theorem release_serves (k : η) : Serves allowed Any (release k) := by
  refine (ask_serves (by simp) (by simp)).bind fun a _ => ?_
  split
  · exact Upholds.pure trivial
  · split
    · exact note_serves _
    · exact fail_serves _
  · exact fail_serves _

theorem track_serves (unit : String) : Serves allowed Any (track unit : Step η Unit) := by
  refine (ask_serves (by simp) (by simp)).bind fun a _ => ?_
  split
  · exact note_serves _
  · exact fail_serves _
  · refine (ask_serves (by simp) (by simp)).bind fun a _ => ?_
    split
    · exact (modifyRegistry_serves _).bind fun _ _ => note_serves _
    · exact (note_serves _).bind fun _ _ => release_serves _
    · exact fail_serves _
    · split
      · exact (modifyRegistry_serves _).bind fun _ _ => note_serves _
      · exact (modifyRegistry_serves _).bind fun _ _ => note_serves _

theorem handleSignal_serves (c : Plan) (signal : Signal) :
    Serves allowed Any (handleSignal c signal : Step η (Option Transition)) := by
  cases signal with
  | changed raw =>
    refine Upholds.get.bind fun s _ => ?_
    simp only
    split
    · exact Upholds.pure trivial
    · split
      · exact (note_serves _).bind fun _ _ => .pure trivial
      · refine (ask_serves (by simp) (by simp)).bind fun now _ => ?_
        refine (modifyRegistry_serves _).bind fun _ _ => ?_
        split
        · exact (note_serves _).bind fun _ _ => .pure trivial
        · exact Upholds.pure trivial
  | added unit =>
    refine Upholds.get.bind fun s _ => ?_
    simp only
    split
    · exact (track_serves unit).bind fun _ _ => .pure trivial
    · exact Upholds.pure trivial
  | removed unit =>
    refine Upholds.get.bind fun s _ => ?_
    split
    · refine (modifyRegistry_serves _).bind fun _ _ => ?_
      refine (release_serves _).bind fun _ _ => ?_
      exact (note_serves _).bind fun _ _ => .pure trivial
    · exact Upholds.pure trivial
  | other kind => exact (note_serves _).bind fun _ _ => .pure trivial

theorem listenOnce_serves (c : Plan) : Serves allowed Any (listenOnce c : Step η Unit) := by
  refine (demand_serves (ask_serves (by simp) (by simp))).bind fun signal _ => ?_
  refine (handleSignal_serves c signal).bind fun event _ => ?_
  split
  · exact demand_serves (ask_serves (by simp) (by simp))
  · exact Upholds.pure trivial

/-! ## Connections from start to end -/

/-- What a connection comes to: the session stays, or the next connection is due. -/
def Comes (w : Trace η) (s : State η) : Option Stage → Prop
  | none => Serving w s
  | some next => Attached w s ∧ Onward (some next)

abbrev Ending : Trace η → State η → Except Failure (Option Stage) → Prop :=
  Ends Comes fun w s _ => Attached w s

theorem Attached.answered (h : Attached w s) {q : Request η} (notOpen : q ≠ .open)
    (notClose : q ≠ .close) (a : Answer q) : Attached (⟨q, a⟩ :: w) s :=
  ⟨h.isOpen.answered notOpen notClose a, h.reported⟩

/-- A step on a connection that was reported. -/
theorem Serves.attached {P : α → Prop} {x : Step η α} (h : Serves allowed P x) (hw : Serving w s) :
    Safe (observed allowed) Unasked (Ends (fun w s _ => Serving w s) fun w s _ => Attached w s)
      (x s) w := by
  refine (h w s hw).weaken fun w s r hr => ?_
  cases r with
  | ok _ => exact hr.1
  | error _ => exact hr.attached

/-- Between two connections nothing changes. -/
theorem interlude_comes {basis : Option Snapshot}
    {p : Process (State η) (Answer (η := η)) (Except Failure (Option Stage))}
    (between : Interlude basis s p) (h : Attached w s) :
    Safe (observed allowed) Unasked Ending p w := by
  cases between with
  | fails f => exact done_observed h
  | pauses _ delay attempt =>
    refine ask_observed trivial ?_
    intro a _
    have noted := h.answered (q := .note _) (by simp) (by simp) a
    refine ask_observed trivial ?_
    intro a _
    have slept := noted.answered (q := .sleep delay) (by simp) (by simp) a
    cases a with
    | error f => exact done_observed slept
    | ok _ => exact done_observed ⟨slept, by simp [Onward]⟩

theorem start_attached (h : Open w) (empty : s.registry.entries = []) :
    Safe (observed allowed) Unasked (Ends (fun w s _ => Serving w s) fun w s _ => Attached w s)
      (start c s) w := by
  refine ask_observed trivial ?_
  intro a _
  have tried := h.answered (q := .connect) (by simp) (by simp) a
  cases a with
  | error f => exact done_observed ⟨tried, .inl empty⟩
  | ok _ =>
    have discovers : Serves allowed Any (do
        demand (ask .subscribeManager)
        let units ← demand (ask .listUnits)
        Action.each track (units.filter c.watches)
        let s ← Action.get
        note (.started units.length s.registry.size) : Step η Unit) := by
      refine (demand_serves (ask_serves (by simp) (by simp))).bind fun _ _ => ?_
      refine (demand_serves (ask_serves (by simp) (by simp))).bind fun units _ => ?_
      refine (Upholds.each track_serves _).bind fun _ _ => ?_
      exact Upholds.get.bind fun _ _ => note_serves _
    exact discovers.attached ⟨tried, rfl⟩

theorem openConnection_comes (snapshot : Option Snapshot) (attempt : Nat) (h : Open w)
    (empty : s.registry.entries = []) :
    Safe (observed allowed) Unasked Ending (openConnection c snapshot attempt s) w := by
  refine (start_attached h empty).attempt.seq ?_
  intro w s r hr
  split
  · exact done_observed hr
  · next snap =>
    -- Whichever of its requests fails, the resync as a whole leaves the connection open.
    have resyncs : Serves allowed (· = none) (do
        let s ← Action.get
        let events ← resync s.registry snap
        Action.each (fun t => demand (ask (.emit t))) events
        note (.resynced s.registry.size)
        return none : Step η (Option Stage)) := by
      refine Upholds.get.bind fun s _ => ?_
      refine (resync_serves s.registry snap).bind fun ts _ => ?_
      refine (Upholds.each (fun t => demand_serves (ask_serves (by simp) (by simp))) ts).bind
        fun _ _ => ?_
      exact (note_serves _).bind fun _ _ => .pure rfl
    refine (resyncs w s hr).weaken fun w s r hr => ?_
    cases r with
    | error _ => exact hr.attached
    | ok next =>
      obtain ⟨serving, rfl⟩ := hr
      exact serving
  · split
    · exact interlude_comes (retry_interlude c snapshot attempt _ s) hr
    · exact done_observed hr
  · exact done_observed hr

theorem listen_comes (h : Serving w s) :
    Safe (observed allowed) Unasked Ending (listen c s) w := by
  refine ((listenOnce_serves c).attached h).attempt.seq ?_
  intro w s r hr
  split
  · exact done_observed hr
  · exact interlude_comes (recover_interlude c s) hr
  · exact done_observed hr

/-! ## The way out -/

/-- A subscription is given back, or the session ends with how this failed. -/
theorem release_gives (k : η) (h : Open w) :
    Safe (observed allowed) Unasked
      (Ends (fun w s' _ => Open w ∧ s' = s)
        fun w s' f => Open w ∧ s' = s ∧ Unreleased allowed w f)
      (release k s) w := by
  refine ask_observed trivial ?_
  intro a ha
  have given := h.answered (q := .unsubscribe k) (by simp) (by simp) a
  rcases a with f | _
  · cases f with
    | fault f =>
      show Safe _ _ _ ((if f.isBusFault then _ else _ : Step η Unit) s) _
      by_cases ofBus : f.isBusFault
      · rw [if_pos ofBus]
        refine ask_observed trivial ?_
        intro a _
        exact done_observed ⟨given.answered (by simp) (by simp) a, rfl⟩
      · rw [if_neg ofBus]
        exact done_observed ⟨given, rfl, by simpa using ofBus, k, w, rfl, ha⟩
    | crash _ => exact done_observed ⟨given, rfl, by simp, k, w, rfl, ha⟩
    | cancelled => exact done_observed ⟨given, rfl, by simp, k, w, rfl, ha⟩
  · exact done_observed ⟨given, rfl⟩

/-- On the way out the registry is emptied, and the connection is closed unless a release fails. -/
theorem teardown_leaves (h : Attached w s) :
    Safe (observed allowed) Unasked (Ends (fun w s _ => Over w s) (Left allowed)) (teardown s)
      w := by
  show Safe _ _ _ ((Action.each (fun e => release e.subscription) s.registry.entries >>= _)
    { s with registry := s.registry.drain }) w
  have released : Safe (observed allowed) Unasked
      (Ends (fun w s' _ => Open w ∧ s' = { s with registry := s.registry.drain })
        fun w s' f => Abandoned allowed w s' f)
      (Action.each (fun e => release e.subscription) s.registry.entries
        { s with registry := s.registry.drain }) w := by
    -- While entries are left the session counts as connected, and a stop leaves it so.
    refine Safe.each (I := fun (rest : List (Entry η)) w s' => Open w ∧
      s' = { s with registry := s.registry.drain } ∧ (rest = [] ∨ s.connected = true))
      ?_ ?_ (fun _ _ => nofun) _ ⟨h.isOpen, rfl, ?_⟩
    · rintro e rest w s' ⟨hw, rfl, tracked⟩
      have connected := tracked.resolve_left (by simp)
      refine (release_gives e.subscription hw).weaken fun w s' r hr => ?_
      cases r with
      | ok _ => exact ⟨hr.1, hr.2, .inr connected⟩
      | error f =>
        obtain ⟨hw, rfl, last⟩ := hr
        exact ⟨hw, rfl, connected, last⟩
    · rintro w s' ⟨hw, same, -⟩
      exact done_observed ⟨hw, same⟩
    · exact h.reported
  refine released.andThen ?_ fun w s f h => done_observed (.inr h)
  rintro w s' _ ⟨hw, rfl⟩
  refine ask_observed trivial ?_
  intro a _
  have past : Over (⟨.close, a⟩ :: w) { s with registry := s.registry.drain, connected := false } :=
    ⟨hw.closed a, rfl, rfl⟩
  cases a with
  | ok _ => exact done_observed past
  | error f => exact done_observed (.inl past)

/-- Where a stage can start. -/
def Ready : Stage → Trace η → State η → Prop
  | .opening _ _, w, s => Over w s
  | .listening, w, s => Serving w s

abbrev Leaves (allowed : (q : Request η) → Answer q → Prop) :
    Trace η → State η → Except Failure Stage → Prop :=
  Hands Ready (Left allowed)

/-- A connection is left with everything released, or in the middle of a release. -/
theorem closing_leaves {x : Step η (Option Stage)}
    (h : Safe (observed allowed) Unasked Ending (x s) w) :
    Safe (observed allowed) Unasked (Leaves allowed) (closing x s) w := by
  refine closing_safe h ?_ ?_ ?_
  · intro w s serving
    exact done_observed serving
  · rintro w s next ⟨attached, onward⟩
    refine (teardown_leaves attached).andThen ?_ fun w s f left => done_observed left
    intro w s _ past
    cases next with
    | opening snapshot attempt => exact done_observed past
    | listening => exact absurd rfl onward
  · intro w s f attached
    refine (teardown_leaves attached).andThen ?_ fun w s f left => done_observed left
    intro w s _ past
    exact done_observed (.inl past)

/-- **What a stage leaves behind**, whatever it is answered. -/
theorem stage_leaves (st : Stage) (w : Trace η) (s : State η) (h : Ready st w s) :
    Safe (observed allowed) Unasked (Leaves allowed) (stage c st s) w := by
  cases st with
  | listening => exact closing_leaves (listen_comes h)
  | opening snapshot attempt =>
    refine ask_observed trivial ?_
    intro a _
    cases a with
    | error f =>
      have past : Over (⟨.open, .error f⟩ :: w) s := by
        refine ⟨?_, h.empty, h.connected⟩
        rw [AllShut, calls_quiet rfl]
        exact h.shut
      exact done_observed (.inl past)
    | ok _ => exact closing_leaves (openConnection_comes snapshot attempt h.shut.opened h.empty)

/-! ## Runs -/

/-- What a session leaves behind that has ended, whatever it was answered. -/
theorem left_of_run {p : Phase η} {f : Failure}
    (run : Runs c (observed allowed) ([], begin c) (w, p)) (ended : p.outcome? = some f) :
    Left allowed w p.state f :=
  run.outcome (fun st w s h => stage_leaves st w s h) ⟨nofun, rfl, rfl⟩ ended

/-- Connections fail in their documented ways only; the session may be stopped wherever it waits. -/
def Conduct (q : Request η) (a : Answer q) : Prop :=
  Documented q a ∨ Stopped q a ∨ cancelled? q = some a

/-- **What a session that may be stopped anywhere leaves behind.** When it has ended, its registry
is empty, and every connection before the last is closed. One of two things is true of the last one:

- it is closed, and the session is not connected;
- the session was stopped while it gave back a subscription on the way out, and then the connection
  is never closed and the session still counts as connected. -/
theorem closed_unless_release_stopped (c : Plan) {w : Trace η} {s : State η} {f : Failure}
    (run : Runs c (observed Conduct) ([], begin c) (w, .done s (.error f))) :
    s.registry.entries = [] ∧ (∀ old ∈ (connections (calls w)).tail, Shut old) ∧
      ((∀ current ∈ connections (calls w), Shut current) ∧ s.connected = false ∨
        (∃ k rest, f = .cancelled ∧ w = ⟨.unsubscribe k, .error .cancelled⟩ :: rest) ∧
          (∃ current ∈ (connections (calls w)).head?, .closed ∉ current) ∧
            s.connected = true) := by
  rcases left_of_run run rfl with past | abandoned
  · refine ⟨past.empty, ?_, .inl ⟨past.shut, past.connected⟩⟩
    intro old member
    exact past.shut old (List.mem_of_mem_tail member)
  · obtain ⟨⟨current, older, split, open', shut⟩, empty, connected, fault, k, rest, last,
      conduct⟩ := abandoned
    have stopped : f = .cancelled := by
      rcases conduct with documented | stopped | cancelled
      · cases documented with
        | notUnsubscribed _ g ofBus =>
          rw [fault g rfl] at ofBus
          cases ofBus
      · cases stopped
      · cases cancelled
        rfl
    subst stopped
    rw [split]
    exact ⟨empty, shut, .inr ⟨⟨k, rest, rfl, last⟩, ⟨current, rfl, open'⟩, connected⟩⟩

/-- A session is stopped in the middle of its discovery, when it has subscribed to a unit and
fetches its state: the connection is closed. -/
theorem closed_when_stopped_fetching :
    ∃ w : Trace Nat, Runs .everything (observed Conduct) ([], begin .everything)
        (w, .done (.initial .system) (.error .cancelled)) ∧
      connections (calls w) = [[.closed, .subscribed 7]] ∧
      ∀ current ∈ connections (calls w), Shut current := by
  obtain ⟨w, p, run, rfl, all⟩ : Reaches .everything Conduct
      (([] : Trace Nat), begin .everything) fun w p =>
        p = .done (.initial .system) (.error .cancelled) ∧
          connections (calls w) = [[.closed, .subscribed 7]] := by
    refine .answer (.inl .opened) ?_
    refine .answer (.inl .connected) ?_
    refine .answer (.inl .subscribedManager) ?_
    refine .answer (.inl (.listed ["web"])) ?_
    refine .answer (.inl (.subscribed "web" 7)) ?_
    refine .answer (.inr (.inr rfl)) ?_
    refine .answer (.inl .closed) ?_
    exact .here ⟨rfl, rfl⟩
  obtain ⟨-, -, ⟨shut, -⟩ | ⟨-, -, connected⟩⟩ := closed_unless_release_stopped .everything run
  · exact ⟨w, run, all, shut⟩
  · cases connected

/-- A connection is lost and then left, and the session is stopped while it gives back the
subscription of its only unit: the connection is not closed, and the session still counts as
connected. -/
theorem connection_stays_open :
    ¬∀ (w : Trace Nat) (s : State Nat) (f : Failure),
      Runs .everything (observed Conduct) ([], begin .everything) (w, .done s (.error f)) →
        (∀ current ∈ connections (calls w), Shut current) ∧ s.registry.entries = [] ∧
          s.connected = false := by
  intro released
  obtain ⟨w, p, run, rfl, all⟩ : Reaches .everything Conduct
      (([] : Trace Nat), begin .everything) fun w p =>
        p = .done ⟨⟨.system, []⟩, true⟩ (.error .cancelled) ∧
          connections (calls w) = [[.unsubscribed 7, .subscribed 7]] := by
    refine .answer (.inl .opened) ?_
    refine .answer (.inl .connected) ?_
    refine .answer (.inl .subscribedManager) ?_
    refine .answer (.inl (.listed ["web"])) ?_
    refine .answer (.inl (.subscribed "web" 7)) ?_
    refine .answer (.inl (.fetched ⟨"web", "active", some 3, none⟩)) ?_
    refine .answer (.inl (.noted _)) ?_
    refine .answer (.inl (.noted _)) ?_
    refine .next ?_
    -- The connection is lost, and the session is stopped while it releases the unit.
    refine .answer (.inl (.lost "system")) ?_
    refine .answer (.inl (.noted _)) ?_
    refine .answer (.inl (.slept _)) ?_
    refine .answer (.inr (.inr rfl)) ?_
    exact .here ⟨rfl, rfl⟩
  obtain ⟨before, closed, -⟩ :=
    (released w _ _ run).1 [.unsubscribed 7, .subscribed 7] (by simp [all])
  cases closed

end Cancellation

end UnitWatch.Session
