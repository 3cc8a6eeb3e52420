import UnitWatch.Proofs.Session.Resync
import UnitWatch.Proofs.Session.Trace
import UnitWatch.Proofs.Session.Unwatched

/-!
# The order of calls

On every connection a session calls in the same order. It connects, subscribes to the manager, and
lists the units; it tries every watched unit of the listing once, in the order of the listing; only
then does it wait for signals. A state is fetched right after the unit was subscribed to. Later a unit
is tried only when it was just added and is not tracked. The connection is closed last.

**The protocol** (`Goes`). Which call may come next depends on a position, and the answer leads to the
next position. A trace `Follows` the protocol if its calls lead from one position to the next, from the
first connection on.

**The footprint** (`Footprint`). Calls about units are about watched ones, and so are events; when an
event is handed out, the registry holds the state that it leads to.

Main statement: every run follows the protocol and keeps to the footprint (`calls_in_order`), as long
as connections fail in their documented ways only and the session is stopped, if at all, where it waits
for others.
-/

namespace UnitWatch.Session.CallOrder

open Safe (Succeeds Ends)

variable {η : Type}

/-! ## The protocol -/

/-- What has been called on the current connection. -/
inductive Position where
  /-- There is no connection, or the last one has been closed. -/
  | apart
  | made
  | connected
  /-- The manager has been subscribed to. -/
  | attached
  /-- The units have been listed; these watched ones are still to be tried, in this order. -/
  | tracking (rest : List String)
  /-- A unit has just been subscribed to; after its state was fetched it goes on as said. -/
  | subscribed (unit : String) (onward : Position)
  /-- The last signal has been taken; it may have said that a unit was added, and then this unit can
  be tried. -/
  | listening (added : Option String)
  /-- The connection could not be started. -/
  | refused
  /-- There are no more signals. -/
  | ended

/-- The unit that a signal says was added. -/
def added? : Signal → Option String
  | .added u => some u
  | _ => none

namespace Position

/-- A unit can be tried, and what comes after that. -/
inductive Offers (c : Plan) : Position → String → Position → Prop
  | listed (u : String) (rest : List String) : Offers c (.tracking (u :: rest)) u (.tracking rest)
  | added {u : String} (watched : c.watches u = true) :
      Offers c (.listening (some u)) u (.listening none)

/-- All units of the listing have been tried. -/
inductive Listens : Position → Prop
  | discovered : Listens (.tracking [])
  | listening (added : Option String) : Listens (.listening added)

/-- The units have been listed, and no fetch is due. -/
inductive Releases : Position → Prop
  | tracking (rest : List String) : Releases (.tracking rest)
  | listening (added : Option String) : Releases (.listening added)
  | ended : Releases .ended

/-- The connection can be closed: it could not be started, or all units of the listing have been
tried. -/
inductive Closes : Position → Prop
  | refused : Closes .refused
  | ended : Closes .ended
  | listens {here : Position} (h : Listens here) : Closes here

end Position

/-- Requests that are no calls on a connection. -/
def Aside : Request η → Prop
  | .emit _ | .sleep _ | .clock | .note _ => True
  | _ => False

/-- **The protocol.** A call that may come at a position, and where its answer leads. -/
inductive Goes (c : Plan) : Position → Exchange η → Position → Prop
  | opens : Goes c .apart ⟨.open, .ok ()⟩ .made
  | connects : Goes c .made ⟨.connect, .ok ()⟩ .connected
  | refuses (f : Failure) : Goes c .made ⟨.connect, .error f⟩ .refused
  | attaches : Goes c .connected ⟨.subscribeManager, .ok ()⟩ .attached
  | detaches (f : Failure) : Goes c .connected ⟨.subscribeManager, .error f⟩ .refused
  | lists (units : List String) :
      Goes c .attached ⟨.listUnits, .ok units⟩ (.tracking (units.filter c.watches))
  | listsNone (f : Failure) : Goes c .attached ⟨.listUnits, .error f⟩ .refused
  | subscribes {here onward : Position} {u : String} (h : here.Offers c u onward) (k : η) :
      Goes c here ⟨.subscribe u, .ok k⟩ (.subscribed u onward)
  | skips {here onward : Position} {u : String} (h : here.Offers c u onward) (f : Failure) :
      Goes c here ⟨.subscribe u, .error f⟩ onward
  | fetches (u : String) (onward : Position) (a : Except Failure RawState) :
      Goes c (.subscribed u onward) ⟨.fetch u, a⟩ onward
  | hears {here : Position} (h : here.Listens) (s : Signal) :
      Goes c here ⟨.nextSignal, .ok s⟩ (.listening (added? s))
  | ends {here : Position} (h : here.Listens) (f : Failure) :
      Goes c here ⟨.nextSignal, .error f⟩ .ended
  | releases {here : Position} (h : here.Releases) (k : η) (a : Except Failure Unit) :
      Goes c here ⟨.unsubscribe k, a⟩ here
  | closes {here : Position} (h : here.Closes) (a : Except Failure Unit) :
      Goes c here ⟨.close, a⟩ .apart
  | aside (here : Position) {q : Request η} (h : Aside q) (a : Answer q) : Goes c here ⟨q, a⟩ here

/-- A trace whose calls keep to the protocol, and where they have led. -/
inductive Follows (c : Plan) : Trace η → Position → Prop
  | nothing : Follows c [] .apart
  | exchange {w : Trace η} {here next : Position} {e : Exchange η} (h : Follows c w here)
      (step : Goes c here e next) : Follows c (e :: w) next

/-! ## The footprint -/

/-- Names occur once, and all of them are watched. -/
structure Watched (c : Plan) (r : Registry η) : Prop where
  wellFormed : r.WellFormed
  watches : ∀ e ∈ r.entries, c.watches e.unit.name = true

/-- Calls about units and events are about watched units, and an event leads to the state that the
registry holds. -/
def Footprint (c : Plan) (s : State η) : Request η → Prop
  | .subscribe u | .fetch u => c.watches u = true
  | .emit t => c.watches t.unit.name = true ∧ s.registry.stateOf t.unit.name = some t.current
  | _ => True

/-- Connections that fail in their documented ways only, and consumers that may stop the session
where it waits for others. -/
def Conduct (q : Request η) (a : Answer q) : Prop := Documented q a ∨ Stopped q a

/-- At a position, with watched units only in the registry. -/
structure At (c : Plan) (here : Position) (w : Trace η) (s : State η) : Prop where
  follows : Follows c w here
  watched : Watched c s.registry

/-- The protocol has a rule for the request, whatever it is answered; once signals are taken, a unit
is tried only if it is not tracked. -/
structure Permits (c : Plan) (here : Position) (s : State η) (q : Request η) : Prop where
  goes : ∀ a, Conduct q a → ∃ next, Goes c here ⟨q, a⟩ next
  footprint : Footprint c s q
  fresh : ∀ u added, q = .subscribe u → here = .listening added → s.registry.get? u = none

def AtRequest (c : Plan) (w : Trace η) (s : State η) (q : Request η) : Prop :=
  ∃ here, At c here w s ∧ Permits c here s q

section

variable {c : Plan} {r : Registry η}

namespace Watched

theorem empty (h : r.entries = []) : Watched c r :=
  ⟨⟨by simp [h], by simp [h]⟩, by simp [h]⟩

theorem put (h : Watched c r) {e : Entry η} (scope : e.unit.scope = r.scope)
    (watched : c.watches e.unit.name = true) : Watched c (r.put e) := by
  refine ⟨h.wellFormed.put scope, ?_⟩
  intro x hx
  rcases Registry.mem_put hx with rfl | ⟨hx, -⟩
  · exact watched
  · exact h.watches x hx

theorem enroll (h : Watched c r) {u : String} (watched : c.watches u = true) (k : η) {x : RawState}
    (hx : x.unit = u) : Watched c (r.enroll u k x) := by
  rw [Registry.enroll_eq_put r k hx]
  exact h.put rfl watched

theorem evict (h : Watched c r) (u : String) : Watched c (r.evict u) :=
  ⟨h.wellFormed.evict u, fun e he => h.watches e (List.mem_filter.1 he).1⟩

theorem apply (h : Watched c r) (report : Report) (now : Microseconds) :
    Watched c (r.apply report now).1 := by
  cases hg : r.get? report.unit with
  | none => simpa only [Registry.apply, hg] using h
  | some e =>
    have member := Registry.mem_of_get? hg
    rw [Registry.apply_of_get? now hg]
    refine h.put ?_ ?_
    · rw [Entry.update_unit]
      exact h.wellFormed.scope e member
    · rw [Entry.update_unit]
      exact h.watches e member

/-- The event of a report leads to what the registry holds after it. -/
theorem footprint_of_apply (h : Watched c r) {report : Report} {now : Microseconds} {e : Entry η}
    {t : Transition} (known : r.get? report.unit = some e)
    (event : (e.update report now).2 = some t) (connected : Bool) :
    Footprint c ⟨(r.apply report now).1, connected⟩ (.emit t) := by
  obtain ⟨unit, -, current, -⟩ := Entry.states_of_update_eq_some event
  have name : e.unit.name = report.unit := Registry.name_of_get? known
  rw [Footprint, unit]
  refine ⟨h.watches e (Registry.mem_of_get? known), ?_⟩
  rw [Registry.stateOf_apply now known, if_pos name, current]

/-- The events of a resync lead to what has been discovered. -/
theorem footprint_of_resync (h : Watched c r) {snapshot : Snapshot} {ts : List Transition}
    (known : ts.map Transition.difference = differences r snapshot) {t : Transition} (ht : t ∈ ts)
    (connected : Bool) : Footprint c ⟨r, connected⟩ (.emit t) := by
  obtain ⟨e, he, unit, -, current, -⟩ := (isResync_of_differences h.wellFormed known).sound t ht
  rw [Footprint, unit, Registry.stateOf_of_mem h.wellFormed he]
  exact ⟨h.watches e he, current⟩

end Watched

end

/-! ## Steps -/

section

variable {c : Plan} {here onward : Position} {w : Trace η} {s : State η}

namespace At

theorem exchange {next : Position} {e : Exchange η} (h : At c here w s)
    (step : Goes c here e next) :
    At c next (e :: w) s := ⟨h.follows.exchange step, h.watched⟩

theorem aside {q : Request η} (h : At c here w s) (aside : Aside q) (a : Answer q) :
    At c here (⟨q, a⟩ :: w) s := h.exchange (.aside here aside a)

end At

/-- What is asked aside is permitted everywhere. -/
theorem permits_aside {q : Request η} (aside : Aside q) (footprint : Footprint c s q) :
    Permits c here s q := by
  refine ⟨fun a _ => ⟨here, .aside here aside a⟩, footprint, ?_⟩
  rintro u added rfl
  exact aside.elim

/-- What a step ends with that keeps the position and the state, and does not fail. -/
abbrev Passes (c : Plan) (here : Position) (s : State η) :
    Trace η → State η → Except Failure Unit → Prop :=
  Succeeds fun w s' _ => At c here w s' ∧ s' = s

theorem note_passes (n : Notice) (h : At c here w s) :
    Safe (observed Conduct) (AtRequest c) (Passes c here s) (note n s) w := by
  refine ask_observed ⟨here, h, permits_aside (q := .note n) trivial trivial⟩ ?_
  intro a _
  exact done_observed ⟨h.aside (q := .note n) trivial a, rfl⟩

/-- A subscription is given back, as far as the bus lets it. -/
theorem release_passes (releases : here.Releases) (k : η) (h : At c here w s) :
    Safe (observed Conduct) (AtRequest c) (Passes c here s) (release k s) w := by
  refine ask_observed ⟨here, h, fun a _ => ⟨here, .releases releases k a⟩, trivial, nofun⟩ ?_
  rintro a (documented | stopped)
  · have h := h.exchange (.releases releases k a)
    cases documented with
    | unsubscribed => exact done_observed ⟨h, rfl⟩
    | notUnsubscribed _ f ofBus =>
      show Safe _ _ _ ((if f.isBusFault then _ else _ : Step η Unit) s) _
      rw [if_pos ofBus]
      exact note_passes _ h
  · cases stopped

theorem arrives {p : Process (State η) (Answer (η := η)) (Except Failure Unit)}
    (h : Safe (observed Conduct) (AtRequest c) (Passes c here s) p w) :
    Safe (observed Conduct) (AtRequest c) (Succeeds fun w s _ => At c here w s) p w :=
  h.weaken fun _ _ _ hr => hr.imp fun _ => And.left

/-- Between two units there is no fetch due. -/
theorem Position.Offers.releases {u : String} (h : here.Offers c u onward) : onward.Releases := by
  cases h with
  | listed => exact .tracking _
  | added => exact .listening _

/-- A unit that is offered is tried once. -/
theorem track_at {u : String} (offers : here.Offers c u onward) (watched : c.watches u = true)
    (fresh : ∀ added, here = .listening added → s.registry.get? u = none) (h : At c here w s) :
    Safe (observed Conduct) (AtRequest c) (Succeeds fun w s' _ => At c onward w s')
      (track u s) w := by
  have permitted : Permits c here s (.subscribe u) := by
    refine ⟨?_, watched, ?_⟩
    · rintro (f | k) _
      · exact ⟨_, .skips offers f⟩
      · exact ⟨_, .subscribes offers k⟩
    · rintro _ added ⟨⟩ listening
      exact fresh added listening
  refine ask_observed ⟨here, h, permitted⟩ ?_
  rintro a (documented | stopped)
  on_goal 2 => cases stopped
  -- Without a subscription the unit is skipped; with one it is fetched, or released again.
  cases documented with
  | notSubscribed => exact arrives (note_passes _ (h.exchange (.skips offers _)))
  | subscribed _ k =>
    have due := h.exchange (.subscribes offers k)
    refine ask_observed ⟨_, due, fun a _ => ⟨_, .fetches u onward a⟩, watched, nofun⟩ ?_
    rintro a (documented | stopped)
    on_goal 2 => cases stopped
    have h := due.exchange (.fetches u onward a)
    cases documented with
    | notFetched =>
      refine (note_passes _ h).seq ?_
      rintro w s' _ ⟨h, -⟩
      exact arrives (release_passes offers.releases k h)
    | fetched x =>
      refine Safe.of_eq (enroll_eq x.unit k x s) ?_
      exact arrives (note_passes _ ⟨h.follows, h.watched.enroll watched k rfl⟩)

/-! ## Signals -/

/-- All units of the listing have been tried, and no signal is being handled. -/
def Ready (c : Plan) (w : Trace η) (s : State η) : Prop :=
  ∃ here : Position, here.Listens ∧ At c here w s

/-- The connection can be closed, once the subscriptions have been given back. -/
def Done (c : Plan) (w : Trace η) (s : State η) : Prop :=
  ∃ here : Position, here.Closes ∧ At c here w s ∧ (here.Releases ∨ s.registry.entries = [])

theorem Ready.done (h : Ready c w s) : Done c w s := by
  obtain ⟨here, listens, h⟩ := h
  refine ⟨here, .listens listens, h, .inl ?_⟩
  cases listens with
  | discovered => exact .tracking []
  | listening added => exact .listening added

/-- What a signal leads to: the session can take the next one, and the event is in the footprint. -/
abbrev Handles (c : Plan) (x : Step η (Option Transition)) (w : Trace η) (s : State η) : Prop :=
  Safe (observed Conduct) (AtRequest c) (Succeeds fun w s event => Ready c w s ∧
    ∀ t, event = some t → Footprint c s (.emit t)) (x s) w

theorem handles_none (h : Ready c w s) : Handles c (pure none) w s := by
  refine done_observed ⟨h, ?_⟩
  rintro t ⟨⟩

theorem handles_noted (n : Notice) {added : Option String} (h : At c (.listening added) w s) :
    Handles c (do note n; return none) w s := by
  refine (note_passes n h).seq ?_
  rintro w s _ ⟨h, -⟩
  exact handles_none ⟨_, .listening added, h⟩

theorem changed_handles (x : RawState) (h : At c (.listening none) w s) :
    Handles c (handleSignal c (.changed x)) w s := by
  unfold Handles
  cases hu : s.registry.get? x.unit with
  | none =>
    rw [handleSignal_changed_of_none hu]
    exact handles_none ⟨_, .listening none, h⟩
  | some e =>
    cases hx : x.report? with
    | none =>
      rw [handleSignal_changed_of_unrecognized hu hx]
      exact handles_noted _ h
    | some report =>
      rw [handleSignal_changed hu hx]
      refine ask_observed ⟨_, h, permits_aside (q := .clock) trivial trivial⟩ ?_
      intro (now : Microseconds) _
      have updated : At c (.listening none) (⟨.clock, now⟩ :: w)
          { s with registry := (s.registry.apply report now).1 } :=
        ⟨(h.aside (q := .clock) trivial now).follows, h.watched.apply report now⟩
      have known : s.registry.get? report.unit = some e := RawState.unit_of_report hx ▸ hu
      cases event : (e.update report now).2 with
      | none => exact handles_none ⟨_, .listening none, updated⟩
      | some t =>
        refine ask_observed ⟨_, updated, permits_aside (q := .note _) trivial trivial⟩ ?_
        intro a _
        refine done_observed ⟨⟨_, .listening none, updated.aside (q := .note _) trivial a⟩, ?_⟩
        rintro _ ⟨⟩
        exact h.watched.footprint_of_apply known event s.connected

theorem added_handles (u : String) (h : At c (.listening (some u)) w s) :
    Handles c (handleSignal c (.added u)) w s := by
  unfold Handles
  cases hu : s.registry.get? u with
  | some e =>
    rw [handleSignal_added_of_some hu]
    exact handles_none ⟨_, .listening _, h⟩
  | none =>
    cases watched : c.watches u with
    | false =>
      rw [handleSignal_added_of_not_watched watched]
      exact handles_none ⟨_, .listening _, h⟩
    | true =>
      rw [handleSignal_added hu watched]
      refine (track_at (.added watched) watched (fun _ _ => hu) h).seq ?_
      intro w s _ h
      exact handles_none ⟨_, .listening none, h⟩

theorem removed_handles (u : String) (h : At c (.listening none) w s) :
    Handles c (handleSignal c (.removed u)) w s := by
  unfold Handles
  cases hu : s.registry.get? u with
  | none =>
    rw [handleSignal_removed_of_none hu]
    exact handles_none ⟨_, .listening none, h⟩
  | some e =>
    rw [handleSignal_removed hu]
    have evicted : At c (.listening none) w { s with registry := s.registry.evict u } :=
      ⟨h.follows, h.watched.evict u⟩
    refine (release_passes (.listening none) e.subscription evicted).seq ?_
    rintro w s _ ⟨h, -⟩
    exact handles_noted _ h

theorem handleSignal_handles (signal : Signal) (h : At c (.listening (added? signal)) w s) :
    Handles c (handleSignal c signal) w s := by
  cases signal with
  | changed x => exact changed_handles x h
  | added u => exact added_handles u h
  | removed u => exact removed_handles u h
  | other kind => exact handles_noted _ h

/-- An event in the footprint is taken, or the session is stopped there. -/
theorem emit_at {t : Transition} (footprint : Footprint c s (.emit t)) (h : At c here w s) :
    Safe (observed Conduct) (AtRequest c)
      (Ends (fun w s' _ => At c here w s' ∧ s' = s) fun w s _ => At c here w s)
      (demand (ask (.emit t)) s) w := by
  refine ask_observed ⟨here, h, permits_aside (q := .emit t) trivial footprint⟩ ?_
  intro a _
  have h := h.aside (q := .emit t) trivial a
  cases a with
  | ok _ => exact done_observed ⟨h, rfl⟩
  | error _ => exact done_observed h

theorem listenOnce_ready (h : Ready c w s) :
    Safe (observed Conduct) (AtRequest c) (Ends (fun w s _ => Ready c w s) fun w s _ => Done c w s)
      (listenOnce c s) w := by
  obtain ⟨here, listens, h⟩ := h
  have permitted : Permits c here s .nextSignal := by
    refine ⟨?_, trivial, nofun⟩
    rintro (f | signal) _
    · exact ⟨_, .ends listens f⟩
    · exact ⟨_, .hears listens signal⟩
  refine ask_observed ⟨here, h, permitted⟩ ?_
  rintro (f | signal) _
  · exact done_observed ⟨.ended, .ended, h.exchange (.ends listens f), .inl .ended⟩
  · refine (handleSignal_handles signal (h.exchange (.hears listens signal))).seq ?_
    rintro w s event ⟨⟨here, listens, h⟩, footprint⟩
    cases event with
    | none => exact done_observed ⟨here, listens, h⟩
    | some t =>
      refine (emit_at (footprint t rfl) h).weaken ?_
      rintro w s (f | _) hr
      · exact Ready.done ⟨here, listens, hr⟩
      · exact ⟨here, listens, hr.1⟩

/-! ## Between connections -/

/-- A connection goes on, or is left. -/
abbrev Proceeds (c : Plan) : Trace η → State η → Except Failure (Option Stage) → Prop :=
  Ends (fun w s next => match next with
    | none => Ready c w s
    | some next => Done c w s ∧ next ≠ .listening) fun w s _ => Done c w s

theorem interlude_proceeds {basis : Option Snapshot}
    {p : Process (State η) (Answer (η := η)) (Except Failure (Option Stage))}
    (between : Interlude basis s p) (h : Done c w s) :
    Safe (observed Conduct) (AtRequest c) (Proceeds c) p w := by
  cases between with
  | fails f => exact done_observed h
  | pauses _ delay attempt =>
    obtain ⟨here, closes, h, releases⟩ := h
    refine ask_observed ⟨here, h, permits_aside (q := .note _) trivial trivial⟩ ?_
    intro a _
    have h := h.aside (q := .note _) trivial a
    refine ask_observed ⟨here, h, permits_aside (q := .sleep delay) trivial trivial⟩ ?_
    intro a _
    have h := h.aside (q := .sleep delay) trivial a
    cases a with
    | ok _ => exact done_observed ⟨⟨here, closes, h, releases⟩, nofun⟩
    | error _ => exact done_observed ⟨here, closes, h, releases⟩

theorem listen_proceeds (h : Ready c w s) :
    Safe (observed Conduct) (AtRequest c) (Proceeds c) (listen c s) w := by
  refine (listenOnce_ready h).attempt.seq ?_
  intro w s r h
  split
  · exact done_observed h
  · exact interlude_proceeds (recover_interlude c s) h
  · exact done_observed h

/-! ## Opening -/

/-- Every unit that is to be tried is tried once, in order. -/
theorem discovery_at {units : List String} (watched : ∀ u ∈ units, c.watches u = true)
    (h : At c (.tracking units) w s) :
    Safe (observed Conduct) (AtRequest c) (Succeeds fun w s _ => At c (.tracking []) w s)
      (Action.each track units s) w := by
  refine Safe.eachSucceeds (I := fun rest w s => (∀ u ∈ rest, c.watches u = true) ∧
    At c (.tracking rest) w s) ?_ ?_ units ⟨watched, h⟩
  · rintro u rest w s ⟨watched, h⟩
    obtain ⟨now, later⟩ := List.forall_mem_cons.1 watched
    refine (track_at (.listed u rest) now nofun h).weaken fun w s r hr => hr.imp ?_
    exact fun _ h => ⟨later, h⟩
  · intro w s h
    exact done_observed h.2

/-- A connection that could not be started. -/
theorem done_of_refused (h : At c .refused w s) (empty : s.registry.entries = []) : Done c w s :=
  ⟨.refused, .refused, h, .inr empty⟩

theorem start_ready (h : At c .made w s) (empty : s.registry.entries = []) :
    Safe (observed Conduct) (AtRequest c)
      (Ends (fun w s _ => At c (.tracking []) w s) fun w s _ => Done c w s) (start c s) w := by
  -- Request by request: it is permitted, and if it fails, there is nothing to release.
  have permitted : Permits c .made s .connect := by
    refine ⟨?_, trivial, nofun⟩
    rintro (f | _) _
    · exact ⟨_, .refuses f⟩
    · exact ⟨_, .connects⟩
  refine ask_observed ⟨_, h, permitted⟩ ?_
  rintro (f | _) _
  · exact done_observed (done_of_refused (h.exchange (.refuses f)) empty)
  have h : At c .connected (⟨.connect, .ok ()⟩ :: w) { s with connected := true } :=
    ⟨h.follows.exchange .connects, h.watched⟩
  have permitted : Permits c .connected { s with connected := true } .subscribeManager := by
    refine ⟨?_, trivial, nofun⟩
    rintro (f | _) _
    · exact ⟨_, .detaches f⟩
    · exact ⟨_, .attaches⟩
  refine ask_observed ⟨_, h, permitted⟩ ?_
  rintro (f | _) _
  · exact done_observed (done_of_refused (h.exchange (.detaches f)) empty)
  have h := h.exchange .attaches
  have permitted : Permits c .attached { s with connected := true } .listUnits := by
    refine ⟨?_, trivial, nofun⟩
    rintro (f | units) _
    · exact ⟨_, .listsNone f⟩
    · exact ⟨_, .lists units⟩
  refine ask_observed ⟨_, h, permitted⟩ ?_
  rintro (f | units) _
  · exact done_observed (done_of_refused (h.exchange (.listsNone f)) empty)
  have h := h.exchange (.lists units)
  refine (discovery_at (fun u hu => (List.mem_filter.1 hu).2) h).seq ?_
  intro w s _ h
  refine (note_passes _ h).weaken ?_
  rintro w s (_ | _) hr
  · exact hr.elim
  · exact hr.1

theorem openConnection_proceeds (snapshot : Option Snapshot) (attempt : Nat) (h : At c .made w s)
    (empty : s.registry.entries = []) :
    Safe (observed Conduct) (AtRequest c) (Proceeds c) (openConnection c snapshot attempt s) w := by
  refine (start_ready h empty).attempt.seq ?_
  intro w s r h
  match r, snapshot, h with
  | .ok _, none, h => exact done_observed ⟨_, .discovered, h⟩
  | .ok _, some snapshot, h =>
    refine (resync_observed (K := (At c (.tracking []) · s))
      (fun _ h => ⟨_, h, permits_aside (q := .clock) trivial trivial⟩)
      (fun _ now h => h.aside (q := .clock) trivial now) s.registry snapshot h).seq ?_
    rintro w s ts ⟨rfl, h, known⟩
    -- While events are handed out the registry stays as it is, and each has its place in it.
    have emitted : Safe (observed Conduct) (AtRequest c)
        (Ends (fun w s _ => At c (.tracking []) w s) fun w s _ => Done c w s)
        (Action.each (fun t => demand (ask (.emit t))) ts s) w := by
      refine Safe.each (I := fun rest w s => (∀ t ∈ rest, Footprint c s (.emit t)) ∧
        At c (.tracking []) w s) ?_ ?_ ?_ _ ⟨?_, h⟩
      · rintro t rest w s ⟨footprint, h⟩
        obtain ⟨now, later⟩ := List.forall_mem_cons.1 footprint
        refine (emit_at now h).weaken ?_
        rintro w s' (f | _) hr
        · exact Ready.done ⟨_, .discovered, hr⟩
        · obtain ⟨h', rfl⟩ := hr
          exact ⟨later, h'⟩
      · intro w s h
        exact done_observed h.2
      · exact fun _ _ _ _ step => step.elim
      · intro t ht
        exact h.watched.footprint_of_resync known ht s.connected
    refine emitted.andThen ?_ fun _ _ _ failed => done_observed failed
    intro w s _ h
    refine (note_passes _ h).seq ?_
    rintro w s _ ⟨h, -⟩
    exact done_observed ⟨_, .discovered, h⟩
  | .error (.fault f), snapshot, h =>
    show Safe _ _ _ ((if f.isBusFault then _ else _ : Step η (Option Stage)) s) w
    split
    · exact interlude_proceeds (retry_interlude c snapshot attempt _ s) h
    · exact done_observed h
  | .error (.crash _), _, h | .error .cancelled, _, h => exact done_observed h

/-! ## Closing -/

/-- On the way out the connection is closed, and nothing is tracked. -/
def Over (c : Plan) (w : Trace η) (s : State η) : Prop :=
  At c .apart w s ∧ s.registry.entries = []

theorem teardown_over (h : Done c w s) :
    Safe (observed Conduct) (AtRequest c) (Succeeds fun w s _ => Over c w s) (teardown s) w := by
  obtain ⟨here, closes, h, releases⟩ := h
  have drained : At c here w { s with registry := s.registry.drain } := ⟨h.follows, .empty rfl⟩
  show Safe _ _ _ ((Action.each (fun e => release e.subscription) s.registry.entries >>= _)
    { s with registry := s.registry.drain }) w
  have released : Safe (observed Conduct) (AtRequest c)
      (Passes c here { s with registry := s.registry.drain })
      (Action.each (fun e => release e.subscription) s.registry.entries
        { s with registry := s.registry.drain }) w := by
    -- Either handles may be released at this point, or there are none.
    obtain releases | empty := releases
    · refine Safe.eachSucceeds (I := fun _ w s' => At c here w s' ∧
        s' = { s with registry := s.registry.drain }) ?_ ?_ _ ⟨drained, rfl⟩
      · rintro e rest w s' ⟨h, rfl⟩
        exact release_passes releases e.subscription h
      · intro w s' h
        exact done_observed h
    · rw [empty]
      exact done_observed ⟨drained, rfl⟩
  refine released.seq ?_
  rintro w s' _ ⟨h, rfl⟩
  have h : At c here w { s with registry := s.registry.drain, connected := false } :=
    ⟨h.follows, h.watched⟩
  refine ask_observed ⟨here, h, fun a _ => ⟨_, .closes closes a⟩, trivial, nofun⟩ ?_
  rintro a (documented | stopped)
  · cases documented
    exact done_observed ⟨h.exchange (.closes closes _), rfl⟩
  · cases stopped

/-- Where a stage can start. -/
def Starts (c : Plan) : Stage → Trace η → State η → Prop
  | .opening _ _ => Over c
  | .listening => Ready c

theorem closing_starts {x : Step η (Option Stage)}
    (h : Safe (observed Conduct) (AtRequest c) (Proceeds c) (x s) w) :
    Safe (observed Conduct) (AtRequest c) (Hands (Starts c) fun w s _ => Over c w s)
      (closing x s) w := by
  refine closing_safe h ?_ ?_ ?_
  · intro w s h
    exact done_observed h
  · rintro w s next ⟨h, onward⟩
    refine (teardown_over h).seq ?_
    intro w s _ ended
    cases next with
    | opening snapshot attempt => exact done_observed ended
    | listening => exact absurd rfl onward
  · intro w s f h
    refine (teardown_over h).seq ?_
    intro w s _ ended
    exact done_observed ended

/-- Every stage keeps to the protocol. -/
theorem stage_starts (stage : Stage) (w : Trace η) (s : State η) (h : Starts c stage w s) :
    Safe (observed Conduct) (AtRequest c) (Hands (Starts c) fun w s _ => Over c w s)
      (Session.stage c stage s) w := by
  cases stage with
  | listening => exact closing_starts (listen_proceeds h)
  | opening snapshot attempt =>
    obtain ⟨h, empty⟩ := h
    have permitted : Permits c .apart s .open := by
      refine ⟨?_, trivial, nofun⟩
      rintro a (documented | stopped)
      · cases documented
        exact ⟨_, .opens⟩
      · cases stopped
    refine ask_observed ⟨_, h, permitted⟩ ?_
    rintro a (documented | stopped)
    · cases documented
      exact closing_starts (openConnection_proceeds snapshot attempt (h.exchange .opens) empty)
    · cases stopped

/-! ## Runs -/

/-- Where a run has got to: on the way it waits at a permitted request, and at its end the last
connection is closed and nothing is tracked. -/
theorem follows_of_safe {p : Phase η}
    (h : Safe (observed Conduct) (AtRequest c) (Hands (Starts c) fun w s _ => Over c w s) p w) :
    ∃ here, At c here w p.state ∧ (∀ s q resume, p = .ask s q resume → Permits c here s q) ∧
      ∀ s f, p = .done s (.error f) → here = .apart ∧ s.registry.entries = [] := by
  cases p with
  | ask s q resume =>
    obtain ⟨here, h, permits⟩ := (h w .refl).1
    refine ⟨here, h, ?_, nofun⟩
    rintro _ _ _ ⟨⟩
    exact permits
  | done s r =>
    match r, h w .refl with
    | .ok (.opening _ _), ended => exact ⟨.apart, ended.1, nofun, nofun⟩
    | .ok .listening, ⟨here, _, h⟩ => exact ⟨here, h, nofun, nofun⟩
    | .error _, ended =>
      refine ⟨.apart, ended.1, nofun, ?_⟩
      rintro _ _ ⟨⟩
      exact ⟨rfl, ended.2⟩

/-- **Calls come in order, and are about watched units.** However connections behave in their
documented ways, and wherever the session is stopped while it waits for others:

- what it has called follows the protocol, and so does what it asks next, whatever the answer;
- all units of the registry are watched;
- units are subscribed to and fetched only if they are watched;
- once signals are taken, a unit is tried only if it is not in the registry;
- an event is about a watched unit, and when it is handed out the registry holds the state that it
  leads to;
- at its end the session has closed its last connection. -/
theorem calls_in_order (settings : Settings) (c : Plan)
    (selected : c.watches = settings.watches c.scope) {w : Trace η} {p : Phase η}
    (run : Runs c (observed Conduct) ([], begin c) (w, p)) :
    ∃ here, Follows c w here ∧
      (∀ e ∈ p.state.registry.entries, settings.watches c.scope e.unit.name = true) ∧
      (∀ s q resume, p = .ask s q resume →
        (∀ a, Conduct q a → ∃ next, Goes c here ⟨q, a⟩ next) ∧
          (∀ u, q = .subscribe u ∨ q = .fetch u → settings.watches c.scope u = true) ∧
          (∀ u added, q = .subscribe u → here = .listening added → s.registry.get? u = none) ∧
          ∀ t, q = .emit t → settings.watches c.scope t.unit.name = true ∧
            s.registry.stateOf t.unit.name = some t.current) ∧
      ∀ s f, p = .done s (.error f) → here = .apart ∧ s.registry.entries = [] := by
  have begins : Starts c (.opening none 0) ([] : Trace η) (State.initial c.scope) :=
    ⟨⟨.nothing, .empty rfl⟩, rfl⟩
  obtain ⟨here, h, asks, ended⟩ :=
    follows_of_safe (run.safe stage_starts (stage_starts _ _ _ begins))
  rw [← selected]
  refine ⟨here, h.follows, h.watched.watches, ?_, ended⟩
  intro s q resume at'
  obtain ⟨goes, footprint, fresh⟩ := asks s q resume at'
  refine ⟨goes, ?_, fresh, ?_⟩
  · rintro u (rfl | rfl) <;> exact footprint
  · rintro t rfl
    exact footprint

/-- A unit that could not be fetched is added again, and fails: the event is handed out when the
registry says so. -/
theorem in_order_after_failed_fetch :
    ∃ w s resume here, Runs webWatch (observed Conduct) (([] : Trace Nat), begin webWatch)
        (w, .ask s (.emit ⟨⟨.system, "web"⟩, .active, .failed, 5⟩) resume) ∧
      Follows webWatch w here ∧ webOnly.watches .system "web" = true ∧
      s.registry.stateOf "web" = some .failed := by
  have run : Reaches webWatch Conduct (([] : Trace Nat), begin webWatch) fun _ p =>
      ∃ s resume, p = .ask s (.emit ⟨⟨.system, "web"⟩, .active, .failed, 5⟩) resume := by
    refine .answer (.inl .opened) ?_
    refine .answer (.inl .connected) ?_
    refine .answer (.inl .subscribedManager) ?_
    refine .answer (.inl (.listed ["db", "web"])) ?_
    refine .answer (.inl (.subscribed "web" 0)) ?_
    refine .answer (.inl (.notFetched "web" "GetAll" "gone" none)) ?_
    refine .answer (.inl (.noted _)) ?_
    refine .answer (.inl (.unsubscribed 0)) ?_
    refine .answer (.inl (.noted _)) ?_
    refine .next ?_
    -- The discovery is over, and the unit is loaded again.
    refine .answer (.inl (.signalled (.added "web"))) ?_
    refine .answer (.inl (.subscribed "web" 1)) ?_
    refine .answer (.inl (.fetched ⟨"web", "active", some 1, none⟩)) ?_
    refine .answer (.inl (.noted _)) ?_
    refine .next ?_
    refine .answer (.inl (.signalled (.changed ⟨"web", "failed", some 2, some 5⟩))) ?_
    refine .answer (.inl (.time 9)) ?_
    refine .answer (.inl (.noted _)) ?_
    exact .here ⟨_, _, rfl⟩
  obtain ⟨w, p, run, s, resume, rfl⟩ := run
  obtain ⟨here, follows, -, asks, -⟩ := calls_in_order webOnly webWatch rfl run
  obtain ⟨-, -, -, events⟩ := asks s _ resume rfl
  obtain ⟨watched, known⟩ := events _ rfl
  exact ⟨w, s, resume, here, run, follows, watched, known⟩

end

end UnitWatch.Session.CallOrder
