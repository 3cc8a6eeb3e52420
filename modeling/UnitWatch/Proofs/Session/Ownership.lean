import Mathlib.Data.Multiset.AddSub
import UnitWatch.Proofs.Session.Trace

/-!
# Who owns subscriptions and connections

A session gives back what it takes. For connections that fail in their documented ways only, and
wherever the session is stopped while it waits for others:

- what it holds on the current connection, when it waits for others, are the subscriptions of its
  registry, one per entry;
- a subscription is given back on the connection that it was taken on, as often as it was taken, and
  before that connection is closed;
- a connection is made after the one before it was closed, and closed once;
- at its end a session holds nothing.

**Connections** (`connections`). The calls of a trace are told apart by the connection that they are
made on. What is held on a connection (`Held`) follows from its calls; a connection is settled
(`Settled`) if it was closed with nothing held, and nothing was called after that.

**The invariant** (`Owns`). Between two steps the session holds the subscriptions of the registry.
Inside of a step it may hold one more: the one that `track` has not entered yet, or those that are
about to be released.
-/

namespace UnitWatch

open Safe (Succeeds Ends)

/-! ## Subscriptions of a registry -/

namespace Registry

variable {η : Type}

/-- The subscriptions through which reports come. -/
def subscriptions (r : Registry η) : Multiset η := r.entries.map (·.subscription)

theorem subscriptions_eq_zero {r : Registry η} (h : r.entries = []) : r.subscriptions = 0 := by
  rw [subscriptions, h]
  rfl

theorem subscriptions_put_of_none {r : Registry η} {e : Entry η} (h : r.get? e.unit.name = none) :
    (r.put e).subscriptions = e.subscription ::ₘ r.subscriptions := by
  have fresh : ¬r.contains e.unit.name = true := by simp [get?_eq_none.1 h]
  simp only [subscriptions, put, if_neg fresh, List.map_append, List.map_singleton]
  exact Multiset.coe_eq_coe.2 (List.perm_append_singleton _ _)

/-- Replacing an entry keeps its subscription. -/
theorem subscriptions_put_of_some {r : Registry η} {e old : Entry η} (wellFormed : r.WellFormed)
    (h : r.get? e.unit.name = some old) (same : e.subscription = old.subscription) :
    (r.put e).subscriptions = r.subscriptions := by
  simp only [subscriptions, put, if_pos (contains_of_get? h), List.map_map]
  refine congrArg _ (List.map_congr_left ?_)
  intro x hx
  by_cases hn : x.unit.name = e.unit.name
  · have found := wellFormed.get?_of_mem hx
    rw [hn, h] at found
    cases found
    simp [hn, same]
  · simp [hn]

/-- An eviction takes one subscription out. -/
theorem subscriptions_evict {r : Registry η} {e : Entry η} {u : String} (wellFormed : r.WellFormed)
    (h : r.get? u = some e) : r.subscriptions = e.subscription ::ₘ (r.evict u).subscriptions := by
  obtain ⟨before, after, split⟩ := List.append_of_mem (mem_of_get? h)
  have name : e.unit.name = u := name_of_get? h
  have nodup := wellFormed.nodup
  rw [split, List.map_append, List.map_cons, List.nodup_middle, List.nodup_cons] at nodup
  have others : ∀ x ∈ before ++ after, (!(x.unit.name == u)) = true := by
    intro x hx
    have differs : x.unit.name ≠ u := by
      intro same
      refine nodup.1 ?_
      rw [← List.map_append, name, ← same]
      exact List.mem_map_of_mem hx
    simpa using differs
  have rest : (r.evict u).entries = before ++ after := by
    have gone : (!(e.unit.name == u)) = false := by simp [name]
    rw [evict, split]
    simp only [List.filter_append, List.filter_cons, gone, Bool.false_eq_true, if_false]
    rw [← List.filter_append]
    exact List.filter_eq_self.2 others
  rw [subscriptions, subscriptions, rest, split, List.map_append, List.map_append, List.map_cons]
  exact Multiset.coe_eq_coe.2 List.perm_middle

theorem subscriptions_apply {r : Registry η} (wellFormed : r.WellFormed) (report : Report)
    (now : Microseconds) : (r.apply report now).1.subscriptions = r.subscriptions := by
  cases h : r.get? report.unit with
  | none => simp only [apply, h]
  | some e =>
    rw [apply_of_get? now h]
    refine subscriptions_put_of_some wellFormed ?_ (Entry.update_subscription e report now)
    rw [Entry.update_unit, name_of_get? h, h]

theorem subscriptions_enroll {r : Registry η} {u : String} (h : r.get? u = none) (k : η)
    {x : RawState} (hx : x.unit = u) :
    (r.enroll u k x).subscriptions = k ::ₘ r.subscriptions := by
  rw [enroll_eq_put r k hx]
  exact subscriptions_put_of_none h

theorem get?_enroll_of_ne {r : Registry η} {u v : String} (k : η) {x : RawState} (hx : x.unit = u)
    (h : v ≠ u) : (r.enroll u k x).get? v = r.get? v := by
  rw [enroll_eq_put r k hx]
  exact get?_put_of_ne r h

end Registry

namespace Session

variable {η : Type}

/-! ## Calls on connections -/

/-- A call that takes or gives. -/
inductive Call (η : Type) where
  | opened
  | subscribed (k : η)
  | unsubscribed (k : η)
  | closed

def Exchange.call? : Exchange η → Option (Call η)
  | ⟨.open, .ok ()⟩ => some .opened
  | ⟨.subscribe _, .ok k⟩ => some (.subscribed k)
  | ⟨.unsubscribe k, _⟩ => some (.unsubscribed k)
  | ⟨.close, _⟩ => some .closed
  | _ => none

/-- The calls of each connection. The newest connection is the first, and so is the newest call. -/
def connections : List (Call η) → List (List (Call η))
  | [] => []
  | .opened :: calls => [] :: connections calls
  | call :: calls =>
    match connections calls with
    | [] => [[call]]
    | current :: older => (call :: current) :: older

namespace Ownership

def calls (w : Trace η) : List (Call η) := w.filterMap Exchange.call?

/-- What is held after the calls of a connection that is not closed: each subscription that was taken
is held until it is given back, and only what is held is given back. -/
inductive Held : List (Call η) → Multiset η → Prop
  | nothing : Held [] 0
  | subscribed {before : List (Call η)} {keys : Multiset η} (k : η) (h : Held before keys) :
      Held (.subscribed k :: before) (k ::ₘ keys)
  | unsubscribed {before : List (Call η)} {keys : Multiset η} {k : η}
      (h : Held before (k ::ₘ keys)) : Held (.unsubscribed k :: before) keys

/-- A connection that was closed when nothing was held any more. -/
def Settled (calls : List (Call η)) : Prop := ∃ before, calls = .closed :: before ∧ Held before 0

/-- The subscriptions that were taken. -/
def taken (calls : List (Call η)) : Multiset η :=
  calls.filterMap fun | .subscribed k => some k | _ => none

/-- The subscriptions that were given back. -/
def given (calls : List (Call η)) : Multiset η :=
  calls.filterMap fun | .unsubscribed k => some k | _ => none

/-- What was taken was given back, or is held. -/
theorem Held.balance {calls : List (Call η)} {keys : Multiset η} (h : Held calls keys) :
    taken calls = given calls + keys := by
  induction h with
  | nothing => rfl
  | @subscribed before keys k _ ih =>
    have step : taken (.subscribed k :: before) = k ::ₘ taken before := rfl
    have same : given (.subscribed k :: before) = given before := rfl
    rw [step, same, ih, Multiset.add_cons]
  | @unsubscribed before keys k _ ih =>
    have same : taken (.unsubscribed k :: before) = taken before := rfl
    have step : given (.unsubscribed k :: before) = k ::ₘ given before := rfl
    rw [same, step, ih, Multiset.add_cons, Multiset.cons_add]

theorem Settled.balance {calls : List (Call η)} (h : Settled calls) :
    taken calls = given calls := by
  obtain ⟨before, rfl, held⟩ := h
  exact held.balance.trans (Multiset.add_zero _)

/-! ## Traces -/

/-- All connections are settled. -/
def Closed (w : Trace η) : Prop := ∀ current ∈ connections (calls w), Settled current

/-- There is a connection on which the session holds `keys`, and those before it are settled. -/
def Holds (keys : Multiset η) (w : Trace η) : Prop :=
  ∃ current older, connections (calls w) = current :: older ∧ Held current keys ∧
    ∀ calls ∈ older, Settled calls

/-- Every connection is settled, or all but the current one. -/
def Sound (w : Trace η) : Prop := Closed w ∨ ∃ keys, Holds keys w

section

variable {w : Trace η} {keys : Multiset η}

theorem calls_quiet {e : Exchange η} (h : e.call? = none) : calls (e :: w) = calls w := by
  rw [calls, List.filterMap_cons, h]
  rfl

theorem Holds.quiet (h : Holds keys w) {e : Exchange η} (quiet : e.call? = none) :
    Holds keys (e :: w) := by
  rw [Holds, calls_quiet quiet]
  exact h

theorem Closed.opened (h : Closed w) : Holds 0 (⟨.open, .ok ()⟩ :: w) :=
  ⟨[], connections (calls w), rfl, .nothing, h⟩

theorem Holds.subscribed (h : Holds keys w) (u : String) (k : η) :
    Holds (k ::ₘ keys) (⟨.subscribe u, .ok k⟩ :: w) := by
  obtain ⟨current, older, split, held, settled⟩ := h
  refine ⟨.subscribed k :: current, older, ?_, .subscribed k held, settled⟩
  show connections (.subscribed k :: calls w) = _
  rw [connections, split]
  exact nofun

theorem Holds.unsubscribed {k : η} (h : Holds (k ::ₘ keys) w)
    (a : Answer (.unsubscribe k : Request η)) : Holds keys (⟨.unsubscribe k, a⟩ :: w) := by
  obtain ⟨current, older, split, held, settled⟩ := h
  refine ⟨.unsubscribed k :: current, older, ?_, .unsubscribed held, settled⟩
  show connections (.unsubscribed k :: calls w) = _
  rw [connections, split]
  exact nofun

theorem Holds.closed (h : Holds 0 w) (a : Answer (.close : Request η)) :
    Closed (⟨.close, a⟩ :: w) := by
  obtain ⟨current, older, split, held, settled⟩ := h
  have all : connections (calls (⟨.close, a⟩ :: w)) = (.closed :: current) :: older := by
    show connections (.closed :: calls w) = _
    rw [connections, split]
    exact nofun
  intro calls member
  rw [all, List.mem_cons] at member
  obtain rfl | member := member
  · exact ⟨current, rfl, held⟩
  · exact settled calls member

theorem Holds.sound (h : Holds keys w) : Sound w := .inr ⟨keys, h⟩

theorem Closed.sound (h : Closed w) : Sound w := .inl h

end

/-! ## Steps -/

/-- Where a session waits for others. -/
def Suspends : Request η → Prop
  | .nextSignal | .sleep _ | .emit _ => True
  | _ => False

/-- Listings in which no name occurs twice. -/
def Repeatless : (q : Request η) → Answer q → Prop
  | .listUnits, .ok units => units.Nodup
  | _, _ => True

/-- Connections that fail in their documented ways only, with listings that repeat no name, and
consumers that may stop the session where it waits for others. -/
def Conduct (q : Request η) (a : Answer q) : Prop :=
  (Documented q a ∨ Stopped q a) ∧ Repeatless q a

def AtRequest (w : Trace η) (s : State η) (q : Request η) : Prop :=
  Sound w ∧ (Suspends q → Holds s.registry.subscriptions w)

/-- Between two steps the session holds the subscriptions of the registry. -/
structure Owns (w : Trace η) (s : State η) : Prop where
  holds : Holds s.registry.subscriptions w
  wellFormed : s.registry.WellFormed

/-- After a connection was closed there is nothing. -/
structure Over (w : Trace η) (s : State η) : Prop where
  closed : Closed w
  empty : s.registry.entries = []
  connected : s.connected = false

variable {c : Plan} {w : Trace η} {s : State η} {keys : Multiset η}

theorem Holds.atRequest (h : Holds keys w) {q : Request η} (quiet : ¬Suspends q) :
    AtRequest w s q := ⟨h.sound, fun suspends => (quiet suspends).elim⟩

theorem Owns.atRequest (h : Owns w s) (q : Request η) : AtRequest w s q :=
  ⟨h.holds.sound, fun _ => h.holds⟩

theorem Owns.quiet (h : Owns w s) {e : Exchange η} (quiet : e.call? = none) : Owns (e :: w) s :=
  ⟨h.holds.quiet quiet, h.wellFormed⟩

theorem note_owns (n : Notice) (h : Holds keys w) :
    Safe (observed Conduct) AtRequest (Succeeds fun w s' _ => Holds keys w ∧ s' = s)
      (note n s) w := by
  refine ask_observed (h.atRequest id) ?_
  intro a _
  exact done_observed ⟨h.quiet rfl, rfl⟩

/-- A release gives one subscription back. -/
theorem release_owns {k : η} (h : Holds (k ::ₘ keys) w) :
    Safe (observed Conduct) AtRequest (Succeeds fun w s' _ => Holds keys w ∧ s' = s)
      (release k s) w := by
  refine ask_observed (h.atRequest id) ?_
  intro a ha
  have h := h.unsubscribed a
  obtain ⟨ha | ha, -⟩ := ha
  · cases ha with
    | unsubscribed => exact done_observed ⟨h, rfl⟩
    | notUnsubscribed _ f ofBus =>
      show Safe _ _ _ ((if f.isBusFault then _ else _ : Step η Unit) s) _
      rw [if_pos ofBus]
      exact note_owns _ h
  · cases ha

/-- Tracking a unit takes one subscription, which is entered or given back. -/
theorem track_owns {u : String} (h : Owns w s) (fresh : s.registry.get? u = none) :
    Safe (observed Conduct) AtRequest
      (Succeeds fun w s' _ => Owns w s' ∧
        ∀ v, v ≠ u → s'.registry.get? v = s.registry.get? v)
      (track u s) w := by
  have same {w' : Trace η} {s' : State η} (hw : Holds s.registry.subscriptions w' ∧ s' = s) :
      Owns w' s' ∧ ∀ v, v ≠ u → s'.registry.get? v = s.registry.get? v := by
    obtain ⟨hw, rfl⟩ := hw
    exact ⟨⟨hw, h.wellFormed⟩, fun _ _ => rfl⟩
  refine ask_observed (h.atRequest _) ?_
  intro a ha
  obtain ⟨ha | ha, -⟩ := ha
  on_goal 2 => cases ha
  cases ha with
  | notSubscribed =>
    exact (note_owns _ (h.holds.quiet rfl)).weaken fun w s' r hr => hr.imp fun _ => same
  | subscribed _ k =>
    -- Until the unit is enrolled, its subscription is held beyond those of the registry.
    have taken := h.holds.subscribed u k
    refine ask_observed (taken.atRequest id) ?_
    intro a ha
    obtain ⟨ha | ha, -⟩ := ha
    on_goal 2 => cases ha
    cases ha with
    | notFetched =>
      refine (note_owns _ (taken.quiet rfl)).seq ?_
      rintro w s' _ ⟨hw, rfl⟩
      exact (release_owns hw).weaken fun w s' r hr => hr.imp fun _ => same
    | fetched x =>
      refine Safe.of_eq (enroll_eq x.unit k x s) ?_
      have entered := Registry.subscriptions_enroll fresh k (x := x) rfl
      refine (note_owns _ (taken.quiet rfl)).weaken fun w s' r hr => hr.imp ?_
      rintro _ ⟨hw, rfl⟩
      refine ⟨⟨?_, h.wellFormed.enroll k rfl⟩, fun v hv => Registry.get?_enroll_of_ne k rfl hv⟩
      rw [← entered] at hw
      exact hw

/-- What a step ends with that has a value with `P`, or is stopped where it waits. -/
abbrev Stays {α : Type} (P : α → Prop) : Trace η → State η → Except Failure α → Prop :=
  Ends (fun w s a => Owns w s ∧ P a) (fun w s _ => Owns w s)

/-- A step that holds the subscriptions of the registry, no more and no less, when it is done. -/
abbrev Whole {α : Type} (P : α → Prop) (x : Step η α) : Prop :=
  Upholds Conduct AtRequest Owns (fun w s _ => Owns w s) P x

/-- Any value. -/
abbrev Any {α : Type} (_ : α) : Prop := True

theorem fail_whole {α : Type} {P : α → Prop} (f : Failure) :
    Whole P (Action.fail f : Step η α) := Upholds.fail fun _ _ hw => hw

theorem attempt_whole {α : Type} {P : α → Prop} {x : Step η α} (h : Whole P x) :
    Whole Any (Action.attempt x) := h.attempt fun _ _ _ hw => hw

theorem ask_whole {q : Request η} (quiet : ∀ a, (⟨q, a⟩ : Exchange η).call? = none) :
    Whole (Conduct q) (ask q) :=
  Upholds.ask (fun _ _ hw => hw.atRequest q) fun _ _ a _ hw => hw.quiet (quiet a)

theorem note_whole (n : Notice) : Whole Any (note n : Step η Unit) :=
  (ask_whole fun _ => rfl).imp fun _ _ => trivial

theorem emit_whole (t : Transition) : Whole Any (demand (ask (.emit t)) : Step η Unit) :=
  (ask_whole fun _ => rfl).demand fun _ _ _ hw => hw

theorem sleep_whole (delay : Span) : Whole Any (demand (ask (.sleep delay)) : Step η Unit) :=
  (ask_whole fun _ => rfl).demand fun _ _ _ hw => hw

theorem nextSignal_whole : Whole Any (demand (ask .nextSignal) : Step η Signal) :=
  (ask_whole fun _ => rfl).demand fun _ _ _ hw => hw

/-- The session goes on listening, or the next connection is due. -/
def Onward (next : Option Stage) : Prop := next ≠ some .listening

theorem sleepThen_whole (n : Notice) (delay : Span) {next : Stage} (h : Onward (some next)) :
    Whole Onward (sleepThen n delay next : Step η (Option Stage)) := by
  refine (note_whole n).bind fun _ _ => ?_
  refine (sleep_whole delay).bind fun _ _ => ?_
  exact Upholds.pure h

theorem interlude_whole {basis : Option Snapshot} {w : Trace η} {s : State η}
    {p : Process (State η) (Answer (η := η)) (Except Failure (Option Stage))}
    (between : Interlude basis s p) (h : Owns w s) :
    Safe (observed Conduct) AtRequest (Stays Onward) p w := by
  cases between with
  | fails f => exact done_observed h
  | pauses _ delay attempt => exact sleepThen_whole _ delay (by simp [Onward]) w s h

/-! ## Signals -/

theorem removed_whole (u : String) : Whole Any (handleSignal c (.removed u) : Step η _) := by
  intro w s h
  cases hu : s.registry.get? u with
  | none =>
    rw [handleSignal_removed_of_none hu]
    exact done_observed ⟨h, trivial⟩
  | some e =>
    rw [handleSignal_removed hu]
    have holds := h.holds
    rw [Registry.subscriptions_evict h.wellFormed hu] at holds
    refine (release_owns holds).seq ?_
    rintro w s' _ ⟨hw, rfl⟩
    refine (note_owns _ hw).seq ?_
    rintro w s' _ ⟨hw, rfl⟩
    exact done_observed ⟨⟨hw, h.wellFormed.evict u⟩, trivial⟩

theorem changed_whole (x : RawState) : Whole Any (handleSignal c (.changed x) : Step η _) := by
  intro w s h
  cases hu : s.registry.get? x.unit with
  | none =>
    rw [handleSignal_changed_of_none hu]
    exact done_observed ⟨h, trivial⟩
  | some e =>
    cases hx : x.report? with
    | none =>
      rw [handleSignal_changed_of_unrecognized hu hx]
      exact (note_whole _).bind (fun _ _ => .pure trivial) w s h
    | some report =>
      rw [handleSignal_changed hu hx]
      refine ask_observed (h.atRequest _) ?_
      intro (now : Microseconds) _
      have updated : Owns (⟨.clock, now⟩ :: w)
          { s with registry := (s.registry.apply report now).1 } := by
        refine ⟨?_, h.wellFormed.apply report now⟩
        rw [Registry.subscriptions_apply h.wellFormed]
        exact h.holds.quiet rfl
      cases (e.update report now).2 with
      | none => exact done_observed ⟨updated, trivial⟩
      | some t =>
        exact (note_whole (.transition x.unit t.previous t.current)).bind
          (fun _ _ => .pure trivial) _ _ updated

theorem added_whole (u : String) : Whole Any (handleSignal c (.added u) : Step η _) := by
  intro w s h
  cases hu : s.registry.get? u with
  | some e =>
    rw [handleSignal_added_of_some hu]
    exact done_observed ⟨h, trivial⟩
  | none =>
    cases watched : c.watches u with
    | false =>
      rw [handleSignal_added_of_not_watched watched]
      exact done_observed ⟨h, trivial⟩
    | true =>
      rw [handleSignal_added hu watched]
      refine (track_owns h hu).seq ?_
      intro w s' _ hw
      exact done_observed ⟨hw.1, trivial⟩

theorem handleSignal_whole (c : Plan) (signal : Signal) :
    Whole Any (handleSignal c signal : Step η (Option Transition)) := by
  cases signal with
  | changed x => exact changed_whole x
  | added u => exact added_whole u
  | removed u => exact removed_whole u
  | other kind => exact (note_whole _).bind fun _ _ => .pure trivial

theorem listenOnce_whole (c : Plan) : Whole Any (listenOnce c : Step η Unit) := by
  refine nextSignal_whole.bind fun signal _ => ?_
  refine (handleSignal_whole c signal).bind fun event _ => ?_
  split
  · exact emit_whole _
  · exact Upholds.pure trivial

theorem listen_whole (c : Plan) : Whole Onward (listen c : Step η (Option Stage)) := by
  refine (attempt_whole (listenOnce_whole c)).bind fun r _ => ?_
  split
  · exact Upholds.pure nofun
  · exact fun _ s => interlude_whole (recover_interlude c s)
  · exact fail_whole _

/-! ## Opening -/

/-- The units that are left to track are not tracked yet, and none is listed twice. -/
structure ToTrack (units : List String) (w : Trace η) (s : State η) : Prop where
  owns : Owns w s
  nodup : units.Nodup
  fresh : ∀ u ∈ units, s.registry.get? u = none

theorem discovery_owns {units : List String} (h : ToTrack units w s) :
    Safe (observed Conduct) AtRequest (Succeeds fun w s' _ => Owns w s')
      (Action.each track units s) w := by
  refine Safe.eachSucceeds (I := ToTrack) ?_ ?_ units h
  · rintro u rest w s ⟨owns, nodup, fresh⟩
    rw [List.nodup_cons] at nodup
    refine (track_owns owns (fresh u (by simp))).weaken fun w s' r hr => hr.imp ?_
    rintro _ ⟨owns, others⟩
    refine ⟨owns, nodup.2, ?_⟩
    intro v hv
    have differs : v ≠ u := fun same => nodup.1 (same ▸ hv)
    rw [others v differs]
    exact fresh v (List.mem_cons_of_mem u hv)
  · intro w s h
    exact done_observed h.owns

/-- A session starts on a connection with an empty registry. -/
theorem start_owns (h : Owns w s) (empty : s.registry.entries = []) :
    Safe (observed Conduct) AtRequest (Stays Any) (start c s) w := by
  refine ask_observed (h.atRequest _) ?_
  intro a _
  have h := h.quiet (e := ⟨.connect, a⟩) rfl
  cases a with
  | error f => exact done_observed h
  | ok _ =>
    have h : Owns (⟨.connect, .ok ()⟩ :: w) { s with connected := true } := ⟨h.holds, h.wellFormed⟩
    refine ask_observed (h.atRequest _) ?_
    intro a _
    have h := h.quiet (e := ⟨.subscribeManager, a⟩) rfl
    cases a with
    | error f => exact done_observed h
    | ok _ =>
      refine ask_observed (h.atRequest _) ?_
      intro a ha
      have h := h.quiet (e := ⟨.listUnits, a⟩) rfl
      cases a with
      | error f => exact done_observed h
      | ok units =>
        -- A unit is listed once, so none of them is tracked when its turn comes.
        have nodup : units.Nodup := ha.2
        refine Safe.seq (discovery_owns ⟨h, nodup.filter c.watches, ?_⟩) ?_
        · intro u _
          simp [Registry.get?, empty]
        · intro w s _ h
          exact note_whole _ w s h

theorem openConnection_owns (snapshot : Option Snapshot) (attempt : Nat) (h : Owns w s)
    (empty : s.registry.entries = []) :
    Safe (observed Conduct) AtRequest (Stays Onward) (openConnection c snapshot attempt s) w := by
  have started : Safe (observed Conduct) AtRequest (Succeeds fun w s _ => Owns w s)
      (Action.attempt (start c) s) w := by
    refine (start_owns h empty).attempt.weaken fun w s r hr => hr.imp ?_
    intro r hr
    cases r with
    | ok _ => exact hr.1
    | error _ => exact hr
  refine started.seq ?_
  intro w s r h
  revert w s
  show Whole Onward _
  split
  · exact Upholds.pure nofun
  · next snap =>
    refine Upholds.get.bind fun s _ => ?_
    refine (Upholds.resync (fun w s h => h.atRequest _) (fun w s now h => h.quiet rfl) s.registry
      snap).bind fun ts _ => ?_
    refine (Upholds.each emit_whole ts).bind fun _ _ => ?_
    exact (note_whole _).bind fun _ _ => .pure nofun
  · split
    · exact fun _ s => interlude_whole (retry_interlude c snapshot attempt _ s)
    · exact fail_whole _
  · exact fail_whole _

/-! ## Closing -/

/-- On the way out everything is given back, and the connection is closed. -/
theorem teardown_owns (h : Owns w s) :
    Safe (observed Conduct) AtRequest (Succeeds fun w s' _ => Over w s') (teardown s) w := by
  show Safe _ _ _ ((Action.each (fun e => release e.subscription) s.registry.entries >>= _)
    { s with registry := s.registry.drain }) w
  have released : Safe (observed Conduct) AtRequest
      (Succeeds fun w s' _ => Holds 0 w ∧ s' = { s with registry := s.registry.drain })
      (Action.each (fun e => release e.subscription) s.registry.entries
        { s with registry := s.registry.drain }) w := by
    refine Safe.eachSucceeds (I := fun (rest : List (Entry η)) w s' =>
      Holds (Multiset.ofList (rest.map Entry.subscription)) w ∧
        s' = { s with registry := s.registry.drain }) ?_ ?_ _ ⟨h.holds, rfl⟩
    · rintro e rest w s' ⟨hw, rfl⟩
      exact release_owns hw
    · intro w s' hw
      exact done_observed hw
  refine released.seq ?_
  rintro w s' _ ⟨hw, rfl⟩
  refine ask_observed (hw.atRequest id) ?_
  intro a ha
  obtain ⟨ha | ha, -⟩ := ha
  · cases ha
    exact done_observed ⟨hw.closed _, rfl, rfl⟩
  · cases ha

/-- Where a stage can start. -/
def Ready : Stage → Trace η → State η → Prop
  | .opening _ _, w, s => Over w s
  | .listening, w, s => Owns w s

abbrev Leaves : Trace η → State η → Except Failure Stage → Prop :=
  Hands Ready fun w s _ => Over w s

/-- A session that leaves a connection has given everything back. -/
theorem closing_owns {x : Step η (Option Stage)}
    (h : Safe (observed Conduct) AtRequest (Stays Onward) (x s) w) :
    Safe (observed Conduct) AtRequest Leaves (closing x s) w := by
  refine closing_safe h ?_ ?_ ?_
  · intro w s h
    exact done_observed h.1
  · rintro w s next ⟨h, onward⟩
    refine (teardown_owns h).seq ?_
    intro w s _ finished
    cases next with
    | opening snapshot attempt => exact done_observed finished
    | listening => exact absurd rfl onward
  · intro w s f h
    refine (teardown_owns h).seq ?_
    intro w s _ finished
    exact done_observed finished

/-- **Every stage gives back what it takes.** -/
theorem stage_owns (stage : Stage) (w : Trace η) (s : State η) (h : Ready stage w s) :
    Safe (observed Conduct) AtRequest Leaves (Session.stage c stage s) w := by
  cases stage with
  | listening => exact closing_owns (listen_whole c w s h)
  | opening snapshot attempt =>
    obtain ⟨closed, empty, -⟩ := h
    have none' : s.registry.subscriptions = 0 := Registry.subscriptions_eq_zero empty
    refine ask_observed ⟨closed.sound, nofun⟩ ?_
    rintro a ⟨ha | ha, -⟩
    · cases ha
      refine closing_owns (openConnection_owns snapshot attempt ⟨?_, ?_, ?_⟩ empty)
      · rw [none']
        exact closed.opened
      · rw [empty]
        exact List.nodup_nil
      · simp [empty]
    · cases ha

/-! ## Runs -/

/-- All connections but the current one are settled, and what is held on the current one is what was
taken and not given back. -/
theorem Sound.connections (h : Sound w) :
    (∀ old ∈ (connections (calls w)).tail, Settled old) ∧
      ∀ current ∈ (connections (calls w)).head?, Settled current ∨ ∃ keys, Held current keys := by
  obtain closed | ⟨keys, current, older, split, held, settled⟩ := h
  · refine ⟨fun old member => closed old (List.mem_of_mem_tail member), ?_⟩
    intro current member
    exact .inl (closed current (List.mem_of_mem_head? member))
  · rw [split]
    refine ⟨settled, ?_⟩
    rintro _ ⟨⟩
    exact .inr ⟨keys, held⟩

/-- **Sessions own subscriptions and connections.** However connections behave in their documented
ways, and wherever the session is stopped while it waits for others:

- all connections before the current one are settled: everything taken on them was given back, and
  then they were closed, once;
- on the current connection nothing is given back that is not held;
- where the session waits for others, it holds the subscriptions of its registry;
- when it has ended, every connection is settled, the registry is empty, and the session is not
  connected. -/
theorem owned (c : Plan) {w : Trace η} {p : Phase η}
    (run : Runs c (observed Conduct) ([], begin c) (w, p)) :
    (∀ old ∈ (connections (calls w)).tail, Settled old ∧ taken old = given old) ∧
      (∀ current ∈ (connections (calls w)).head?, Settled current ∨ ∃ keys, Held current keys) ∧
      (∀ s q resume, p = .ask s q resume → Suspends q →
        ∃ current ∈ (connections (calls w)).head?, Held current s.registry.subscriptions) ∧
      ∀ s f, p = .done s (.error f) →
        (∀ current ∈ connections (calls w), Settled current ∧ taken current = given current) ∧
          s.registry.entries = [] ∧ s.connected = false := by
  have begins : Ready (.opening none 0) ([] : Trace η) (State.initial c.scope) := ⟨nofun, rfl, rfl⟩
  have safe := run.safe (stage_owns (c := c)) (stage_owns _ _ _ begins)
  have sound : Sound w := by
    cases p with
    | ask s q resume => exact (safe w .refl).1.1
    | done s r =>
      match r, safe w .refl with
      | .ok (.opening _ _), finished => exact finished.closed.sound
      | .ok .listening, owns => exact owns.holds.sound
      | .error _, finished => exact finished.closed.sound
  obtain ⟨settled, current⟩ := sound.connections
  refine ⟨fun old member => ⟨settled old member, (settled old member).balance⟩, current, ?_, ?_⟩
  · rintro s q resume rfl suspends
    obtain ⟨current, older, split, held, -⟩ := (safe w .refl).1.2 suspends
    exact ⟨current, by rw [split]; rfl, held⟩
  · rintro s f rfl
    obtain ⟨closed, empty, connected⟩ : Over w s := safe w .refl
    refine ⟨?_, empty, connected⟩
    intro current member
    exact ⟨closed current member, (closed current member).balance⟩

/-- A session with one unit. -/
def one : State Nat := ⟨⟨.system, [⟨⟨.system, "web"⟩, some .active, some 3, 7⟩]⟩, true⟩

/-- A session is stopped while it waits for a signal: until then it held the subscription of its
only unit, and gives it back. -/
theorem owned_until_stopped :
    ∃ w w' : Trace Nat, ∃ p' : Phase Nat,
      Runs .everything (observed Conduct) ([], begin .everything)
        (w, stage .everything .listening one) ∧
      Runs .everything (observed Conduct) (w, stage .everything .listening one) (w', p') ∧
      Held [.subscribed 7] one.registry.subscriptions ∧
      p'.outcome? = some .cancelled ∧
      Settled [.closed, .unsubscribed 7, .subscribed (7 : Nat)] ∧
      p'.state.registry.entries = [] := by
  obtain ⟨w, p, run, rfl, waiting⟩ : Reaches .everything Conduct
      (([] : Trace Nat), begin .everything) fun w p =>
        p = stage .everything .listening one ∧ connections (calls w) = [[.subscribed 7]] := by
    refine .answer ⟨.inl .opened, trivial⟩ ?_
    refine .answer ⟨.inl .connected, trivial⟩ ?_
    refine .answer ⟨.inl .subscribedManager, trivial⟩ ?_
    refine .answer ⟨.inl (.listed ["web"]), List.nodup_singleton "web"⟩ ?_
    refine .answer ⟨.inl (.subscribed "web" 7), trivial⟩ ?_
    refine .answer ⟨.inl (.fetched ⟨"web", "active", some 3, none⟩), trivial⟩ ?_
    refine .answer ⟨.inl (.noted _), trivial⟩ ?_
    refine .answer ⟨.inl (.noted _), trivial⟩ ?_
    refine .next ?_
    exact .here ⟨rfl, rfl⟩
  -- At the next signal it is stopped, and it leaves the connection.
  obtain ⟨w', p', onward, stopped, given⟩ : Reaches .everything Conduct
      (w, stage .everything .listening one) fun w' p' =>
        p' = .done ⟨⟨.system, []⟩, false⟩ (.error .cancelled) ∧
          connections (calls w') = [[.closed, .unsubscribed 7, .subscribed 7]] := by
    refine .answer ⟨.inr .atSignal, trivial⟩ ?_
    refine .answer ⟨.inl (.unsubscribed 7), trivial⟩ ?_
    refine .answer ⟨.inl .closed, trivial⟩ ?_
    refine .here ⟨rfl, ?_⟩
    show connections (.closed :: .unsubscribed 7 :: calls w) = _
    rw [connections, connections, waiting]
    all_goals exact nofun
  subst stopped
  obtain ⟨-, -, holds, -⟩ := owned .everything run
  obtain ⟨current, member, held⟩ := holds _ _ _ rfl trivial
  rw [waiting] at member
  cases member
  obtain ⟨-, -, -, ended⟩ := owned .everything (run.trans onward)
  obtain ⟨settled, empty, -⟩ := ended _ _ rfl
  rw [given] at settled
  exact ⟨w, w', _, run, onward, held, rfl, (settled _ (by simp)).1, empty⟩

end Ownership

end Session

end UnitWatch
