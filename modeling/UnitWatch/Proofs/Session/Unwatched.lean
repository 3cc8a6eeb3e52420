import UnitWatch.Proofs.Dispatch.Sends
import UnitWatch.Proofs.Session.Home
import UnitWatch.Proofs.Session.Restrict
import UnitWatch.Proofs.Session.Script

/-!
# Units that nobody watches

A session tracks the units that rules select. It could as well track every unit: what it yields
about the watched ones would be the same, in the same order.

**Restrictions.** Of a state, a stage, or a script that is being played, only what is about watched
units is kept, as it is of a registry and of a snapshot.

**The mirror** (`Mirrors`). A step of the session that watches, from a restricted state, takes the
course that a step of the session that tracks everything takes, restricted. What the latter does
about other units is mirrored by doing nothing.
-/

namespace UnitWatch.Session

variable {η : Type}

/-! ## Restricted courses -/

def State.restrict (watched : String → Bool) (s : State η) : State η :=
  { s with registry := s.registry.restrict watched }

def Stage.restrict (watched : String → Bool) : Stage → Stage
  | .opening snapshot attempt => .opening (snapshot.map (Snapshot.restrict watched)) attempt
  | .listening => .listening

/-- What has been asked and yielded about watched units. -/
def Playing.restrict (watched : String → Bool) (w : Playing) : Playing :=
  { w with
    asked := w.asked.filter watched
    events := w.events.filter fun t => watched t.unit.name }

/-- The restricted course, with another value. -/
def Play.restrict {α β : Type} (watched : String → Bool) (f : α → β) :
    Play η (Except Failure α) → Play η (Except Failure β)
  | .ended w s r => .ended (w.restrict watched) (s.restrict watched) (r.map f)
  | .waits w => .waits (w.restrict watched)

/-- From a restricted state, `x` takes the restricted course of `y`. -/
def Mirrors {α β : Type} (script : Script η) (watched : String → Bool) (f : α → β) (x : Step η β)
    (y : Step η α) : Prop :=
  ∀ w s, script.play (x (s.restrict watched)) (w.restrict watched) =
    (script.play (y s) w).restrict watched f

variable {script : Script η} {watched : String → Bool}

namespace Mirrors

variable {α β γ δ ι : Type} {f : α → β} {g : γ → δ}

theorem pure {a : α} {b : β} (h : f a = b) :
    Mirrors script watched f (Pure.pure b : Step η β) (Pure.pure a) := by
  intro w s
  rw [← h]
  rfl

theorem fail (e : Failure) :
    Mirrors script watched f (Action.fail e : Step η β) (Action.fail e) := fun _ _ => rfl

theorem ofExcept (r : Except Failure α) :
    Mirrors script watched id (Action.ofExcept r : Step η α) (Action.ofExcept r) := by
  cases r with
  | ok a => exact pure rfl
  | error e => exact fail e

theorem bind {x : Step η β} {y : Step η α} {k : β → Step η δ} {l : α → Step η γ}
    (h : Mirrors script watched f x y) (then' : ∀ a, Mirrors script watched g (k (f a)) (l a)) :
    Mirrors script watched g (x >>= k) (y >>= l) := by
  intro w s
  have course := h w s
  simp only [Bind.bind, Action.bind, Script.play_bind, course]
  cases script.play (y s) w with
  | waits w' => rfl
  | ended w' s' r =>
    cases r with
    | ok a => exact then' a w' s'
    | error e => rfl

/-- What is not seen is mirrored by doing nothing. -/
theorem unseen {x : Step η δ} {y : Step η α} {l : α → Step η γ}
    (h : Mirrors script watched (fun _ => ()) (Pure.pure ()) y)
    (then' : ∀ a, Mirrors script watched g x (l a)) : Mirrors script watched g x (y >>= l) :=
  bind (k := fun _ => x) h then'

theorem get : Mirrors script watched (State.restrict watched) (Action.get : Step η (State η))
    Action.get := fun _ _ => rfl

theorem modify {k l : State η → State η}
    (h : ∀ s, k (s.restrict watched) = (l s).restrict watched) :
    Mirrors script watched id (Action.modify k : Step η Unit) (Action.modify l) := by
  intro w s
  simp only [Action.modify, Script.play, h]
  rfl

theorem attempt {x : Step η β} {y : Step η α} (h : Mirrors script watched f x y) :
    Mirrors script watched (Except.map f) (Action.attempt x) (Action.attempt y) := by
  intro w s
  have course := h w s
  simp only [Action.attempt, Script.play_bind, course]
  cases script.play (y s) w <;> rfl

/-- A request with the same answer for both. -/
theorem ask {q : Request η}
    (h : ∀ w, script.answer (w.restrict watched) q =
      (script.answer w q).map fun a => (a.1, a.2.restrict watched)) :
    Mirrors script watched id (Session.ask q) (Session.ask q) := by
  intro w s
  simp only [Session.ask, Action.ask, Script.play, h w]
  cases script.answer w q <;> rfl

theorem demand {x y : Step η (Except Failure α)} (h : Mirrors script watched id x y) :
    Mirrors script watched id (Session.demand x) (Session.demand y) :=
  h.bind fun r => ofExcept r

theorem note (n m : Notice) :
    Mirrors script watched id (Session.note n : Step η Unit) (Session.note m) := fun _ _ => rfl

theorem note_unseen (n : Notice) :
    Mirrors script watched id (Pure.pure () : Step η Unit) (Session.note n) := fun _ _ => rfl

/-- One action for each item, where some are not seen. -/
theorem each {k : ι → Step η Unit} {p : ι → Bool}
    (seen : ∀ i, p i = true → Mirrors script watched id (k i) (k i))
    (not : ∀ i, p i = false → Mirrors script watched id (Pure.pure ()) (k i)) (is : List ι) :
    Mirrors script watched id (Action.each k (is.filter p)) (Action.each k is) := by
  induction is with
  | nil => exact pure rfl
  | cons i is ih =>
    cases hp : p i with
    | true =>
      rw [List.filter_cons_of_pos hp]
      exact (seen i hp).bind fun _ => ih
    | false =>
      rw [List.filter_cons_of_neg (by simp [hp])]
      exact (not i hp).unseen fun _ => ih

end Mirrors

/-! ## Units -/

theorem count_restrict {u : String} (w : Playing) (h : watched u = true) :
    (w.restrict watched).asked.count u = w.asked.count u :=
  List.count_filter h

/-- A subscription is given back without further ado. -/
theorem play_release (script : Script η) (k : η) (w : Playing) (s : State η) :
    script.play (release k s) w = .ended w s (.ok ()) := by
  show script.play _ w = _
  simp only [release, Session.ask, Action.ask, bind, Action.bind, Process.ask_bind,
    Process.done_bind, Script.play, Script.answer]
  cases (script.line w).unsubscribes k <;> rfl

/-- What comes of tracking a unit. -/
def Script.tracked (script : Script η) (u : String) (w : Playing) (s : State η) :
    Playing × State η :=
  match (script.line w).subscribes u (w.asked.count u) with
  | .error _ => ({ w with asked := u :: w.asked }, s)
  | .ok k =>
    match (script.line w).fetches u (w.asked.count u + 1) with
    | .error _ => ({ w with asked := u :: u :: w.asked }, s)
    | .ok x =>
      ({ w with asked := u :: u :: w.asked },
        { s with registry := s.registry.enroll u k { x with unit := u } })

theorem play_track (script : Script η) (u : String) (w : Playing) (s : State η) :
    script.play (track u s) w =
      .ended (script.tracked u w s).1 (script.tracked u w s).2 (.ok ()) := by
  unfold Script.tracked
  simp only [track, Session.ask, Action.ask, bind, Action.bind, Process.ask_bind,
    Process.done_bind, Script.play, Script.answer]
  cases (script.line w).subscribes u (w.asked.count u) with
  | error e => rfl
  | ok k =>
    have fetched : (script.line { w with asked := u :: w.asked }).fetches u
        ((u :: w.asked).count u) = (script.line w).fetches u (w.asked.count u + 1) := by
      rw [List.count_cons_self]
      rfl
    show script.play (.ask s (.fetch u) _) { w with asked := u :: w.asked } = _
    simp only [Script.play, Script.answer, fetched]
    cases (script.line w).fetches u (w.asked.count u + 1) with
    | error e => exact play_release script k _ s
    | ok x => exact congrArg (script.play · _) (enroll_eq u k { x with unit := u } s)

theorem tracked_restrict {u : String} (w : Playing) (s : State η) (h : watched u = true) :
    script.tracked u (w.restrict watched) (s.restrict watched) =
      ((script.tracked u w s).1.restrict watched, (script.tracked u w s).2.restrict watched) := by
  unfold Script.tracked
  rw [count_restrict w h]
  show (match (script.line w).subscribes u (w.asked.count u) with
    | .error _ => _
    | .ok k => _) = _
  cases (script.line w).subscribes u (w.asked.count u) with
  | error e => simp [Playing.restrict, h]
  | ok k =>
    show (match (script.line w).fetches u (w.asked.count u + 1) with
      | .error _ => _
      | .ok x => _) = _
    cases (script.line w).fetches u (w.asked.count u + 1) with
    | error e => simp [Playing.restrict, h]
    | ok x =>
      have entered := Registry.restrict_enroll s.registry k (x := { x with unit := u }) rfl h
      simp [Playing.restrict, State.restrict, h, entered]

theorem tracked_of_not (script : Script η) {u : String} (w : Playing) (s : State η)
    (h : watched u = false) :
    (script.tracked u w s).1.restrict watched = w.restrict watched ∧
      (script.tracked u w s).2.restrict watched = s.restrict watched := by
  unfold Script.tracked
  cases (script.line w).subscribes u (w.asked.count u) with
  | error e => simp [Playing.restrict, h]
  | ok k =>
    cases (script.line w).fetches u (w.asked.count u + 1) with
    | error e => simp [Playing.restrict, h]
    | ok x =>
      have entered := Registry.restrict_enroll_of_not s.registry k (x := { x with unit := u }) rfl h
      simp [Playing.restrict, State.restrict, h, entered]

theorem track_mirrors {u : String} (h : watched u = true) :
    Mirrors script watched id (track u) (track u) := by
  intro w s
  rw [play_track, play_track, tracked_restrict w s h]
  rfl

theorem track_unseen {u : String} (h : watched u = false) :
    Mirrors script watched id (Pure.pure ()) (track u) := by
  intro w s
  obtain ⟨world, state⟩ := tracked_of_not script w s h
  rw [play_track, Play.restrict, world, state]
  rfl

theorem release_unseen (k : η) : Mirrors script watched id (Pure.pure ()) (release k) := by
  intro w s
  rw [play_release]
  rfl

theorem release_mirrors (k : η) : Mirrors script watched id (release k) (release k) := by
  intro w s
  rw [play_release, play_release]
  rfl

/-! ## Signals -/

/-- The event of a watched unit. -/
def seen (watched : String → Bool) (event : Option Transition) : Option Transition :=
  event.filter fun t => watched t.unit.name

theorem play_emit (script : Script η) (t : Transition) (w : Playing) (s : State η) :
    script.play (demand (ask (.emit t)) s) w =
      .ended { w with events := w.events ++ [t] } s (.ok ()) := rfl

theorem emit_mirrors {t : Transition} (h : watched t.unit.name = true) :
    Mirrors script watched id (demand (ask (.emit t)) : Step η Unit) (demand (ask (.emit t))) := by
  intro w s
  rw [play_emit, play_emit]
  simp [Play.restrict, Playing.restrict, h, Except.map]

theorem emit_unseen {t : Transition} (h : watched t.unit.name = false) :
    Mirrors script watched id (Pure.pure () : Step η Unit) (demand (ask (.emit t))) := by
  intro w s
  rw [play_emit]
  simp [Play.restrict, Playing.restrict, h, Except.map]
  rfl

theorem play_resync (script : Script η) (r : Registry η) (snapshot : Snapshot) (w : Playing)
    (s : State η) :
    script.play (resync r snapshot s) w = .ended w s
      (.ok ((differences r snapshot).map (·.event ((script.line w).clock w.taken)))) := by
  unfold resync
  generalize differences r snapshot = ds
  induction ds with
  | nil => rfl
  | cons d ds ih =>
    refine (script.play_bind (Action.collect _ ds s) _ w).trans ?_
    rw [ih]
    rfl

theorem resync_mirrors (r : Registry η) (snapshot : Snapshot) :
    Mirrors script watched (List.filter fun t => watched t.unit.name)
      (resync (r.restrict watched) (snapshot.restrict watched) : Step η _) (resync r snapshot) := by
  intro w s
  rw [play_resync, play_resync, differences_restrict]
  simp only [Play.restrict, Except.map, List.filter_map]
  rfl

/-- The plan to track every unit. -/
def Plan.unfiltered (c : Plan) : Plan := { c with watches := fun _ => true }

variable {c : Plan} {u : String} {x : RawState} {s : State η}

theorem get?_of_watched (h : watched u = true) :
    (s.restrict watched).registry.get? u = s.registry.get? u :=
  Registry.get?_restrict s.registry h

theorem get?_of_not (h : watched u = false) : (s.restrict watched).registry.get? u = none :=
  Registry.get?_restrict_of_not s.registry h

theorem removed_mirrors (h : c.watches u = true) : Mirrors script c.watches (seen c.watches)
    (handleSignal c (.removed u) : Step η _) (handleSignal c.unfiltered (.removed u)) := by
  intro w s
  cases he : s.registry.get? u with
  | none =>
    rw [handleSignal_removed_of_none he,
      handleSignal_removed_of_none ((get?_of_watched h).trans he)]
    rfl
  | some e =>
    rw [handleSignal_removed he, handleSignal_removed ((get?_of_watched h).trans he)]
    have evicted : ({ s.restrict c.watches with
        registry := (s.restrict c.watches).registry.evict u } : State η) =
        ({ s with registry := s.registry.evict u } : State η).restrict c.watches := by
      simp only [State.restrict, Registry.restrict_evict]
    rw [evicted]
    refine Mirrors.bind (release_mirrors e.subscription) (fun _ => ?_) w _
    refine (Mirrors.note _ _).bind fun _ => ?_
    exact Mirrors.pure rfl

theorem removed_unseen (h : watched u = false) : Mirrors script watched (seen watched)
    (Pure.pure none) (handleSignal c.unfiltered (.removed u) : Step η _) := by
  intro w s
  cases he : s.registry.get? u with
  | none =>
    rw [handleSignal_removed_of_none he]
    rfl
  | some e =>
    rw [handleSignal_removed he]
    have evicted : ({ s with registry := s.registry.evict u } : State η).restrict watched =
        s.restrict watched := by
      simp only [State.restrict, Registry.restrict_evict_of_not s.registry h]
    rw [← evicted]
    refine Mirrors.unseen (release_unseen e.subscription) (fun _ => ?_) w _
    refine (Mirrors.note_unseen _).unseen fun _ => ?_
    exact Mirrors.pure rfl

theorem added_mirrors (h : c.watches u = true) : Mirrors script c.watches (seen c.watches)
    (handleSignal c (.added u) : Step η _) (handleSignal c.unfiltered (.added u)) := by
  intro w s
  cases he : s.registry.get? u with
  | some e =>
    rw [handleSignal_added_of_some he, handleSignal_added_of_some ((get?_of_watched h).trans he)]
    rfl
  | none =>
    rw [handleSignal_added he rfl, handleSignal_added ((get?_of_watched h).trans he) h]
    refine Mirrors.bind (track_mirrors h) (fun _ => ?_) w s
    exact Mirrors.pure rfl

theorem added_unseen (h : watched u = false) : Mirrors script watched (seen watched)
    (Pure.pure none) (handleSignal c.unfiltered (.added u) : Step η _) := by
  intro w s
  cases he : s.registry.get? u with
  | some e =>
    rw [handleSignal_added_of_some he]
    rfl
  | none =>
    rw [handleSignal_added he rfl]
    refine Mirrors.unseen (track_unseen h) (fun _ => ?_) w s
    exact Mirrors.pure rfl

/-- What comes of a report about a tracked unit. -/
theorem play_changed (script : Script η) (c : Plan) {e : Entry η} {report : Report}
    (h : s.registry.get? x.unit = some e) (hx : x.report? = some report) (w : Playing) :
    script.play (handleSignal c (.changed x) s) w =
      .ended w { s with registry := (s.registry.apply report ((script.line w).clock w.taken)).1 }
        (.ok (e.update report ((script.line w).clock w.taken)).2) := by
  rw [handleSignal_changed h hx]
  refine (script.play_ask rfl).trans ?_
  cases (e.update report ((script.line w).clock w.taken)).2 <;> rfl

/-- The event of an entry is about its unit. -/
theorem seen_update (e : Entry η) (report : Report) (now : Microseconds) :
    seen watched (e.update report now).2 =
      if watched e.unit.name = true then (e.update report now).2 else none := by
  cases h : (e.update report now).2 with
  | none => split <;> rfl
  | some t => simp [seen, Option.filter, (Entry.states_of_update_eq_some h).1]

theorem changed_mirrors (h : c.watches x.unit = true) : Mirrors script c.watches (seen c.watches)
    (handleSignal c (.changed x) : Step η _) (handleSignal c.unfiltered (.changed x)) := by
  intro w s
  cases he : s.registry.get? x.unit with
  | none =>
    rw [handleSignal_changed_of_none he,
      handleSignal_changed_of_none ((get?_of_watched h).trans he)]
    rfl
  | some e =>
    have he' := (get?_of_watched h).trans he
    cases hx : x.report? with
    | none =>
      rw [handleSignal_changed_of_unrecognized he hx,
        handleSignal_changed_of_unrecognized he' hx]
      refine Mirrors.bind (Mirrors.note _ _) (fun _ => ?_) w s
      exact Mirrors.pure rfl
    | some report =>
      have unit : c.watches report.unit = true := by rw [RawState.unit_of_report hx, h]
      have name : c.watches e.unit.name = true := by rw [Registry.name_of_get? he, h]
      rw [play_changed script _ he hx, play_changed script _ he' hx]
      show Play.ended _ _ _ = Play.ended _ _ (Except.ok (seen c.watches _))
      rw [seen_update, if_pos name]
      have updated := Registry.apply_restrict s.registry report
        ((script.line w).clock w.taken) unit
      exact congrArg (Play.ended (w.restrict c.watches) · _)
        (congrArg (State.mk · s.connected) (congrArg Prod.fst updated))

theorem changed_unseen (h : watched x.unit = false) : Mirrors script watched (seen watched)
    (Pure.pure none) (handleSignal c.unfiltered (.changed x) : Step η _) := by
  intro w s
  cases he : s.registry.get? x.unit with
  | none =>
    rw [handleSignal_changed_of_none he]
    rfl
  | some e =>
    cases hx : x.report? with
    | none =>
      rw [handleSignal_changed_of_unrecognized he hx]
      refine Mirrors.unseen (Mirrors.note_unseen _) (fun _ => ?_) w s
      exact Mirrors.pure rfl
    | some report =>
      have unit : watched report.unit = false := by rw [RawState.unit_of_report hx, h]
      have name : ¬watched e.unit.name = true := by simp [Registry.name_of_get? he, h]
      rw [play_changed script _ he hx]
      show _ = Play.ended _ _ (Except.ok (seen watched _))
      rw [seen_update, if_neg name]
      have same := (Registry.restrict_apply_of_not s.registry report
        ((script.line w).clock w.taken) unit).1
      exact congrArg (Play.ended (w.restrict watched) · _)
        (congrArg (State.mk · s.connected) same.symm)

/-- A session that watches ignores signals about other units. -/
theorem handleSignal_mirrors (c : Plan) (signal : Signal) :
    Mirrors script c.watches (seen c.watches) (handleSignal c signal : Step η _)
      (handleSignal c.unfiltered signal) := by
  cases signal with
  | other kind =>
    refine (Mirrors.note _ _).bind fun _ => ?_
    exact Mirrors.pure rfl
  | changed x =>
    cases h : c.watches x.unit with
    | true => exact changed_mirrors h
    | false =>
      intro w s
      -- A unit that is not watched has no entry.
      rw [handleSignal_changed_of_none (get?_of_not h)]
      exact changed_unseen h w s
  | added u =>
    cases h : c.watches u with
    | true => exact added_mirrors h
    | false =>
      intro w s
      rw [handleSignal_added_of_not_watched h]
      exact added_unseen h w s
  | removed u =>
    cases h : c.watches u with
    | true => exact removed_mirrors h
    | false =>
      intro w s
      rw [handleSignal_removed_of_none (get?_of_not h)]
      exact removed_unseen h w s

theorem listenOnce_mirrors (c : Plan) :
    Mirrors script c.watches id (listenOnce c : Step η Unit) (listenOnce c.unfiltered) := by
  have signals : Mirrors script c.watches id (demand (ask .nextSignal) : Step η Signal)
      (demand (ask .nextSignal)) := by
    refine Mirrors.demand (Mirrors.ask ?_)
    intro w
    show ((script.line w).arrives w.taken).map _ = (((script.line w).arrives w.taken).map _).map _
    cases (script.line w).arrives w.taken <;> rfl
  refine signals.bind fun signal => ?_
  refine (handleSignal_mirrors c signal).bind fun event => ?_
  cases event with
  | none => exact Mirrors.pure rfl
  | some t =>
    cases h : c.watches t.unit.name with
    | true =>
      have shown : seen c.watches (some t) = some t := by simp [seen, Option.filter, h]
      rw [shown]
      exact emit_mirrors h
    | false =>
      have hidden : seen c.watches (some t) = none := by simp [seen, Option.filter, h]
      rw [hidden]
      exact emit_unseen h

/-! ## Between connections -/

theorem sleepThen_mirrors (n m : Notice) (delay : Span) (next : Stage) :
    Mirrors script watched (Option.map (Stage.restrict watched))
      (sleepThen n delay (next.restrict watched) : Step η _) (sleepThen m delay next) := by
  refine (Mirrors.note n m).bind fun _ => ?_
  refine (Mirrors.demand (Mirrors.ask fun _ => rfl)).bind fun _ => ?_
  exact Mirrors.pure rfl

theorem recover_mirrors (c : Plan) :
    Mirrors script c.watches (Option.map (Stage.restrict c.watches)) (recover c : Step η _)
      (recover c.unfiltered) := by
  intro w s
  by_cases last : c.attempts < 1
  · rw [recover_of_last last, recover_of_last (c := c.unfiltered) last]
    rfl
  · rw [recover_of_le last, recover_of_le (c := c.unfiltered) last]
    have next : Stage.opening (some (s.restrict c.watches).registry.states) 1 =
        (Stage.opening (some s.registry.states) 1).restrict c.watches :=
      congrArg (fun states => Stage.opening (some states) 1) (states_restrict c.watches s.registry)
    rw [next]
    exact sleepThen_mirrors _ _ _ _ w s

theorem retry_mirrors (c : Plan) (snapshot : Option Snapshot) (attempt : Nat) (reason : String) :
    Mirrors script c.watches (Option.map (Stage.restrict c.watches))
      (retry c (snapshot.map (Snapshot.restrict c.watches)) attempt reason : Step η _)
      (retry c.unfiltered snapshot attempt reason) := by
  cases snapshot with
  | none => exact Mirrors.fail _
  | some snapshot =>
    intro w s
    rw [Option.map_some]
    by_cases last : c.attempts < (attempt + 1 : Nat)
    · rw [retry_of_last last, retry_of_last (c := c.unfiltered) last]
      rfl
    · by_cases early : attempt + 1 ≤ 1024
      · rw [retry_of_le last early, retry_of_le (c := c.unfiltered) last early]
        exact sleepThen_mirrors _ _ _ (.opening (some snapshot) (attempt + 1)) w s
      · have late := Nat.lt_of_not_le early
        rw [retry_of_lt last late, retry_of_lt (c := c.unfiltered) last late]
        rfl

theorem listen_mirrors (c : Plan) :
    Mirrors script c.watches (Option.map (Stage.restrict c.watches)) (listen c : Step η _)
      (listen c.unfiltered) := by
  refine (listenOnce_mirrors c).attempt.bind fun r => ?_
  have same : Except.map id r = r := by cases r <;> rfl
  rw [same]
  split
  · exact Mirrors.pure rfl
  · exact recover_mirrors c
  · exact Mirrors.fail _

/-! ## Connections -/

theorem connected_mirrors (connected : Bool) :
    Mirrors script watched id (Action.modify fun s => { s with connected } : Step η Unit)
      (Action.modify fun s => { s with connected }) :=
  Mirrors.modify fun _ => rfl

theorem start_mirrors (c : Plan) :
    Mirrors script c.watches id (start c : Step η Unit) (start c.unfiltered) := by
  refine (Mirrors.demand (Mirrors.ask fun _ => rfl)).bind fun _ => ?_
  refine (connected_mirrors true).bind fun _ => ?_
  refine (Mirrors.demand (Mirrors.ask fun _ => rfl)).bind fun _ => ?_
  have listing : Mirrors script c.watches id (demand (ask .listUnits) : Step η (List String))
      (demand (ask .listUnits)) := Mirrors.demand (Mirrors.ask fun _ => rfl)
  refine listing.bind fun units => ?_
  have every : units.filter c.unfiltered.watches = units := List.filter_true units
  rw [every]
  refine (Mirrors.each (fun _ h => track_mirrors h) (fun _ h => track_unseen h) units).bind ?_
  intro _
  refine Mirrors.get.bind fun s => ?_
  exact Mirrors.note _ _

theorem openConnection_mirrors (c : Plan) (snapshot : Option Snapshot) (attempt : Nat) :
    Mirrors script c.watches (Option.map (Stage.restrict c.watches))
      (openConnection c (snapshot.map (Snapshot.restrict c.watches)) attempt : Step η _)
      (openConnection c.unfiltered snapshot attempt) := by
  refine (start_mirrors c).attempt.bind fun r => ?_
  have same : Except.map id r = r := by cases r <;> rfl
  rw [same]
  cases r with
  | error f =>
    cases f with
    | fault f =>
      cases h : f.isBusFault with
      | true =>
        simp only [h, if_true]
        exact retry_mirrors c snapshot attempt f.message
      | false =>
        simp only [h]
        exact Mirrors.fail _
    | _ => exact Mirrors.fail _
  | ok _ =>
    cases snapshot with
    | none => exact Mirrors.pure rfl
    | some snapshot =>
      refine Mirrors.get.bind fun s => ?_
      refine (resync_mirrors s.registry snapshot).bind fun ts => ?_
      -- The events of units that are not watched are seen by nobody.
      refine (Mirrors.each (fun _ h => emit_mirrors h) (fun _ h => emit_unseen h) ts).bind
        fun _ => ?_
      refine (Mirrors.note _ _).bind fun _ => ?_
      exact Mirrors.pure rfl

theorem teardown_mirrors : Mirrors script watched id (teardown : Step η Unit) teardown := by
  refine Mirrors.get.bind fun s => ?_
  have drained : Mirrors script watched id (modifyRegistry Registry.drain : Step η Unit)
      (modifyRegistry Registry.drain) := Mirrors.modify fun _ => rfl
  refine drained.bind fun _ => ?_
  have released : Mirrors script watched id
      (Action.each (fun e => release e.subscription) (s.restrict watched).registry.entries)
      (Action.each (fun e => release e.subscription) s.registry.entries) :=
    Mirrors.each (fun e _ => release_mirrors e.subscription)
      (fun e _ => release_unseen e.subscription) s.registry.entries
  refine released.bind fun _ => ?_
  refine (connected_mirrors false).bind fun _ => ?_
  exact Mirrors.demand (Mirrors.ask fun _ => rfl)

theorem closing_mirrors {x y : Step η (Option Stage)}
    (h : Mirrors script watched (Option.map (Stage.restrict watched)) x y) :
    Mirrors script watched (Stage.restrict watched) (closing x) (closing y) := by
  have left : Mirrors script watched (Option.map (Stage.restrict watched))
      (Action.onFailure x teardown) (Action.onFailure y teardown) := by
    refine h.attempt.bind fun r => ?_
    cases r with
    | ok next => exact Mirrors.pure rfl
    | error f => exact teardown_mirrors.bind fun _ => Mirrors.fail f
  refine left.bind fun next => ?_
  cases next with
  | none => exact Mirrors.pure rfl
  | some next => exact teardown_mirrors.bind fun _ => Mirrors.pure rfl

/-- **A stage of the session that watches** is the restricted stage of the one that tracks every
unit. -/
theorem stage_mirrors (c : Plan) (next : Stage) :
    Mirrors script c.watches (Stage.restrict c.watches)
      (stage c (next.restrict c.watches) : Step η Stage) (stage c.unfiltered next) := by
  cases next with
  | listening => exact closing_mirrors (listen_mirrors c)
  | opening snapshot attempt =>
    rw [Stage.restrict, stage_opening, stage_opening]
    refine (Mirrors.demand (Mirrors.ask fun _ => rfl)).bind fun _ => ?_
    exact closing_mirrors (openConnection_mirrors c snapshot attempt)

/-! ## Runs -/

theorem perform_restrict (c : Plan) (n : Nat) (next : Stage) (s : State η) (w : Playing) :
    script.perform c n (next.restrict c.watches) (s.restrict c.watches) (w.restrict c.watches) =
      (script.perform c.unfiltered n next s w).restrict c.watches (Stage.restrict c.watches) := by
  induction n generalizing next s w with
  | zero => rfl
  | succ n ih =>
    rw [Script.perform, Script.perform, stage_mirrors c next w s]
    cases script.play (stage c.unfiltered next s) w with
    | waits w => rfl
    | ended w s r =>
      cases r with
      | ok next => exact ih next s w
      | error f => rfl

/-- The session that watches takes the restricted course of the one that tracks every unit. -/
theorem session_restrict (script : Script η) (c : Plan) (n : Nat) :
    script.session c n =
      (script.session c.unfiltered n).restrict c.watches (Stage.restrict c.watches) :=
  perform_restrict c n (.opening none 0) (State.initial c.scope) {}

/-! ## Scopes -/

/-- The events are about units of the scope. -/
def Playing.Local (scope : BusScope) (w : Playing) : Prop := ∀ t ∈ w.events, t.unit.scope = scope

variable {scope : BusScope}

theorem answer_local {w w' : Playing} {s : State η} {q : Request η} {a : Answer q}
    (h : script.answer w q = some (a, w')) (home : AtHome scope () s q) (hw : w.Local scope) :
    w'.Local scope := by
  cases q with
  | emit t =>
    cases h
    intro t' ht
    rcases List.mem_append.1 ht with ht | ht
    · exact hw t' ht
    · rw [List.mem_singleton.1 ht]
      exact home
  | nextSignal =>
    obtain ⟨_, -, same⟩ := Option.map_eq_some_iff.1 h
    cases same
    exact hw
  | _ =>
    cases h
    exact hw

/-- A process whose events are about units of its scope yields no other ones. -/
theorem play_local (script : Script η) {α : Type} {post : Unit → State η → α → Prop}
    {p : Process (State η) (Answer (η := η)) α} {w : Playing}
    (h : Safe anything (AtHome scope) post p ()) (hw : w.Local scope) :
    (script.play p w).world.Local scope ∧
      ∀ w' s r, script.play p w = .ended w' s r → post () s r := by
  induction p generalizing w with
  | done s r =>
    refine ⟨hw, ?_⟩
    rintro w' s r ⟨⟩
    exact h () .refl
  | ask s q resume ih =>
    obtain ⟨home, later⟩ := h () .refl
    rw [Script.play]
    cases ha : script.answer w q with
    | none =>
      refine ⟨hw, ?_⟩
      rintro w' s r ⟨⟩
    | some answer => exact ih answer.1 (later answer.1 () trivial) (answer_local ha home hw)

theorem perform_local (script : Script η) (c : Plan) (n : Nat) (next : Stage) {s : State η}
    {w : Playing} (home : Home scope s.registry) (hw : w.Local scope) :
    (script.perform c n next s w).world.Local scope := by
  induction n generalizing next s w with
  | zero => exact hw
  | succ n ih =>
    obtain ⟨locals, ends⟩ := play_local script (stage_keeps c next s home) hw
    rw [Script.perform]
    cases hp : script.play (stage c next s) w with
    | waits w' =>
      rw [hp] at locals
      exact locals
    | ended w' s' r =>
      rw [hp] at locals
      cases r with
      | ok next => exact ih next (ends w' s' _ hp).1 locals
      | error f => exact locals

/-! ## Notifications -/

open Dispatch (required sentFor sentFor_eq)

/-- The failure with which a session has ended, if it has. -/
def Play.failure? : Play η (Except Failure Stage) → Option Failure
  | .ended _ _ (.error f) => some f
  | _ => none

theorem events_restrict {α β : Type} (f : α → β) (p : Play η (Except Failure α)) :
    (p.restrict watched f).world.events = p.world.events.filter fun t => watched t.unit.name := by
  cases p <;> rfl

theorem failure_restrict (p : Play η (Except Failure Stage)) :
    (p.restrict watched (Stage.restrict watched)).failure? = p.failure? := by
  cases p with
  | waits w => rfl
  | ended w s r => cases r <;> rfl

/-- Events about units that nobody watches call for nothing. -/
theorem required_of_watched (settings : Settings) (timeout : Span) {scope : BusScope}
    {ts : List Transition} (home : ∀ t ∈ ts, t.unit.scope = scope) :
    ((ts.filter fun t => settings.watches scope t.unit.name).flatMap fun t =>
      required settings timeout t.unit.scope t) =
      ts.flatMap fun t => required settings timeout t.unit.scope t := by
  induction ts with
  | nil => rfl
  | cons t ts ih =>
    obtain ⟨here, rest⟩ := List.forall_mem_cons.1 home
    rw [List.filter_cons, List.flatMap_cons]
    cases h : settings.watches scope t.unit.name with
    | true => rw [if_pos rfl, List.flatMap_cons, ih rest]
    | false =>
      have nothing : required settings timeout t.unit.scope t = [] :=
        Dispatch.required_of_not_watched (here ▸ h)
      rw [if_neg (by simp), nothing, ih rest]
      rfl

/-- **Tracking watched units only loses no notification.** A session that tracks the units that
rules select, and one that tracks every unit, follow the same script, for any number of stages:

- the events of the first are the events of the second about watched units, in the same order;
- dispatching the events of either sends the same notifications to the same notifiers, in the same
  order, however the sends end;
- both fail in the same way, if they do. -/
theorem watching_suffices (settings : Settings) (c : Plan)
    (selected : c.watches = settings.watches c.scope) (script : Script η) (n : Nat) (timeout : Span)
    {ends ends' : Nat → Dispatch.Outcome} (ended : ∀ k, ends k ≠ .failed .cancelled)
    (ended' : ∀ k, ends' k ≠ .failed .cancelled) :
    (script.session c n).world.events =
        (script.session c.unfiltered n).world.events.filter (fun t => c.watches t.unit.name) ∧
      sentFor settings timeout ends 0 (script.session c n).world.events =
        sentFor settings timeout ends' 0 (script.session c.unfiltered n).world.events ∧
      (script.session c n).failure? = (script.session c.unfiltered n).failure? := by
  have nothing : ({} : Playing).Local c.scope := by simp [Playing.Local]
  have home := perform_local script c.unfiltered n (.opening none 0) (Home.initial c.scope) nothing
  rw [session_restrict, events_restrict, failure_restrict, sentFor_eq settings timeout ended,
    sentFor_eq settings timeout ended', selected]
  exact ⟨rfl, required_of_watched settings timeout home, rfl⟩

/-- A rule about one unit. -/
def webOnly : Settings where
  rules := [⟨.system, [.failed], .unitName "web", [⟨"pager", .system, "org.pager"⟩]⟩]
  notifiers := [⟨"pager", .system, "org.pager"⟩]

/-- The plan to watch it. -/
def webWatch : Plan := ⟨.system, webOnly.watches .system, 3, ⟨.seconds 1, .seconds 1⟩⟩

/-- Two units fail, one of which is watched. -/
def twoFailures : Script Nat := fun _ =>
  { made := .ok ()
    connects := .ok ()
    subscribesManager := .ok ()
    lists := .ok ["db", "web"]
    subscribes := fun _ n => .ok n
    fetches := fun u _ => .ok ⟨u, "active", some 1, none⟩
    unsubscribes := fun _ => .ok ()
    arrives := fun n => [.changed ⟨"db", "failed", some 2, none⟩,
      .changed ⟨"web", "failed", some 3, none⟩][n]?.map .ok
    closes := .ok ()
    sleeps := .ok ()
    clock := fun n => n }

/-- Both failures are events of the session that tracks everything; the notifier is told of one. -/
theorem watching_suffices_for_one_unit :
    (twoFailures.session webWatch 3).world.events = [⟨⟨.system, "web"⟩, .active, .failed, 2⟩] ∧
      (twoFailures.session webWatch.unfiltered 3).world.events =
        [⟨⟨.system, "db"⟩, .active, .failed, 1⟩, ⟨⟨.system, "web"⟩, .active, .failed, 2⟩] ∧
      sentFor webOnly (.seconds 5) (fun _ => .acknowledged) 0
          [⟨⟨.system, "web"⟩, .active, .failed, 2⟩] =
        sentFor webOnly (.seconds 5) (fun _ => .overdue) 0
          [⟨⟨.system, "db"⟩, .active, .failed, 1⟩, ⟨⟨.system, "web"⟩, .active, .failed, 2⟩] := by
  have every : (twoFailures.session webWatch.unfiltered 3).world.events =
      [⟨⟨.system, "db"⟩, .active, .failed, 1⟩, ⟨⟨.system, "web"⟩, .active, .failed, 2⟩] := by
    decide
  have acknowledged (_ : Nat) : Dispatch.Outcome.acknowledged ≠ .failed .cancelled := nofun
  have overdue (_ : Nat) : Dispatch.Outcome.overdue ≠ .failed .cancelled := nofun
  obtain ⟨events, sends, -⟩ := watching_suffices webOnly webWatch rfl twoFailures 3 (.seconds 5)
    acknowledged overdue
  rw [every] at events sends
  have watched := events.trans (by decide : _ = [⟨⟨.system, "web"⟩, .active, .failed, 2⟩])
  rw [watched] at sends
  exact ⟨watched, every, sends⟩

end UnitWatch.Session
