import UnitWatch.Proofs.Session.Staggered
import UnitWatch.Proofs.Session.Unbroken

/-!
# Units that are reloaded while a session starts

A connection subscribes to removed units first, and then to new ones. A unit that comes and goes
between the two cannot stay behind: its removal is signalled.

**The registry** (`registry_of_quiet`). Once the session has taken all signals, the registry has
exactly those watched units that are loaded and were not reloaded between the two subscriptions.

**The gap** (`evicts_unit_reloaded_between`). A unit that goes and comes back between the two is
found when units are listed, and lost when its removal is taken.
-/

namespace UnitWatch.Session.Staggered

open Function (update)
open Safe (Succeeds)
open Wire (BusId Interest Manager MatchId Linked Service)

/-! ## Sessions -/

/-- The registry has exactly the watched units that are known. -/
def Synced (c : Plan) (w : Service) (r : Registry (Option MatchId)) : Prop :=
  ∀ u, r.contains u = true ↔ c.watches u = true ∧ w.Known u

/-- Where the session waits for a signal or has an event taken, with all signals taken. -/
def AtRest (c : Plan) (x : Linked Service) (s : State (Option MatchId)) :
    Request (Option MatchId) → Prop
  | .nextSignal | .emit _ => x.manager.arrivals = [] → x.bus.inbox = [] →
      Synced c x.bus s.registry
  | _ => True

/-- A connection on which the session minds its units. -/
abbrev Minding (c : Plan) (todo : String → Prop) (r : Registry (Option MatchId))
    (x : Linked Service) : Prop := Between IsConnected (Minds c todo r) x

abbrev Watching (c : Plan) (r : Registry (Option MatchId)) (x : Linked Service) : Prop :=
  Minding c (fun _ => False) r x

section

variable {path : String → String} {c : Plan} {todo : String → Prop} {u : String}
  {x : Linked Service} {s : State (Option MatchId)}

theorem Minds.synced {r : Registry (Option MatchId)} {w : Service}
    (h : Minds c (fun _ => False) r w) (silent : w.inbox = []) : Synced c w r := by
  intro u
  have silent : fate u w.inbox = none := by rw [silent]; rfl
  constructor
  · intro tracked
    have watched := h.watched u tracked
    exact ⟨watched, (h.minded u watched).sound silent tracked⟩
  · rintro ⟨watched, known⟩
    exact ((h.minded u watched).complete silent known).resolve_right id

theorem Between.synced (h : Watching c s.registry x) (arrivals : x.manager.arrivals = [])
    (inbox : x.bus.inbox = []) : Synced c x.bus s.registry := by
  obtain ⟨-, handed, same, minds⟩ := h
  rw [arrivals] at same
  obtain rfl : handed = [] := List.map_eq_nil_iff.1 same.symm
  exact minds.synced inbox

theorem stable_minding : (around path).Stable (Minding c todo s.registry) :=
  stable_between stable_minds

theorem release_minding {k : Option MatchId}
    (h : Between IsConnected (Holding c todo k s.registry) x) :
    Safe (around path) (AtRest c) (Succeeds fun x s' _ => s' = s ∧ Minding c todo s.registry x)
      (release k s) x := by
  refine ask_between (C := IsConnected)
    (Q := fun a w => a = .ok () ∧ Minds c todo s.registry w) stable_holding h
    (fun _ _ => trivial) (fun m => Manager.unsubscribe k m) (fun _ => rfl) ?_ ?_
  · rintro m w ⟨bus, connected⟩ h
    refine (unsubscribe_minds h connected).weaken ?_
    rintro w m' (f | ⟨⟩) hr
    · exact hr.elim
    · obtain ⟨rfl, h⟩ := hr
      exact ⟨⟨bus, connected⟩, rfl, rfl, h⟩
  · rintro x a ⟨hb, handed, arrivals, rfl, h⟩
    exact Safe.done stable_minding ⟨hb, handed, arrivals, h⟩ fun x h => ⟨rfl, h⟩

theorem note_between {B : Option BusId → Prop} {P : Service → Prop} (n : Notice)
    (stable : (Service.bus path).library.Stable P) (h : Between B P x) :
    Safe (around path) (AtRest c) (Succeeds fun x s' _ => s' = s ∧ Between B P x) (note n s) x := by
  refine Safe.ask (stable_between stable) h (fun _ _ => trivial) ?_
  intro x a x' h ans
  cases ans with
  | served _ serves _ => cases serves
  | noted => exact Safe.done (stable_between stable) h fun x h => ⟨rfl, h⟩

theorem note_minding (n : Notice) (h : Minding c todo s.registry x) :
    Safe (around path) (AtRest c) (Succeeds fun x s' _ => Minding c todo s'.registry x)
      (note n s) x := by
  refine (note_between n stable_minds h).weaken fun x s' r hr => hr.imp ?_
  rintro _ ⟨rfl, h⟩
  exact h

theorem look_minding (h : Minding c todo s.registry x) :
    Safe (around path) (AtRest c) (Succeeds fun x s' _ => s' = s ∧ Minding c todo s.registry x)
      (ask .clock s) x := by
  refine Safe.ask stable_minding h (fun _ _ => trivial) ?_
  intro x a x' h ans
  cases ans with
  | served _ serves _ => cases serves
  | time => exact Safe.done stable_minding h fun x h => ⟨rfl, h⟩

theorem emit_watching (event : Transition) (h : Watching c s.registry x) :
    Safe (around path) (AtRest c) (Succeeds fun x s' _ => s' = s ∧ Watching c s.registry x)
      (demand (ask (.emit event)) s) x := by
  refine Safe.ask stable_minding h (fun x h => h.synced) ?_
  intro x a x' h ans
  cases ans with
  | served _ serves _ => cases serves
  | taken => exact Safe.done stable_minding h fun x h => ⟨rfl, h⟩

theorem track_minding (distinct : Function.Injective path) (h : Minding c todo s.registry x)
    (watched : c.watches u = true) (due : todo u) :
    Safe (around path) (AtRest c)
      (Succeeds fun x s' _ => Minding c (fun v => todo v ∧ v ≠ u) s'.registry x)
      (track u s) x := by
  refine ask_between (C := IsConnected) (Q := fun a w => match a with
      | .ok k => Holding c todo k s.registry w
      | .error f => Wire.IsCallFailure f ∧ Minds c (fun v => todo v ∧ v ≠ u) s.registry w)
    stable_minds h (fun _ _ => trivial)
    (fun m => (some <$> Manager.subscribe u : Wire.Step Manager (Option MatchId)) m)
    (fun _ => rfl) ?_ ?_
  -- The subscription.
  · rintro m w ⟨bus, connected⟩ h
    refine (subscribe_minds h connected u).weaken ?_
    rintro w m' (f | k) ⟨rfl, h⟩
    · exact ⟨⟨bus, connected⟩, rfl, h⟩
    · exact ⟨⟨bus, connected⟩, rfl, h⟩
  · rintro x (f | k) h
    · obtain ⟨hb, handed, arrivals, ⟨call, reason, name, rfl⟩, h⟩ := h
      exact note_minding _ ⟨hb, handed, arrivals, h⟩
    · have h : Between IsConnected (Holding c todo k s.registry) x := h
      refine ask_between (C := IsConnected) (Q := fun a w => match a with
          | .ok raw => raw.unit = u ∧ Fetched c todo k u s.registry w
          | .error f => Wire.IsCallFailure f ∧
            Holding c (fun v => todo v ∧ v ≠ u) k s.registry w)
        stable_holding h (fun _ _ => trivial) (fun m => Manager.fetch u m) (fun _ => rfl) ?_ ?_
      · rintro m w ⟨bus, connected⟩ h
        refine (fetch_minds distinct h watched due connected).weaken ?_
        rintro w m' (f | raw) ⟨rfl, h⟩
        · exact ⟨⟨bus, connected⟩, rfl, h⟩
        · exact ⟨⟨bus, connected⟩, rfl, h⟩
      · rintro x (f | raw) h
        · obtain ⟨hb, handed, arrivals, ⟨call, reason, name, rfl⟩, h⟩ := h
          refine Safe.seq (note_between _ stable_holding ⟨hb, handed, arrivals, h⟩) ?_
          rintro x _ _ ⟨rfl, h⟩
          refine (release_minding h).weaken fun x s' r hr => hr.imp ?_
          rintro _ ⟨rfl, h⟩
          exact h
        · obtain ⟨hb, handed, arrivals, named, h⟩ := h
          refine Safe.of_eq (enroll_eq u k raw s) ?_
          rw [Registry.enroll_eq_put s.registry k named]
          -- The properties fetched are those the unit has now, or a signal of the change waits.
          have entered : Minding c (fun v => todo v ∧ v ≠ u)
              (s.registry.put (Entry.first ⟨s.registry.scope, u⟩ k raw)) x :=
            ⟨hb, handed, arrivals, h.toMinds.entered watched rfl h.held h.enters⟩
          exact note_minding (s := { s with registry := _ }) _ entered

theorem each_minding (distinct : Function.Injective path) {units : List String}
    (nodup : units.Nodup) (watched : ∀ u ∈ units, c.watches u = true)
    (h : Minding c (· ∈ units) s.registry x) :
    Safe (around path) (AtRest c) (Succeeds fun x s' _ => Watching c s'.registry x)
      (Action.each track units s) x := by
  refine Safe.eachSucceeds (I := fun rest x s => rest.Nodup ∧ (∀ u ∈ rest, c.watches u = true) ∧
    Minding c (· ∈ rest) s.registry x) ?_ ?_ units ⟨nodup, watched, h⟩
  · intro u rest x s h
    obtain ⟨nodup, watched, h⟩ := h
    obtain ⟨fresh, nodup⟩ := List.nodup_cons.1 nodup
    rw [List.forall_mem_cons] at watched
    refine (track_minding distinct h watched.1 List.mem_cons_self).weaken fun x s' r hr => hr.imp ?_
    intro _ h
    refine ⟨nodup, watched.2, h.imp fun w h => h.plan fun v _ => ?_⟩
    simp only [List.mem_cons]
    constructor
    · rintro ⟨hv | hv, other⟩
      · exact absurd hv other
      · exact hv
    · intro hv
      exact ⟨.inr hv, by rintro rfl; exact fresh hv⟩
  · intro x s h
    exact Safe.done stable_minding h.2.2 fun x h => h.imp fun w h => h.plan (by simp)

/-- The manager of a session that has not been started. -/
abbrev Waiting (x : Linked Service) : Prop := Between (fun _ => True) Service.Fresh x

theorem start_watching (distinct : Function.Injective path) (h : Waiting x)
    (empty : s.registry.entries = []) :
    Safe (around path) (AtRest c) (Succeeds fun x s' _ => Watching c s'.registry x)
      (start c s) x := by
  refine ask_between (C := IsConnected) (Q := fun a w => a = .ok () ∧ w.Fresh) stable_fresh h
    (fun _ _ => trivial) (fun m => Manager.connect m) (fun _ => rfl) ?_ ?_
  · intro m w _ fresh
    refine (connect_minds stable_fresh fresh).weaken ?_
    rintro w m' (f | ⟨⟩) hr
    · exact hr.elim
    · obtain ⟨connected, same, fresh⟩ := hr
      exact ⟨connected, same, rfl, fresh⟩
  rintro x a ⟨hb, handed, arrivals, rfl, fresh⟩
  refine ask_between (C := IsConnected) (Q := fun a w => a = .ok () ∧ Subscribed w) stable_fresh
    ⟨hb, handed, arrivals, fresh⟩ (fun _ _ => trivial) (fun m => Manager.subscribeManager m)
    (fun _ => rfl) ?_ ?_
  · rintro m w ⟨bus, connected⟩ fresh
    refine (subscribeManager_minds fresh connected).weaken ?_
    rintro w m' (f | ⟨⟩) hr
    · exact hr.elim
    · obtain ⟨connected, same, subscribed⟩ := hr
      exact ⟨connected, same, rfl, subscribed⟩
  rintro x a ⟨hb, handed, arrivals, rfl, subscribed⟩
  refine ask_between (C := IsConnected) (Q := fun a w => ∃ units, a = .ok units ∧ units.Nodup ∧
      Minds c (· ∈ units) s.registry w) stable_subscribed
    ⟨hb, handed, arrivals, subscribed⟩ (fun _ _ => trivial) (fun m => Manager.listUnits m)
    (fun _ => rfl) ?_ ?_
  · rintro m w ⟨bus, connected⟩ subscribed
    refine (listUnits_minds (c := c) subscribed connected empty).weaken ?_
    rintro w m' (f | units) hr
    · exact hr.elim
    · obtain ⟨rfl, nodup, minds⟩ := hr
      exact ⟨⟨bus, connected⟩, rfl, units, rfl, nodup, minds⟩
  rintro x a ⟨hb, handed, arrivals, units, rfl, nodup, minds⟩
  -- What is listed and watched is what is to be tracked.
  have listed : Minding c (· ∈ units.filter c.watches) s.registry x := by
    refine ⟨hb, handed, arrivals, minds.plan fun u watched => ?_⟩
    simp [watched]
  refine (each_minding (s := { s with connected := true }) distinct (nodup.filter _) ?_
    listed).seq ?_
  · exact fun u hu => (List.mem_filter.1 hu).2
  · exact fun x s' _ h => note_minding _ h

/-! ### Signals -/

/-- A signal that was taken counts as queued until it is handled. -/
abbrev Handling (c : Plan) (signal : Signal) (r : Registry (Option MatchId))
    (x : Linked Service) : Prop :=
  Between IsConnected (fun w => Minds c (fun _ => False) r (w.behind [signal])) x

theorem stable_handling {signal : Signal} : (Service.bus path).library.Stable fun w =>
    Minds c (fun _ => False) s.registry (w.behind [signal]) :=
  fun _ _ step h => h.moves (step.behind [signal])

/-- The signal that is taken is the one that was handed over first. -/
theorem next_handling {m m' : Manager} {w w' : Service} {p} {a : Except Failure Signal}
    (h : Watching c s.registry ⟨m, w⟩) (serves : m.serve .nextSignal = some p)
    (run : Carries (Service.bus path).library p w w' m' a) :
    ∃ signal, a = .ok signal ∧ Handling c signal s.registry ⟨m', w'⟩ := by
  obtain ⟨connected, handed, arrivals, minds⟩ := h
  cases handed with
  | nil =>
    have none' : m.take? = none := by simp [Manager.take?, show m.arrivals = [] from arrivals]
    simp [Manager.serve, none'] at serves
  | cons signal rest =>
    have first : m.take? = some (.ok signal, { m with arrivals := rest.map .signal }) := by
      simp [Manager.take?, show m.arrivals = .signal signal :: rest.map .signal from arrivals]
    obtain rfl : .done { m with arrivals := rest.map .signal } (.ok signal) = p := by
      simpa [Manager.serve, first] using serves
    have held : Minds c (fun _ => False) s.registry ((w.behind rest).behind [signal]) := minds
    let taken (w : Service) (m' : Manager) (a : Except Failure Signal) : Prop :=
      m' = { m with arrivals := rest.map .signal } ∧ a = .ok signal ∧
        Minds c (fun _ => False) s.registry (w.behind [signal])
    have takes : Safe (Service.bus path).library NoMatter taken _ (w.behind rest) :=
      .done (stable_handling (s := s)) held fun w h => ⟨rfl, rfl, h⟩
    obtain ⟨rfl, rfl, h⟩ := Safe.of_carries (Service.carries_behind run rest) takes
    exact ⟨signal, rfl, connected, rest, rfl, h⟩

theorem changed_watching {raw : RawState} (h : Handling c (.changed raw) s.registry x) :
    Safe (around path) (AtRest c) (Succeeds fun x s' _ => Watching c s'.registry x)
      (handleSignal c (.changed raw) s) x := by
  -- A change takes no unit in or out, whatever becomes of it.
  have h : Watching c s.registry x := h.imp fun w h => h.ignored fun _ => rfl
  cases he : s.registry.get? raw.unit with
  | none =>
    rw [handleSignal_changed_of_none he]
    exact Safe.done stable_minding h fun x h => h
  | some e =>
    cases hr : raw.report? with
    | none =>
      rw [handleSignal_changed_of_unrecognized he hr]
      refine Safe.seq (note_between _ stable_minds h) ?_
      rintro x s _ ⟨rfl, h⟩
      exact Safe.done stable_minding h fun x h => h
    | some report =>
      have tracked : s.registry.get? report.unit = some e := RawState.unit_of_report hr ▸ he
      rw [handleSignal_changed he hr]
      refine Safe.ask stable_minding h (fun _ _ => trivial) ?_
      intro x now x' h ans
      cases ans with
      | served _ serves _ => cases serves
      | time =>
        have h : Watching c (s.registry.apply report now).1 x :=
          h.imp fun w h => h.applied tracked now
        cases (e.update report now).2 with
        | none =>
          exact Safe.done (stable_minding (s := { s with registry := _ })) h fun x h => h
        | some t =>
          show Safe _ _ _ ((note _ >>= _) { s with registry := (s.registry.apply report now).1 }) x
          refine Safe.seq (note_between (s := { s with registry := _ }) _ stable_minds h) ?_
          rintro x _ _ ⟨rfl, h⟩
          exact Safe.done (stable_minding (s := { s with registry := _ })) h fun x h => h

theorem added_watching (distinct : Function.Injective path)
    (h : Handling c (.added u) s.registry x) :
    Safe (around path) (AtRest c) (Succeeds fun x s' _ => Watching c s'.registry x)
      (handleSignal c (.added u) s) x := by
  -- The signal is taken: its unit is to be tracked, unless it is.
  have h : Minding c (fun v => v = u ∧ s.registry.contains u = false) s.registry x :=
    h.imp fun w h => h.greeted
  cases he : s.registry.get? u with
  | some e =>
    have h : Watching c s.registry x := h.imp fun w h => h.plan fun v _ => by
      simp [Registry.contains_of_get? he]
    rw [handleSignal_added_of_some he]
    exact Safe.done stable_minding h fun x h => h
  | none =>
    have absent := Registry.get?_eq_none.1 he
    cases watched : c.watches u with
    | false =>
      have h : Watching c s.registry x := h.imp fun w h => h.plan fun v hv => by
        have other : v ≠ u := by
          rintro rfl
          simp [watched] at hv
        simp [other]
      rw [handleSignal_added_of_not_watched watched]
      exact Safe.done stable_minding h fun x h => h
    | true =>
      rw [handleSignal_added he watched]
      refine (track_minding distinct h watched ⟨rfl, absent⟩).seq ?_
      intro x s' _ h
      have h : Watching c s'.registry x := h.imp fun w h => h.plan fun v _ => by
        simp only [iff_false]
        exact fun both => both.2 both.1.1
      exact Safe.done stable_minding h fun x h => h

theorem removed_watching (h : Handling c (.removed u) s.registry x) :
    Safe (around path) (AtRest c) (Succeeds fun x s' _ => Watching c s'.registry x)
      (handleSignal c (.removed u) s) x := by
  cases he : s.registry.get? u with
  | none =>
    have h : Watching c s.registry x := h.imp fun w h => Registry.evict_of_get?_none he ▸ h.evicted
    rw [handleSignal_removed_of_none he]
    exact Safe.done stable_minding h fun x h => h
  | some e =>
    have h : Between IsConnected
        (Holding c (fun _ => False) e.subscription (s.registry.evict u)) x :=
      h.imp fun w h => ⟨h.evicted, h.spare e (Registry.mem_of_get? he)⟩
    rw [handleSignal_removed he]
    refine Safe.seq (release_minding (s := { s with registry := s.registry.evict u }) h) ?_
    rintro x _ _ ⟨rfl, h⟩
    refine Safe.seq (note_between _ stable_minds h) ?_
    rintro x _ _ ⟨rfl, h⟩
    exact Safe.done (stable_minding (s := { s with registry := s.registry.evict u })) h fun x h => h

theorem handleSignal_watching (distinct : Function.Injective path) {signal : Signal}
    (h : Handling c signal s.registry x) :
    Safe (around path) (AtRest c) (Succeeds fun x s' _ => Watching c s'.registry x)
      (handleSignal c signal s) x := by
  cases signal with
  | changed raw => exact changed_watching h
  | added u => exact added_watching distinct h
  | removed u => exact removed_watching h
  | other kind =>
    have h : Watching c s.registry x := h.imp fun w h => h.ignored fun _ => rfl
    refine Safe.seq (note_between _ stable_minds h) ?_
    rintro x s _ ⟨rfl, h⟩
    exact Safe.done stable_minding h fun x h => h

theorem listenOnce_watching (distinct : Function.Injective path) (h : Watching c s.registry x) :
    Safe (around path) (AtRest c) (Succeeds fun x s' _ => Watching c s'.registry x)
      (listenOnce c s) x := by
  refine Safe.ask stable_minding h (fun x h => h.synced) ?_
  intro x a x' h ans
  cases ans with
  | served _ serves run =>
    obtain ⟨signal, rfl, h⟩ := next_handling h serves run
    refine Safe.seq (handleSignal_watching distinct h) ?_
    intro x s event h
    cases event with
    | none => exact Safe.done stable_minding h fun x h => h
    | some t =>
      refine (emit_watching t h).weaken fun x s' r hr => hr.imp ?_
      rintro _ ⟨rfl, h⟩
      exact h

/-- What a session keeps on its connection. -/
theorem watching_unbroken (distinct : Function.Injective path) (c : Plan) :
    Unbroken c (around path) (AtRest c) (fun x s => Waiting x ∧ s.registry.entries = [])
      (fun x s => Watching c s.registry x) fun x s => Watching c s.registry x where
  stable s := stable_minding
  stays s := stable_minding
  goes _ _ h := h
  opens x s h := by
    obtain ⟨h, empty⟩ := h
    refine Safe.ask (stable_between stable_fresh) h (fun _ _ => trivial) ?_
    intro x a x' h ans
    cases ans with
    | served _ serves _ => cases serves
    | opened =>
      obtain ⟨-, handed, -, fresh⟩ := h
      obtain rfl : handed = [] := (List.append_eq_nil_iff.1 fresh.inbox).1
      exact Safe.done (stable_between stable_fresh) ⟨trivial, [], rfl, fresh⟩ fun x h => ⟨h, empty⟩
  starts x s h := start_watching distinct h.1 h.2
  looks x s h := look_minding h
  emits x s t h := emit_watching t h
  notes x s n h := note_between n stable_minds h
  listens x s h := listenOnce_watching distinct h

end

/-! ## Runs -/

/-- **The registry after start-up.** On a connection that subscribes to removed units first and to
new ones after that, whatever the service manager does between any two calls: the session does not
fail, and when it waits for a signal or has an event taken with all signals taken, its registry has
exactly those watched units that are loaded and did not come back between the two subscriptions. -/
theorem registry_of_quiet {path : String → String} (distinct : Function.Injective path) (c : Plan)
    (snapshot : Option Snapshot) (attempt : Nat) {x₀ x : Linked Service}
    {s₀ : State (Option MatchId)} {p : Phase (Option MatchId)} (fresh : x₀.bus.Fresh)
    (arrivals : x₀.manager.arrivals = []) (empty : s₀.registry.entries = [])
    (run : Runs c (around path) (x₀, stage c (.opening snapshot attempt) s₀) (x, p)) :
    p.outcome? = none ∧ ∀ s q resume, p = .ask s q resume →
      (q = .nextSignal ∨ ∃ event, q = .emit event) → x.manager.arrivals = [] → x.bus.inbox = [] →
      ∀ u, s.registry.contains u = true ↔
        c.watches u = true ∧ x.bus.loaded u = true ∧ ¬x.bus.Reloaded u := by
  have waiting : Waiting x₀ := ⟨trivial, [], arrivals, fresh⟩
  have stages := (watching_unbroken distinct c).stage
  refine ⟨?_, ?_⟩
  · cases hp : p.outcome? with
    | none => rfl
    | some f => exact (run.outcome stages ⟨waiting, empty⟩ hp).elim
  · rintro s q resume rfl (rfl | ⟨event, rfl⟩)
    · exact run.holds stages ⟨waiting, empty⟩
    · exact run.holds stages ⟨waiting, empty⟩

/-! ## A load and a reload between the two subscriptions -/

/-- The paths of units whose names need no escapes. -/
def unitPath (u : String) : String := "/org/freedesktop/systemd1/unit/" ++ u

theorem unitPath_injective : Function.Injective unitPath :=
  fun _ _ h => (String.append_right_inj _).1 h

/-- A service manager before anybody is connected. -/
def host (web : Bool) : Service :=
  ⟨update (fun _ => false) "web" web, fun _ => none, [], fun _ => false, fun _ => false⟩

def active : List (String × Value) := [("ActiveState", .text "active")]

theorem readable_active : UnitProperties.Readable active := by
  refine ⟨.text "active", rfl, ?_⟩
  intro s word
  obtain rfl : ActiveState.active = s := Option.some.inj word
  exact ⟨trivial, trivial⟩

section

variable (w : Service)

theorem connects : Carries (Service.bus unitPath).library (Manager.connect .unconnected) w w
    .connected (.ok ()) := by
  refine .answer _ (.installed w _) ?_
  refine .answer _ (.loopRunning w true) ?_
  refine .answer _ (.opened w _ 1) ?_
  refine .answer _ (.outlives w _) ?_
  refine .answer _ (.reportsLoss w _) ?_
  refine .answer _ (.named w _ ":1.1") ?_
  refine .answer _ (.noted w _) ?_
  exact .done _ _ _

/-- A unit is loaded after the first subscription. -/
def loadedLate : Service :=
  ⟨update (host false).loaded "web" true, update (update (host false).live 1 (some .removed)) 2
    (some .added), [], update (host false).loadHeard "web" false, (host false).unloadHeard⟩

/-- A unit is unloaded after the first subscription, and loaded again before the second. -/
def reloaded : Service :=
  ⟨update (update (host true).loaded "web" false) "web" true,
    update (update (host true).live 1 (some .removed)) 2 (some .added), [.removed "web"],
    update (host true).loadHeard "web" false, update (host true).unloadHeard "web" true⟩

theorem attaches_while_loaded : Carries (Service.bus unitPath).library
    (Manager.subscribeManager .connected) (host false) loadedLate .attached (.ok ()) := by
  refine .answer _ (.subscribed _ _ _) ?_
  refine .answer _ (.added _ _ _ 1 rfl) ?_
  refine .move (.loadUnheard _ "web" rfl ?_) ?_
  · rintro ⟨k, hk⟩
    by_cases same : k = 1 <;> simp [host, same] at hk
  refine .answer _ (.added _ _ _ 2 rfl) ?_
  exact .done _ _ _

theorem attaches_while_reloaded : Carries (Service.bus unitPath).library
    (Manager.subscribeManager .connected) (host true) reloaded .attached (.ok ()) := by
  refine .answer _ (.subscribed _ _ _) ?_
  refine .answer _ (.added _ _ _ 1 rfl) ?_
  refine .move (.unload _ "web" (by simp [host]) ⟨1, by simp⟩) ?_
  refine .move (.loadUnheard _ "web" (by simp) ?_) ?_
  · rintro ⟨k, hk⟩
    by_cases same : k = 1 <;> simp [host, same] at hk
  refine .answer _ (.added _ _ _ 2 rfl) ?_
  exact .done _ _ _

theorem lists {w : Service} (all : ∀ u, u ∈ ["web"] ↔ w.loaded u = true) :
    Carries (Service.bus unitPath).library (Manager.listUnits .attached) w w .attached
      (.ok ["web"]) := by
  refine .answer _ (.listed w _ _ ["web"] (by decide) all) ?_
  exact .done _ _ _

theorem subscribes {w : Service} (loaded : w.loaded "web" = true) (free : w.live 3 = none) :
    Carries (Service.bus unitPath).library
      ((some <$> Manager.subscribe "web" : Wire.Step Manager (Option MatchId)) .attached) w
      { w with live := update w.live 3 (some (.properties "web" (unitPath "web"))) } .attached
      (.ok (some 3)) := by
  refine .answer _ (.found w _ _ _ loaded) ?_
  refine .answer _ (.added w _ _ 3 free) ?_
  exact .done _ _ _

theorem fetches {w : Service} (loaded : w.loaded "web" = true) :
    Carries (Service.bus unitPath).library (Manager.fetch "web" .attached) w w .attached
      (.ok ⟨"web", "active", none, none⟩) := by
  refine .answer _ (.found w _ _ _ loaded) ?_
  refine .answer _ (.read w _ "web" _ active rfl loaded readable_active) ?_
  exact .done _ _ _

theorem unsubscribes (w : Service) :
    Carries (Service.bus unitPath).library (Manager.unsubscribe (some 3) .attached) w
      { w with live := update w.live 3 none } .attached (.ok ()) := by
  refine .answer _ (.removed w 3) ?_
  exact .done _ _ _

/-- A session that has discovered the unit. -/
def tracking : State (Option MatchId) :=
  ⟨⟨.system, [⟨⟨.system, "web"⟩, some .active, none, some 3⟩]⟩, true⟩

theorem reaches_tracking {goal : Linked Service × Phase (Option MatchId) → Prop} {w w' : Service}
    (attaches : Carries (Service.bus unitPath).library (Manager.subscribeManager .connected) w w'
      .attached (.ok ()))
    (all : ∀ u, u ∈ ["web"] ↔ w'.loaded u = true) (free : w'.live 3 = none)
    (rest : ∃ y, Runs .everything (around unitPath) (⟨.attached,
      { w' with live := update w'.live 3 (some (.properties "web" (unitPath "web"))) }⟩,
      stage .everything .listening tracking) y ∧ goal y) :
    ∃ y, Runs .everything (around unitPath) (⟨.unconnected, w⟩,
      stage .everything (.opening none 0) (State.initial .system)) y ∧ goal y := by
  have loaded : w'.loaded "web" = true := (all "web").1 (by decide)
  refine Runs.exists_answer (.ok ()) (.opened _ _ _) ?_
  refine Runs.exists_answer (.ok ()) (.served _ rfl (connects w)) ?_
  refine Runs.exists_answer (.ok ()) (.served _ rfl attaches) ?_
  refine Runs.exists_answer (.ok ["web"]) (.served _ rfl (lists all)) ?_
  refine Runs.exists_answer (.ok (some 3)) (.served _ rfl (subscribes loaded free)) ?_
  refine Runs.exists_answer (.ok ⟨"web", "active", none, none⟩) (.served _ rfl (fetches loaded)) ?_
  refine Runs.exists_answer () (.noted _ _ _) ?_
  refine Runs.exists_answer () (.noted _ _ _) ?_
  exact Runs.exists_next rest

/-- The load was not signalled, and the unit is found all the same. -/
theorem tracks_unit_loaded_late :
    ∃ x s resume, Runs .everything (around unitPath) (⟨.unconnected, host false⟩,
        stage .everything (.opening none 0) (State.initial .system))
          (x, .ask s .nextSignal resume) ∧
      x.bus.loaded "web" = true ∧ s.registry.contains "web" = true := by
  have all (u : String) : u ∈ ["web"] ↔ loadedLate.loaded u = true := by
    by_cases hu : u = "web" <;> simp [loadedLate, host, hu]
  have run : ∃ y, Runs .everything (around unitPath) (⟨.unconnected, host false⟩,
      stage .everything (.opening none 0) (State.initial .system)) y ∧
      ∃ s resume, y.2 = .ask s .nextSignal resume ∧ y.1.manager.arrivals = [] ∧
        y.1.bus.inbox = [] ∧ y.1.bus.loaded "web" = true ∧ y.1.bus.unloadHeard "web" = false :=
    reaches_tracking attaches_while_loaded all rfl ⟨_, .refl, _, _, rfl, rfl, rfl, rfl, rfl⟩
  obtain ⟨⟨x, p⟩, run, s, resume, rfl, arrivals, inbox, loaded, unheard⟩ := run
  have fresh : (host false).Fresh := ⟨fun _ => rfl, rfl, fun _ => rfl, fun _ => rfl⟩
  have quiet := (registry_of_quiet unitPath_injective .everything none 0 fresh rfl rfl run).2 s _
    resume rfl (.inl rfl) arrivals inbox "web"
  refine ⟨x, s, resume, run, loaded, quiet.2 ⟨rfl, loaded, ?_⟩⟩
  intro reloaded
  exact Bool.false_ne_true (unheard.symm.trans reloaded.1)

/-- **A unit can be lost that is loaded all the time signals are taken**: it was unloaded after the
first subscription and loaded again before the second, and the signal of the unload evicts it. -/
theorem evicts_unit_reloaded_between :
    ∃ x s resume, Runs .everything (around unitPath) (⟨.unconnected, host true⟩,
        stage .everything (.opening none 0) (State.initial .system))
          (x, .ask s .nextSignal resume) ∧
      x.manager.arrivals = [] ∧ x.bus.inbox = [] ∧ Plan.everything.watches "web" = true ∧
      x.bus.loaded "web" = true ∧ s.registry.contains "web" = false := by
  have all (u : String) : u ∈ ["web"] ↔ reloaded.loaded u = true := by
    by_cases hu : u = "web" <;> simp [reloaded, host, hu]
  have run : ∃ y, Runs .everything (around unitPath) (⟨.unconnected, host true⟩,
      stage .everything (.opening none 0) (State.initial .system)) y ∧
      ∃ s resume, y.2 = .ask s .nextSignal resume ∧ y.1.manager.arrivals = [] ∧
        y.1.bus.inbox = [] ∧ y.1.bus.loaded "web" = true ∧ s.registry.contains "web" = false := by
    refine reaches_tracking attaches_while_reloaded all rfl ?_
    refine Runs.exists_move (.signalled .attached ⟨[], rfl, rfl⟩) ?_
    refine Runs.exists_answer _ (.served _ rfl (.done _ _ _)) ?_
    refine Runs.exists_answer (.ok ()) (.served _ rfl (unsubscribes _)) ?_
    refine Runs.exists_answer () (.noted _ _ _) ?_
    refine Runs.exists_next ?_
    exact ⟨_, .refl, _, _, rfl, rfl, rfl, rfl, rfl⟩
  obtain ⟨⟨x, p⟩, run, s, resume, rfl, arrivals, inbox, loaded, evicted⟩ := run
  exact ⟨x, s, resume, run, arrivals, inbox, rfl, loaded, evicted⟩

end

end UnitWatch.Session.Staggered
