import UnitWatch.Proofs.Session.Following
import UnitWatch.Proofs.Session.Unbroken

/-!
# Discovery leaves no gap

While a session connects, subscribes, lists and tracks, units come and go and change their states.
Whatever the order of all that, as soon as the session has seen every signal that is queued, its
registry says what is the case (`Synced`).

**Tracks** is what holds at every moment from `subscribeManager` on: each watched unit is followed
(`Follows`), and each live subscription belongs to an entry, except for one that the session is
about to use or to give back.
-/

namespace UnitWatch.Session

open Function (update)

variable {η : Type}

namespace ServiceManager

/-- A move of the manager keeps what holds of a unit. A tracked unit is heard. -/
theorem Moves.follows {m m' : ServiceManager η} (h : Moves m m') (announces : m.announces = true)
    {u : String} {todo : Prop} {entry : Option (Entry η)}
    (heard : entry.isSome = true → ∃ h, m.live h = some u)
    (hu : Follows u todo entry (m.history u) m.queue) :
    Follows u todo entry (m'.history u) m'.queue := by
  cases h with
  | load x absent stamped =>
    simp only [announce, if_pos announces]
    by_cases hx : u = x.unit
    · subst hx
      rw [absent] at hu
      simpa using hu.load x
    · rw [Function.update_of_ne hx]
      exact hu.unheard ⟨by simp [Signal.fateOf, Ne.symm hx], rfl⟩
  | unload v loaded =>
    simp only [announce, if_pos announces]
    by_cases hv : u = v
    · subst hv
      simpa using Follows.unload todo entry m.queue
    · rw [Function.update_of_ne hv]
      exact hu.unheard ⟨by simp [Signal.fateOf, Ne.symm hv], rfl⟩
  | changeHeard x loaded stamped newer listener =>
    by_cases hx : u = x.unit
    · subst hx
      simpa using hu.change loaded rfl
    · simp only [Function.update_of_ne hx]
      exact hu.unheard ⟨rfl, by simp [Signal.changeOf, Ne.symm hx]⟩
  | changeUnheard x loaded stamped newer unheard =>
    by_cases hx : u = x.unit
    · subst hx
      cases entry with
      | none => simpa using hu.changeUnheard loaded x
      | some e =>
        -- A unit with an entry has a subscription, so its change would have been heard.
        obtain ⟨h, hh⟩ := heard rfl
        exact absurd hh (unheard h)
    · simpa only [Function.update_of_ne hx] using hu
  | other kind announces => exact hu.unheard ⟨rfl, rfl⟩

theorem Moves.announces_eq {m m' : ServiceManager η} (h : Moves m m') :
    m'.announces = m.announces := by
  cases h <;> rfl

theorem Moves.live_eq {m m' : ServiceManager η} (h : Moves m m') : m'.live = m.live := by
  cases h <;> rfl

/-- A signal in front of the queue is in nobody's way. -/
theorem Moves.push {m m' : ServiceManager η} (h : Moves m m') (s : Signal) :
    Moves { m with queue := s :: m.queue } { m' with queue := s :: m'.queue } := by
  have announce (t : Signal) : s :: m.announce t =
      ServiceManager.announce { m with queue := s :: m.queue } t := by
    unfold ServiceManager.announce
    split <;> rfl
  cases h with
  | load x absent stamped =>
    simp only [announce]
    exact .load { m with queue := s :: m.queue } x absent stamped
  | unload u loaded =>
    simp only [announce]
    exact .unload { m with queue := s :: m.queue } u loaded
  | changeHeard x loaded stamped newer heard => exact .changeHeard _ x loaded stamped newer heard
  | changeUnheard x loaded stamped newer unheard =>
    exact .changeUnheard _ x loaded stamped newer unheard
  | other kind announces => exact .other _ kind announces

/-- Nobody is connected. -/
structure Fresh (m : ServiceManager η) : Prop where
  sound : m.Sound
  silent : m.announces = false
  queue : m.queue = []
  live : ∀ h, m.live h = none
  unsignalled : ∀ u, ∀ y ∈ m.history u, y.signalled = false

theorem Fresh.moves {m m' : ServiceManager η} (h : m.Fresh) (step : Moves m m') : m'.Fresh := by
  have nobody (x : RawState) : ¬∃ k, m.live k = some x.unit := by simp [h.live]
  have silent (t : Signal) : m.announce t = [] := by simp [announce, h.silent, h.queue]
  refine ⟨step.sound h.sound, step.announces_eq ▸ h.silent, ?_, step.live_eq ▸ h.live, ?_⟩
  · cases step with
    | load | unload => exact silent _
    | changeHeard x _ _ _ heard => exact absurd heard (nobody x)
    | changeUnheard => exact h.queue
    | other _ announces => exact absurd announces (by simp [h.silent])
  · have keeps {v : String} {past : List Stay} (hp : ∀ y ∈ past, y.signalled = false) (u : String) :
        ∀ y ∈ update m.history v past u, y.signalled = false := by
      by_cases hu : u = v
      · subst hu
        simpa using hp
      · simpa only [Function.update_of_ne hu] using h.unsignalled u
    cases step with
    | load x _ _ => exact keeps (by simp)
    | unload v _ => exact keeps (by simp)
    | changeHeard x _ _ _ heard => exact absurd heard (nobody x)
    | changeUnheard x _ _ _ _ => exact keeps (by simpa using h.unsignalled x.unit)
    | other kind _ => exact h.unsignalled

end ServiceManager

/-! ## The invariant -/

/-- The session and its manager since loads are announced. `todo` are the units about to be tracked,
and `loose` is a live subscription that no entry has. -/
structure Tracks (c : Plan) (todo : String → Prop) (loose : Option (η × String))
    (m : ServiceManager η) (r : Registry η) : Prop where
  sound : m.Sound
  announces : m.announces = true
  wellFormed : r.WellFormed
  watched : ∀ u e, r.get? u = some e → c.watches u = true
  spare : ∀ h u, loose = some (h, u) → r.get? u = none
  live : ∀ h u, m.live h = some u ↔
    (∃ e, r.get? u = some e ∧ e.subscription = h) ∨ loose = some (h, u)
  follows : ∀ u, c.watches u = true → Follows u (todo u) (r.get? u) (m.history u) m.queue

/-- Nothing is left to be tracked, and every live subscription has its entry. -/
abbrev Watching (c : Plan) (m : ServiceManager η) (r : Registry η) : Prop :=
  Tracks c (fun _ => False) none m r

namespace Tracks

variable {c : Plan} {todo : String → Prop} {loose : Option (η × String)} {m m' : ServiceManager η}
  {r : Registry η}

theorem moves (h : Tracks c todo loose m r) (step : ServiceManager.Moves m m') :
    Tracks c todo loose m' r where
  sound := step.sound h.sound
  announces := step.announces_eq ▸ h.announces
  wellFormed := h.wellFormed
  watched := h.watched
  spare := h.spare
  live := step.live_eq ▸ h.live
  follows u hu := by
    refine step.follows h.announces ?_ (h.follows u hu)
    intro he
    obtain ⟨e, he⟩ := Option.isSome_iff_exists.1 he
    exact ⟨e.subscription, (h.live _ u).2 (.inl ⟨e, he, rfl⟩)⟩

theorem stable (c : Plan) (todo : String → Prop) (loose : Option (η × String)) (r : Registry η)
    [DecidableEq η] : ServiceManager.around.Stable fun m => Tracks c todo loose m r :=
  fun _ _ step h => h.moves step

/-- While a signal is being handled, what was so with the signal in the queue goes on. -/
theorem stable_held (c : Plan) (todo : String → Prop) (loose : Option (η × String)) (r : Registry η)
    (s : Signal) [DecidableEq η] : ServiceManager.around.Stable fun m =>
      Tracks c todo loose { m with queue := s :: m.queue } r :=
  fun _ _ step h => h.moves (step.push s)

theorem plan (t : Tracks c todo loose m r) {todo' : String → Prop}
    (imp : ∀ u, c.watches u = true → todo u → todo' u) : Tracks c todo' loose m r :=
  { t with follows := fun u hu => (t.follows u hu).plan fun _ _ _ => imp u hu }

/-- When the manager starts to announce, every unit is still to be tracked. -/
theorem begin (fresh : m.Fresh) (empty : r.entries = []) :
    Tracks c (fun _ => True) none { m with announces := true } r := by
  have nothing (v : String) : r.get? v = none := by simp [Registry.get?, empty]
  refine ⟨fresh.sound, rfl, ⟨by simp [empty], by simp [empty]⟩, by simp [nothing], by simp,
    by simp [nothing, fresh.live], ?_⟩
  intro v _
  rw [nothing, fresh.queue]
  refine ⟨by simp [fate], by simp [fate], by simp, fun _ _ => .inr trivial, by simp [current],
    .inl ?_, by simp⟩
  intro y hy signalled
  rw [fresh.unsignalled v y hy] at signalled
  cases signalled

/-! ### Tracking a unit -/

variable {u : String} {h : η}

theorem subscribed [DecidableEq η] (t : Tracks c todo none m r) (absent : r.get? u = none)
    (unused : m.live h = none) :
    Tracks c todo (some (h, u)) { m with live := update m.live h (some u) } r := by
  refine { t with spare := ?_, live := ?_ }
  · intro h' v eq
    cases eq
    exact absent
  · intro h' v
    by_cases hh : h' = h
    · subst hh
      have nobody : ¬∃ e, r.get? v = some e ∧ e.subscription = h' := fun he => by
        have := (t.live h' v).2 (.inl he)
        rw [unused] at this
        cases this
      simp [nobody]
    · simpa [Function.update_of_ne hh, Ne.symm hh] using t.live h' v

theorem released [DecidableEq η] (t : Tracks c todo (some (h, u)) m r) :
    Tracks c todo none { m with live := update m.live h none } r := by
  refine { t with spare := by simp, live := ?_ }
  intro h' v
  by_cases hh : h' = h
  · subst hh
    have this := (t.live h' u).2 (.inr rfl)
    have nobody : ¬∃ e, r.get? v = some e ∧ e.subscription = h' := fun he => by
      obtain rfl : u = v := by simpa [this] using (t.live h' v).2 (.inl he)
      obtain ⟨e, he, -⟩ := he
      rw [t.spare h' u rfl] at he
      cases he
    simp [nobody]
  · simpa [Function.update_of_ne hh, Ne.symm hh] using t.live h' v

/-- The unit is left alone, since it is not loaded. -/
theorem skipped (t : Tracks c todo loose m r) (absent : m.history u = []) :
    Tracks c (fun v => todo v ∧ v ≠ u) loose m r := by
  refine { t with follows := fun v hv => (t.follows v hv).plan ?_ }
  intro _ _ loaded htodo
  refine ⟨htodo, ?_⟩
  rintro rfl
  exact loaded absent

/-- The unit gets an entry. -/
theorem entered (t : Tracks c todo (some (h, u)) m r) (watched : c.watches u = true) {e : Entry η}
    (unit : e.unit = ⟨r.scope, u⟩) (subscription : e.subscription = h)
    (follows : Follows u (todo u) (none : Option (Entry η)) (m.history u) m.queue →
      Follows u False (some e) (m.history u) m.queue) :
    Tracks c (fun v => todo v ∧ v ≠ u) none m (r.put e) := by
  have absent := t.spare h u rfl
  have name : e.unit.name = u := by rw [unit]
  have self : (r.put e).get? u = some e := name ▸ Registry.get?_put_self r e
  have other : ∀ v, v ≠ u → (r.put e).get? v = r.get? v := fun v hv =>
    Registry.get?_put_of_ne r (name ▸ hv)
  refine ⟨t.sound, t.announces, t.wellFormed.put (by rw [unit]), fun v e' he' => ?_, by simp,
    fun h' v => ?_, fun v hv => ?_⟩ <;> by_cases hvu : v = u
  · exact hvu ▸ watched
  · exact t.watched v e' (other v hvu ▸ he')
  · subst hvu
    rw [t.live h' v, absent, self]
    simp [subscription, eq_comm]
  · rw [t.live h' v, other v hvu]
    simp [Ne.symm hvu]
  · subst hvu
    rw [self]
    exact (follows (absent ▸ t.follows v hv)).plan fun _ _ _ => False.elim
  · rw [other v hvu]
    exact (t.follows v hv).plan fun _ _ _ htodo => ⟨htodo, hvu⟩

/-! ### Handling a signal -/

variable {e : Entry η} {signal : Signal} {x : RawState}

/-- A signal that changes nothing in the registry. -/
theorem handled (t : Watching c { m with queue := signal :: m.queue } r)
    (follows : ∀ u, Follows u False (r.get? u) (m.history u) (signal :: m.queue) →
      Follows u (todo u) (r.get? u) (m.history u) m.queue) : Tracks c todo none m r :=
  { t with follows := fun u hu => follows u (t.follows u hu) }

theorem applied
    (t : Watching c { m with queue := .changed x :: m.queue } r)
    (he : r.get? x.unit = some e) {report : Report} (hr : x.report? = some report)
    (now : Microseconds) : Watching c m (r.apply report now).1 := by
  have unit := RawState.unit_of_report hr
  have get? := Registry.get?_apply now (unit.symm ▸ he)
  rw [unit] at get?
  refine ⟨t.sound, t.announces, t.wellFormed.apply report now, fun u e' he' => ?_, by simp,
    fun h u => ?_, fun u hu => ?_⟩ <;> by_cases hux : u = x.unit
  · exact hux ▸ t.watched _ e he
  · rw [get?, if_neg hux] at he'
    exact t.watched u e' he'
  · subst hux
    rw [t.live h, get?, if_pos rfl, he]
    simp
  · rw [t.live h, get?, if_neg hux]
  · subst hux
    have follows := t.follows _ hu
    rw [he] at follows
    rw [get?, if_pos rfl]
    exact follows.heed rfl fun y hy hyx accurate =>
      accurate.apply hy hyx (hyx ▸ (t.sound _).stamped y hy) hr now
  · rw [get?, if_neg hux]
    exact (t.follows u hu).skip ⟨rfl, by simp [Signal.changeOf, Ne.symm hux]⟩

theorem evicted (t : Watching c { m with queue := .removed u :: m.queue } r)
    (he : r.get? u = some e) :
    Tracks c (fun _ => False) (some (e.subscription, u)) m (r.evict u) := by
  have get? := r.get?_evict u
  refine ⟨t.sound, t.announces, t.wellFormed.evict u, ?_, ?_, ?_, ?_⟩
  · intro v e' he'
    rw [get?] at he'
    split at he'
    · cases he'
    · exact t.watched v e' he'
  · intro h v eq
    cases eq
    rw [get?, if_pos rfl]
  · intro h v
    rw [t.live h v, get?]
    by_cases hvu : v = u
    · subst hvu
      simp [he]
    · simp [hvu, Ne.symm hvu]
  · intro v hv
    rw [get?]
    by_cases hvu : v = u
    · subst hvu
      rw [if_pos rfl]
      exact (t.follows v hv).evict
    · rw [if_neg hvu]
      exact (t.follows v hv).skip ⟨by simp [Signal.fateOf, Ne.symm hvu], rfl⟩

end Tracks

/-! ## What the session knows -/

/-- The registry is what the manager says: it has the watched units that are loaded, each with a
subscription of its own and in its current state, if that is one of the five. What a settled entry
says was the case in this lifetime, and no change that was signalled in it is news to an entry. -/
structure Synced (c : Plan) (m : ServiceManager η) (r : Registry η) : Prop where
  wellFormed : r.WellFormed
  covers : ∀ u, r.contains u = true ↔ c.watches u = true ∧ m.history u ≠ []
  live : ∀ h u, m.live h = some u ↔ ∃ e, r.get? u = some e ∧ e.subscription = h
  current : ∀ u e, r.get? u = some e → ∀ y past, m.history u = y :: past →
    ∀ x, y.state.report? = some x → e.state = some x.state ∧ e.timestamp = x.monotonic
  settled : ∀ u e, r.get? u = some e → ∀ s, e.state = some s → ∃ y ∈ m.history u,
    ∃ x, y.state.report? = some x ∧ x.state = s ∧ x.monotonic = e.timestamp
  heard : ∀ u e, r.get? u = some e → ∀ y ∈ m.history u, y.signalled = true →
    ∀ x, y.state.report? = some x → e.isStale x.monotonic = true
  pending : ∀ u e, r.get? u = some e → e.state = none → e.timestamp = none

/-- When nothing is queued and nothing is to be done, the registry is what the manager says. -/
theorem Tracks.synced {c : Plan} {m : ServiceManager η} {r : Registry η}
    (t : Watching c m r) (quiet : m.queue = []) : Synced c m r := by
  have follows (u : String) (hu : c.watches u = true) :
      Follows u False (r.get? u) (m.history u) [] := quiet ▸ t.follows u hu
  have accurate (u : String) (e : Entry η) (he : r.get? u = some e) :
      Accurate e (m.history u) [] :=
    (follows u (t.watched u e he)).accurate e he List.not_mem_nil
  refine ⟨t.wellFormed, fun u => ⟨fun hu => ?_, fun ⟨watched, loaded⟩ => ?_⟩, by simpa using t.live,
    fun u e he y past hy x hx => ?_, fun u e he => (accurate u e he).known,
    fun u e he y hy signalled x hx => ?_, fun u e he => (accurate u e he).pending⟩
  · rw [Registry.contains_eq] at hu
    obtain ⟨e, he⟩ := Option.isSome_iff_exists.1 hu
    have watched := t.watched u e he
    exact ⟨watched, (follows u watched).present rfl hu⟩
  · rw [Registry.contains_eq]
    exact ((follows u watched).absent rfl loaded).resolve_right id
  · have ha := accurate u e he
    have increasing := (t.sound u).increasing
    rw [hy] at ha increasing
    exact ha.current increasing hx
  · exact ((accurate u e he).covered y hy (.inl signalled) x hx).resolve_left List.not_mem_nil

/-- The session waits for a signal, or has an event taken: it has done what there was to do. -/
def AtRest (c : Plan) (m : ServiceManager η) (s : State η) : Request η → Prop
  | .nextSignal | .emit _ => m.queue = [] → Synced c m s.registry
  | _ => True

/-! ## The steps of a session -/

section

open Safe ServiceManager

variable [DecidableEq η] {c : Plan} {todo : String → Prop} {m : ServiceManager η} {s : State η}
  {u : String} {h : η}

theorem release_tracks (t : Tracks c todo (some (h, u)) m s.registry) :
    Safe around (AtRest c) (Succeeds fun m s' _ => s' = s ∧ Tracks c todo none m s.registry)
      (release h s) m := by
  refine Safe.ask (Tracks.stable _ _ _ _) t (fun _ _ => trivial) ?_
  intro m a m' t ans
  cases ans
  exact Safe.done (Tracks.stable _ _ _ _) t.released fun m t => ⟨rfl, t⟩

theorem track_tracks (t : Tracks c todo none m s.registry) (absent : s.registry.get? u = none)
    (watched : c.watches u = true) :
    Safe around (AtRest c) (Succeeds fun m s' _ =>
      Tracks c (fun v => todo v ∧ v ≠ u) none m s'.registry ∧
      ∀ v, v ≠ u → s'.registry.get? v = s.registry.get? v) (track u s) m := by
  refine Safe.ask (Tracks.stable _ _ _ _) t (fun _ _ => trivial) ?_
  intro m a m' t ans
  cases ans with
  | notSubscribed _ call reason name gone =>
    refine Safe.ask (Tracks.stable _ _ _ _) (t.skipped gone) (fun _ _ => trivial) ?_
    intro m a m' t ans
    cases ans
    exact Safe.done (Tracks.stable _ _ _ _) t fun m t => ⟨t, fun _ _ => rfl⟩
  | subscribed _ h loaded unused =>
    refine Safe.ask (Tracks.stable _ _ _ _) (t.subscribed absent unused) (fun _ _ => trivial) ?_
    intro m a m' t ans
    cases ans with
    | notFetched _ call reason name gone =>
      refine Safe.ask (Tracks.stable _ _ _ _) (t.skipped gone) (fun _ _ => trivial) ?_
      intro m a m' t ans
      cases ans
      refine (release_tracks t).weaken fun m s' r hr => hr.imp ?_
      intro _ h
      obtain ⟨rfl, t⟩ := h
      exact ⟨t, fun _ _ => rfl⟩
    | fetched _ x past loaded =>
      -- What is fetched is the latest state of the lifetime that is subscribed to.
      have lifetime := t.sound u
      rw [loaded] at lifetime
      have named : x.state.unit = u := lifetime.named x List.mem_cons_self
      refine Safe.of_eq (enroll_eq u h x.state s) ?_
      rw [Registry.enroll_eq_put s.registry h named]
      have t' := t.entered (e := Entry.first ⟨s.registry.scope, u⟩ h x.state) watched rfl rfl
        fun f => by
          rw [loaded] at f ⊢
          exact f.settle fun told => .first (lifetime.stamped x List.mem_cons_self) told _ h
      refine Safe.ask (Tracks.stable _ _ _ _) t' (fun _ _ => trivial) ?_
      intro m a m' t ans
      cases ans
      exact Safe.done (Tracks.stable _ _ _ _) t fun m t =>
        ⟨t, fun v hv => Registry.get?_put_of_ne _ hv⟩

theorem each_tracks {units : List String} (nodup : units.Nodup)
    (watched : ∀ u ∈ units, c.watches u = true) (absent : ∀ u ∈ units, s.registry.get? u = none)
    (t : Tracks c (· ∈ units) none m s.registry) :
    Safe around (AtRest c) (Succeeds fun m s' _ => Watching c m s'.registry)
      (Action.each track units s) m := by
  refine Safe.eachSucceeds (I := fun rest m s => rest.Nodup ∧ (∀ u ∈ rest, c.watches u = true) ∧
      (∀ u ∈ rest, s.registry.get? u = none) ∧ Tracks c (· ∈ rest) none m s.registry)
    ?_ ?_ units ⟨nodup, watched, absent, t⟩
  · intro u rest m s h
    obtain ⟨nodup, watched, absent, t⟩ := h
    obtain ⟨fresh, nodup⟩ := List.nodup_cons.1 nodup
    rw [List.forall_mem_cons] at watched absent
    refine (track_tracks t absent.1 watched.1).weaken fun m s' r hr => hr.imp ?_
    intro _ h
    obtain ⟨t, frame⟩ := h
    refine ⟨nodup, watched.2, ?_, t.plan ?_⟩
    · intro v hv
      rw [frame v (by rintro rfl; exact fresh hv)]
      exact absent.2 v hv
    · rintro v - ⟨hv, hne⟩
      exact (List.mem_cons.1 hv).resolve_left hne
  · intro m s h
    exact Safe.done (Tracks.stable _ _ _ _) h.2.2.2 fun m t => t.plan fun v _ hv => by simp at hv

theorem start_tracks (fresh : m.Fresh) (empty : s.registry.entries = []) :
    Safe around (AtRest c) (Succeeds fun m s' _ => Watching c m s'.registry)
      (start c s) m := by
  refine Safe.ask (fun _ _ step h => h.moves step) fresh (fun _ _ => trivial) ?_
  intro m a m' fresh ans
  cases ans
  refine Safe.ask (fun _ _ step h => h.moves step) fresh (fun _ _ => trivial) ?_
  intro m a m' fresh ans
  cases ans
  have begins := Tracks.begin (c := c) fresh empty
  refine Safe.ask (Tracks.stable _ _ _ _) begins (fun _ _ => trivial) ?_
  intro m a m' t ans
  cases ans with
  | listed units nodup loaded =>
    -- A unit that is loaded by now is on the list, so the list is all that is left to do.
    have t' : Tracks c (· ∈ units.filter c.watches) none m s.registry :=
      { t with follows := fun u hu => (t.follows u hu).plan fun _ _ hl _ =>
          List.mem_filter.2 ⟨(loaded u).2 hl, hu⟩ }
    refine (each_tracks (s := { s with connected := true }) (nodup.filter _) ?_ ?_ t').seq ?_
    · exact fun u hu => (List.mem_filter.1 hu).2
    · simp [Registry.get?, empty]
    · intro m s' _ t
      refine Safe.ask (Tracks.stable _ _ _ _) t (fun _ _ => trivial) ?_
      intro m a m' t ans
      cases ans
      exact Safe.done (Tracks.stable _ _ _ _) t fun m t => t

/-- An event is taken. -/
theorem emit_tracks {event : Transition} (t : Watching c m s.registry) :
    Safe around (AtRest c) (Succeeds fun m s' _ =>
      s' = s ∧ Watching c m s.registry) (demand (ask (.emit event)) s) m := by
  refine Safe.ask (Tracks.stable _ _ _ _) t (fun m t => t.synced) ?_
  intro m a m' t ans
  cases ans
  exact Safe.done (Tracks.stable _ _ _ _) t fun m t => ⟨rfl, t⟩

/-- A change is handled. Until the session is done with a signal, it counts as queued. -/
theorem changed_tracks {x : RawState}
    (t : Watching c { m with queue := .changed x :: m.queue } s.registry) :
    Safe around (AtRest c) (Succeeds fun m s' _ => Watching c m s'.registry)
      (handleSignal c (.changed x) s) m := by
  cases he : s.registry.get? x.unit with
  | none =>
    -- Without an entry the change is lost on its unit, and it says nothing about others.
    have t : Watching c m s.registry := t.handled fun u f => by
      by_cases hu : u = x.unit
      · subst hu
        rw [he] at f ⊢
        exact f.ignore
      · exact f.skip ⟨rfl, by simp [Signal.changeOf, Ne.symm hu]⟩
    rw [handleSignal_changed_of_none he]
    exact Safe.done (Tracks.stable _ _ _ _) t fun m t => t
  | some e =>
    cases hx : x.report? with
    | none =>
      have t : Watching c m s.registry := t.handled fun u f => by
        by_cases hu : u = x.unit
        · subst hu
          rw [he] at f ⊢
          exact f.heed rfl fun _ _ _ accurate => accurate.skip hx
        · exact f.skip ⟨rfl, by simp [Signal.changeOf, Ne.symm hu]⟩
      rw [handleSignal_changed_of_unrecognized he hx]
      refine Safe.ask (Tracks.stable _ _ _ _) t (fun _ _ => trivial) ?_
      intro m a m' t ans
      cases ans
      exact Safe.done (Tracks.stable _ _ _ _) t fun m t => t
    | some report =>
      rw [handleSignal_changed he hx]
      refine Safe.ask (Tracks.stable_held _ _ _ _ _) t (fun _ _ => trivial) ?_
      intro m now m' t ans
      cases ans
      have t := t.applied he hx now
      cases he' : (e.update report now).2 with
      | none => exact Safe.done (Tracks.stable _ _ _ _) t fun m t => t
      | some event =>
        refine Safe.ask (Tracks.stable _ _ _ _) t (fun _ _ => trivial) ?_
        intro m a m' t ans
        cases ans
        exact Safe.done (Tracks.stable _ _ _ _) t fun m t => t

theorem added_tracks (t : Watching c { m with queue := .added u :: m.queue } s.registry) :
    Safe around (AtRest c) (Succeeds fun m s' _ => Watching c m s'.registry)
      (handleSignal c (.added u) s) m := by
  -- Once the signal is taken, the unit is one to be tracked unless it has an entry.
  have t : Tracks c (fun v => v = u ∧ s.registry.get? v = none) none m s.registry := by
    refine t.handled ?_
    intro v f
    by_cases hv : v = u
    · subst hv
      exact f.greet.plan fun _ absent _ _ => ⟨rfl, absent⟩
    · exact (f.skip ⟨by simp [Signal.fateOf, Ne.symm hv], rfl⟩).plan fun _ _ _ => False.elim
  cases he : s.registry.get? u with
  | some e =>
    have t : Watching c m s.registry := t.plan <| by
      rintro v - ⟨hv, absent⟩
      rw [hv, he] at absent
      cases absent
    rw [handleSignal_added_of_some he]
    exact Safe.done (Tracks.stable _ _ _ _) t fun m t => t
  | none =>
    cases watched : c.watches u with
    | false =>
      have t : Watching c m s.registry := t.plan <| by
        rintro v hv ⟨hvu, -⟩
        rw [hvu, watched] at hv
        cases hv
      rw [handleSignal_added_of_not_watched watched]
      exact Safe.done (Tracks.stable _ _ _ _) t fun m t => t
    | true =>
      rw [handleSignal_added he watched]
      refine (track_tracks t he watched).seq ?_
      intro m s' _ h
      have t : Watching c m s'.registry := h.1.plan fun v _ h => h.2 h.1.1
      exact Safe.done (Tracks.stable _ _ _ _) t fun m t => t

theorem removed_tracks (t : Watching c { m with queue := .removed u :: m.queue } s.registry) :
    Safe around (AtRest c) (Succeeds fun m s' _ => Watching c m s'.registry)
      (handleSignal c (.removed u) s) m := by
  cases he : s.registry.get? u with
  | none =>
    have t : Watching c m s.registry := t.handled fun v f => by
      by_cases hv : v = u
      · subst hv
        rw [he] at f ⊢
        exact f.evict
      · exact f.skip ⟨by simp [Signal.fateOf, Ne.symm hv], rfl⟩
    rw [handleSignal_removed_of_none he]
    exact Safe.done (Tracks.stable _ _ _ _) t fun m t => t
  | some e =>
    rw [handleSignal_removed he]
    refine (release_tracks (t.evicted he)).seq ?_
    intro m s' _ h
    obtain ⟨rfl, t⟩ := h
    refine Safe.ask (Tracks.stable _ _ _ _) t (fun _ _ => trivial) ?_
    intro m a m' t ans
    cases ans
    exact Safe.done (Tracks.stable _ _ _ _) t fun m t => t

theorem handleSignal_tracks {signal : Signal}
    (t : Watching c { m with queue := signal :: m.queue } s.registry) :
    Safe around (AtRest c) (Succeeds fun m s' _ => Watching c m s'.registry)
      (handleSignal c signal s) m := by
  cases signal with
  | changed x => exact changed_tracks t
  | added u => exact added_tracks t
  | removed u => exact removed_tracks t
  | other kind =>
    have t := t.handled fun u f => f.skip ⟨rfl, rfl⟩
    refine Safe.ask (Tracks.stable _ _ _ _) t (fun _ _ => trivial) ?_
    intro m a m' t ans
    cases ans
    exact Safe.done (Tracks.stable _ _ _ _) t fun m t => t

theorem listenOnce_tracks (t : Watching c m s.registry) :
    Safe around (AtRest c) (Succeeds fun m s' _ => Watching c m s'.registry)
      (listenOnce c s) m := by
  refine Safe.ask (Tracks.stable _ _ _ _) t (fun m t => t.synced) ?_
  intro m a m' t ans
  cases ans with
  | signalled signal rest first =>
    have held : Watching c { m with queue := signal :: rest } s.registry := first ▸ t
    refine Safe.seq (handleSignal_tracks held) ?_
    intro m s' event t
    cases event with
    | none => exact Safe.done (Tracks.stable _ _ _ _) t fun m t => t
    | some event =>
      refine (emit_tracks t).weaken fun m s'' r hr => hr.imp ?_
      intro _ h
      obtain ⟨rfl, t⟩ := h
      exact t

/-- What a session keeps on its connection. -/
theorem tracks_unbroken (c : Plan) :
    Unbroken c (around : Around η (ServiceManager η)) (AtRest c)
      (fun m s => m.Fresh ∧ s.registry.entries = []) (fun m s => Watching c m s.registry)
      fun m s => Watching c m s.registry where
  stable _ := Tracks.stable _ _ _ _
  stays _ := Tracks.stable _ _ _ _
  goes _ _ t := t
  opens m s h := by
    refine Safe.ask (fun _ _ step h => h.moves step) h.1 (fun _ _ => trivial) ?_
    intro m a m' fresh ans
    cases ans
    exact Safe.done (fun _ _ step h => h.moves step) fresh fun m fresh => ⟨fresh, h.2⟩
  starts m s h := start_tracks h.1 h.2
  looks m s t := by
    refine Safe.ask (Tracks.stable _ _ _ _) t (fun _ _ => trivial) ?_
    intro m a m' t ans
    cases ans
    exact Safe.done (Tracks.stable _ _ _ _) t fun m t => ⟨rfl, t⟩
  emits m s event t := emit_tracks t
  notes m s n t := by
    refine Safe.ask (Tracks.stable _ _ _ _) t (fun _ _ => trivial) ?_
    intro m a m' t ans
    cases ans
    exact Safe.done (Tracks.stable _ _ _ _) t fun m t => ⟨rfl, t⟩
  listens m s t := listenOnce_tracks t

end

/-- **Discovery leaves no gap.** On one connection, whatever happens at the manager between the
steps of the session: the session does not fail, and when it waits for a signal, or has an event
taken, and no signal is queued, its registry is what the manager says. -/
theorem synced_of_quiet [DecidableEq η] (c : Plan) (snapshot : Option Snapshot) (attempt : Nat)
    {m₀ m : ServiceManager η} {s₀ : State η} {p : Phase η} (fresh : m₀.Fresh)
    (empty : s₀.registry.entries = [])
    (run : Runs c ServiceManager.around (m₀, stage c (.opening snapshot attempt) s₀) (m, p)) :
    p.outcome? = none ∧ ∀ s q resume, p = .ask s q resume →
      (q = .nextSignal ∨ ∃ event, q = .emit event) → m.queue = [] → Synced c m s.registry := by
  refine ⟨?_, ?_⟩
  · cases hp : p.outcome? with
    | none => rfl
    | some f => exact (run.outcome (tracks_unbroken c).stage ⟨fresh, empty⟩ hp).elim
  · rintro s q resume rfl (rfl | ⟨event, rfl⟩)
    · exact run.holds (tracks_unbroken c).stage ⟨fresh, empty⟩
    · exact run.holds (tracks_unbroken c).stage ⟨fresh, empty⟩

/-! ## A unit that fails while the session starts -/

namespace ServiceManager

/-- A manager with nothing loaded and nobody connected. -/
def idle : ServiceManager Nat := ⟨fun _ => [], false, fun _ => none, []⟩

/-- A manager that has loaded `web` while it was announcing. -/
def withWeb (past : List Stay) (live : Option String) (queue : List Signal) : ServiceManager Nat :=
  ⟨update (fun _ => []) "web" past, true, update (fun _ => none) 0 live, queue⟩

def active : Stay := ⟨⟨"web", "active", some 3, none⟩, false⟩

def failed : Stay := ⟨⟨"web", "failed", some 7, none⟩, true⟩

theorem idle_fresh : idle.Fresh where
  sound u := .nil u
  silent := rfl
  queue := rfl
  live _ := rfl
  unsignalled := by simp [idle]

theorem loads : Moves { idle with announces := true } (withWeb [active] none [.added "web"]) := by
  have step := Moves.load { idle with announces := true } active.state rfl (by decide)
  simpa [idle, withWeb, active, announce] using step

theorem fails : Moves (withWeb [active] (some "web") [.added "web"])
    (withWeb [failed, active] (some "web") [.added "web", .changed failed.state]) := by
  have step := Moves.changeHeard (withWeb [active] (some "web") [.added "web"]) failed.state
    (by simp [withWeb, failed]) (by decide) (by simp [withWeb, failed, active, IsNewer])
    ⟨0, by simp [withWeb, failed]⟩
  simpa [withWeb, failed] using step

end ServiceManager

open ServiceManager in
/-- The failure is what is fetched; the signals of the load and of the failure change nothing. -/
theorem synced_after_early_failure :
    Runs .everything around
        (idle, stage .everything (.opening none 0) (State.initial .system))
        (withWeb [failed, active] (some "web") [], stage .everything .listening
          ⟨⟨.system, [⟨⟨.system, "web"⟩, some .failed, some 7, 0⟩]⟩, true⟩) ∧
      Synced .everything (withWeb [failed, active] (some "web") [])
        ⟨.system, [⟨⟨.system, "web"⟩, some .failed, some 7, 0⟩]⟩ := by
  have run : Runs .everything around
      (idle, stage .everything (.opening none 0) (State.initial .system))
      (withWeb [failed, active] (some "web") [], stage .everything .listening
        ⟨⟨.system, [⟨⟨.system, "web"⟩, some .failed, some 7, 0⟩]⟩, true⟩) := by
    refine .head (.answer _ (.opened _)) ?_
    refine .head (.answer _ (.connected _)) ?_
    refine .head (.answer _ (.subscribedManager _)) ?_
    -- The unit is loaded before the units are listed, and it fails before it is fetched.
    refine .head (.move _ loads) ?_
    refine .head (.answer _ (.listed _ ["web"] (by decide) fun u => ?_)) ?_
    · by_cases hu : u = "web"
      · simp [withWeb, hu]
      · simp [withWeb, hu]
    refine .head (.answer _ (.subscribed _ "web" 0 (by simp [withWeb]) rfl)) ?_
    have subscribed : update (withWeb [active] none [.added "web"]).live 0 (some "web") =
        (withWeb [active] (some "web") [.added "web"]).live := by simp [withWeb]
    rw [subscribed]
    refine .head (.move _ fails) ?_
    refine .head (.answer _ (.fetched _ "web" failed [active] rfl)) ?_
    refine .head (.answer _ (.noted _ _)) ?_
    refine .head (.answer _ (.noted _ _)) ?_
    refine .head (.next _ _ _) ?_
    refine .head (.answer _ (.signalled _ _ _ rfl)) ?_
    refine .head (.next _ _ _) ?_
    refine .head (.answer _ (.signalled _ _ _ rfl)) ?_
    refine .head (.answer _ (.time _ 0)) ?_
    exact .head (.next _ _ _) .refl
  refine ⟨run, ?_⟩
  exact (synced_of_quiet .everything none 0 idle_fresh rfl run).2 _ _ _ rfl (.inl rfl) rfl

end UnitWatch.Session
