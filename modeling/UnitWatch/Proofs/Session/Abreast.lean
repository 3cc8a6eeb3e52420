import UnitWatch.Proofs.Session.Forget
import UnitWatch.Proofs.Session.Unwatched

/-!
# Sessions abreast

Two scripts that agree on a unit, and the sessions that follow them and watch nothing else.

**Agreement** (`Line.Alike`). The connections of both scripts turn out alike, and so does every call
about the unit; the same signals about the unit arrive before the same failures. What else is listed
or signalled, when, and what the clock shows, is left open. Subscriptions may differ.

**Steps** (`Parallel`). From states that differ in subscriptions only, a step ends in such states
with either script, in the same way, after the same events.
-/

namespace UnitWatch.Session

variable {η θ : Type}

/-! ## Scripts that agree on a unit -/

/-- Whether a signal is about a unit. -/
def Signal.isAbout (v : String) : Signal → Bool
  | .changed x => x.unit == v
  | .added u | .removed u => u == v
  | .other _ => false

/-- Whether the bus said when that happened which a signal tells. -/
def Signal.isDated : Signal → Bool
  | .changed x => x.isDated
  | _ => false

namespace Line

/-- The signals about a unit among the first arrivals. -/
def news (line : Line η) (v : String) : Nat → List Signal
  | 0 => []
  | n + 1 => line.news v n ++
    match line.arrives n with
    | some (.ok signal) => if signal.isAbout v then [signal] else []
    | _ => []

/-- The first arrivals are signals, so another one is waited for. -/
def Awaits (line : Line η) (n : Nat) : Prop :=
  ∀ i < n, ∃ signal, line.arrives i = some (.ok signal)

/-- After these signals about a unit, this is the next one about it, or how waiting fails. -/
def Brings (line : Line η) (v : String) (news : List Signal) (a : Except Failure Signal) : Prop :=
  ∃ n, line.Awaits n ∧ line.news v n = news ∧ line.arrives n = some a ∧
    ∀ signal, a = .ok signal → signal.isAbout v = true

/-- Two connections agree on a unit. -/
structure Alike (v : String) (line : Line η) (other : Line θ) : Prop where
  made : line.made = other.made
  connects : line.connects = other.connects
  subscribesManager : line.subscribesManager = other.subscribesManager
  /-- The unit is listed equally often. -/
  lists : line.lists.map (List.count v) = other.lists.map (List.count v)
  subscribes (n : Nat) :
    (line.subscribes v n).map (fun _ => ()) = (other.subscribes v n).map fun _ => ()
  fetches (n : Nat) : line.fetches v n = other.fetches v n
  brings (news : List Signal) (a : Except Failure Signal) :
    line.Brings v news a ↔ other.Brings v news a
  closes : line.closes = other.closes
  sleeps : line.sleeps = other.sleeps

theorem Alike.symm {v : String} {line : Line η} {other : Line θ} (h : line.Alike v other) :
    other.Alike v line where
  made := h.made.symm
  connects := h.connects.symm
  subscribesManager := h.subscribesManager.symm
  lists := h.lists.symm
  subscribes n := (h.subscribes n).symm
  fetches n := (h.fetches n).symm
  brings news a := (h.brings news a).symm
  closes := h.closes.symm
  sleeps := h.sleeps.symm

end Line

/-! ## Closed forms -/

theorem play_releases (script : Script η) (es : List (Entry η)) (w : Playing) (s : State η) :
    script.play (Action.each (fun e => release e.subscription) es s) w = .ended w s (.ok ()) := by
  induction es with
  | nil => rfl
  | cons e es ih =>
    refine (script.play_bind (release e.subscription s) _ w).trans ?_
    rw [play_release]
    exact ih

theorem play_teardown (script : Script η) (w : Playing) (s : State η) :
    script.play (teardown s) w =
      .ended w ⟨s.registry.drain, false⟩ (script.line w).closes := by
  refine (script.play_bind (Action.each (fun e => release e.subscription) s.registry.entries
    { s with registry := s.registry.drain }) _ w).trans ?_
  rw [play_releases]
  show script.play ((demand (ask .close) : Step η Unit) ⟨s.registry.drain, false⟩) w = _
  refine (script.play_ask rfl).trans ?_
  cases (script.line w).closes <;> rfl

theorem play_emits (script : Script η) (ts : List Transition) (w : Playing) (s : State η) :
    script.play (Action.each (fun t => demand (ask (.emit t))) ts s) w =
      .ended { w with events := w.events ++ ts } s (.ok ()) := by
  induction ts generalizing w with
  | nil => simp [Action.each, Action.pure, Script.play]
  | cons t ts ih =>
    refine (script.play_bind (demand (ask (.emit t)) s) _ w).trans ?_
    rw [play_emit]
    refine (ih _).trans ?_
    simp

theorem play_sleepThen (script : Script η) (n : Notice) (delay : Span) (next : Stage) (w : Playing)
    (s : State η) :
    script.play (sleepThen n delay next s) w =
      .ended w s ((script.line w).sleeps.map fun _ => some next) := by
  show script.play ((demand (ask (.sleep delay)) >>= fun _ => return some next : Step η _) s) w = _
  refine (script.play_ask rfl).trans ?_
  cases (script.line w).sleeps <;> rfl

/-! ## What arrives -/

/-- Yields the event that a signal brings, if it brings one. -/
def yield : Option Transition → Step η Unit
  | some t => demand (ask (.emit t))
  | none => return ()

/-- Reacts to what has arrived. -/
def react (c : Plan) (a : Except Failure Signal) : Step η Unit := do
  yield (← handleSignal c (← Action.ofExcept a))

/-- Receives what has arrived. The result is what comes next, if the connection is lost. -/
def receive (c : Plan) (a : Except Failure Signal) : Step η (Option Stage) := do
  match ← Action.attempt (react c a) with
  | .ok () => return none
  | .error (.fault (.bus (.disconnected _))) => recover c
  | .error e => Action.fail e

theorem stage_listening_eq (c : Plan) (s : State η) :
    stage c .listening s = .ask s .nextSignal fun a => closing (receive c a) s := rfl

theorem play_silent (script : Script η) (c : Plan) {w : Playing} {s : State η}
    (arrives : (script.line w).arrives w.taken = none) :
    script.play (stage c .listening s) w = .waits w := by
  rw [stage_listening_eq, Script.play, Script.answer, arrives]
  rfl

theorem play_listening (script : Script η) (c : Plan) {a : Except Failure Signal} {w : Playing}
    {s : State η} (arrives : (script.line w).arrives w.taken = some a) :
    script.play (stage c .listening s) w =
      script.play (closing (receive c a) s) { w with taken := w.taken + 1 } := by
  rw [stage_listening_eq]
  refine script.play_ask ?_
  rw [Script.answer, arrives]
  rfl

/-- A signal of which nothing comes. -/
theorem play_idle (script : Script η) (c : Plan) {signal : Signal} {w : Playing} {s : State η}
    (arrives : (script.line w).arrives w.taken = some (.ok signal))
    (idle : ∀ w, script.play (handleSignal c signal s) w = .ended w s (.ok none)) :
    script.play (stage c .listening s) w =
      .ended { w with taken := w.taken + 1 } s (.ok .listening) := by
  rw [play_listening script c arrives]
  show script.play (closing (do
    match ← Action.attempt (handleSignal c signal >>= yield) with
      | .ok () => return none
      | .error (.fault (.bus (.disconnected _))) => recover c
      | .error e => Action.fail e) s) _ = _
  simp only [closing_eq, Action.attempt, Bind.bind, Action.bind, Script.play_bind, idle]
  rfl

theorem receive_interlude (c : Plan) (f : Failure) (s : State η) :
    Interlude (some s.registry.states) s (receive c (.error f) s) := by
  cases f with
  | fault f =>
    cases f with
    | bus f =>
      cases f with
      | disconnected scope => exact recover_interlude c s
      | _ => exact .fails _
    | _ => exact .fails _
  | _ => exact .fails _

/-- A connection that is left is not listened to any more. -/
theorem leaves_of_interlude (script : Script η) {basis : Option Snapshot}
    {x : Step η (Option Stage)} {w u : Playing} {s t : State η} {next : Stage}
    (h : Interlude basis s (x s)) (goesOn : script.play (closing x s) w = .ended u t (.ok next)) :
    next ≠ .listening := by
  -- After a failure there is no next stage, whether the teardown succeeds or not.
  have fails (f : Failure) (w u : Playing) (s t : State η) (next : Stage) :
      script.play ((do teardown; Action.fail f : Step η Stage) s) w ≠ .ended u t (.ok next) := by
    simp only [Bind.bind, Action.bind, Script.play_bind, play_teardown]
    cases (script.line w).closes <;> simp [Play.bind, Script.play, Action.fail]
  rw [closing_eq] at goesOn
  generalize x s = p at h goesOn
  cases h with
  | fails f => exact (fails f w u s t next goesOn).elim
  | pauses quiet delay attempt =>
    rw [Script.play_bind, play_sleepThen] at goesOn
    cases slept : (script.line w).sleeps with
    | error f =>
      rw [slept] at goesOn
      exact (fails f w u s t next goesOn).elim
    | ok _ =>
      rw [slept] at goesOn
      change script.play ((do teardown; return .opening basis attempt : Step η Stage) s) w = _
        at goesOn
      simp only [Bind.bind, Action.bind, Script.play_bind, play_teardown] at goesOn
      cases closed : (script.line w).closes with
      | error f =>
        rw [closed] at goesOn
        cases goesOn
      | ok _ =>
        rw [closed] at goesOn
        cases goesOn
        simp

/-- A session that goes on listening has received a signal. -/
theorem signalled_of_listens (script : Script η) (c : Plan) {w u : Playing} {s t : State η}
    (listens : script.play (stage c .listening s) w = .ended u t (.ok .listening)) :
    ∃ signal, (script.line w).arrives w.taken = some (.ok signal) := by
  cases arrives : (script.line w).arrives w.taken with
  | none =>
    rw [play_silent script c arrives] at listens
    cases listens
  | some a =>
    cases a with
    | ok signal => exact ⟨signal, rfl⟩
    | error f =>
      rw [play_listening script c arrives] at listens
      exact (leaves_of_interlude script (receive_interlude c f s) listens rfl).elim

/-! ## Steps abreast -/

theorem State.forget_eq {s : State η} {s' : State θ} :
    s.forget = s'.forget ↔
      s.registry.forget = s'.registry.forget ∧ s.connected = s'.connected := by
  simp [State.forget]

theorem get?_of_forget {s : State η} {s' : State θ} (same : s.forget = s'.forget) (u : String) :
    (s.registry.get? u).map Entry.forget = (s'.registry.get? u).map Entry.forget := by
  rw [← Registry.get?_forget, (State.forget_eq.1 same).1, Registry.get?_forget]

/-- Both fail in the same way, or end with values that are related. -/
inductive Concurs {α β : Type} (R : α → β → Prop) : Except Failure α → Except Failure β → Prop
  | ok {a : α} {b : β} (h : R a b) : Concurs R (.ok a) (.ok b)
  | error (f : Failure) : Concurs R (.error f) (.error f)

theorem Concurs.of_eq {α : Type} {r r' : Except Failure α} (h : r = r') : Concurs Eq r r' := by
  subst h
  cases r with
  | ok a => exact .ok rfl
  | error f => exact .error f

/-- Two processes end, in states that differ in subscriptions only. -/
abbrev Play.Matches {α β : Type} (I : Playing → Playing → Prop) (R : α → β → Prop)
    (p : Play η (Except Failure α)) (q : Play θ (Except Failure β)) : Prop :=
  ∃ u t r u' t' r', p = .ended u t r ∧ q = .ended u' t' r' ∧ I u u' ∧ t.forget = t'.forget ∧
    Concurs R r r'

/-- How far the scripts have been played is related by `I`, and still is after a step of each. -/
def Parallel {α β : Type} (σ : Script η) (τ : Script θ) (I : Playing → Playing → Prop)
    (R : α → β → Prop) (x : Step η α) (y : Step θ β) : Prop :=
  ∀ w w' s s', I w w' → s.forget = s'.forget →
    (σ.play (x s) w).Matches I R (τ.play (y s') w')

variable {σ : Script η} {τ : Script θ} {I : Playing → Playing → Prop}

namespace Parallel

variable {α β γ δ : Type} {R : α → β → Prop} {S : γ → δ → Prop}

theorem pure {a : α} {b : β} (h : R a b) :
    Parallel σ τ I R (Pure.pure a : Step η α) (Pure.pure b : Step θ β) :=
  fun _ _ _ _ hI same => ⟨_, _, _, _, _, _, rfl, rfl, hI, same, .ok h⟩

theorem fail (f : Failure) :
    Parallel σ τ I R (Action.fail f : Step η α) (Action.fail f : Step θ β) :=
  fun _ _ _ _ hI same => ⟨_, _, _, _, _, _, rfl, rfl, hI, same, .error f⟩

theorem ofExcept {r : Except Failure α} {r' : Except Failure β} (h : Concurs R r r') :
    Parallel σ τ I R (Action.ofExcept r : Step η α) (Action.ofExcept r' : Step θ β) := by
  cases h with
  | ok h => exact pure h
  | error f => exact fail f

theorem bind {x : Step η α} {y : Step θ β} {k : α → Step η γ} {l : β → Step θ δ}
    (h : Parallel σ τ I R x y) (then' : ∀ a b, R a b → Parallel σ τ I S (k a) (l b)) :
    Parallel σ τ I S (x >>= k) (y >>= l) := by
  intro w w' s s' hI same
  obtain ⟨u, t, r, u', t', r', ends, ends', hI, same, concurs⟩ := h w w' s s' hI same
  simp only [Bind.bind, Action.bind, Script.play_bind, ends, ends']
  cases concurs with
  | ok related => exact then' _ _ related u u' t t' hI same
  | error f => exact ⟨_, _, _, _, _, _, rfl, rfl, hI, same, .error f⟩

theorem get : Parallel σ τ I (fun s s' => s.forget = s'.forget) (Action.get : Step η (State η))
    (Action.get : Step θ (State θ)) :=
  fun _ _ _ _ hI same => ⟨_, _, _, _, _, _, rfl, rfl, hI, same, .ok same⟩

theorem modify {k : State η → State η} {l : State θ → State θ}
    (h : ∀ s s', s.forget = s'.forget → (k s).forget = (l s').forget) :
    Parallel σ τ I Eq (Action.modify k : Step η Unit) (Action.modify l : Step θ Unit) :=
  fun _ _ s s' hI same => ⟨_, _, _, _, _, _, rfl, rfl, hI, h s s' same, .ok rfl⟩

theorem imp {R' : α → β → Prop} {x : Step η α} {y : Step θ β} (h : Parallel σ τ I R x y)
    (imp : ∀ a b, R a b → R' a b) : Parallel σ τ I R' x y := by
  intro w w' s s' hI same
  obtain ⟨u, t, r, u', t', r', ends, ends', hI, same, concurs⟩ := h w w' s s' hI same
  refine ⟨u, t, r, u', t', r', ends, ends', hI, same, ?_⟩
  cases concurs with
  | ok related => exact .ok (imp _ _ related)
  | error f => exact .error f

theorem attempt {x : Step η α} {y : Step θ β} (h : Parallel σ τ I R x y) :
    Parallel σ τ I (Concurs R) (Action.attempt x) (Action.attempt y) := by
  intro w w' s s' hI same
  obtain ⟨u, t, r, u', t', r', ends, ends', hI, same, concurs⟩ := h w w' s s' hI same
  simp only [Action.attempt, Script.play_bind, ends, ends']
  exact ⟨_, _, _, _, _, _, rfl, rfl, hI, same, .ok concurs⟩

theorem ask {p : Request η} {q : Request θ} {R : Answer p → Answer q → Prop}
    (h : ∀ w w', I w w' → ∃ a u a' u', σ.answer w p = some (a, u) ∧
      τ.answer w' q = some (a', u') ∧ I u u' ∧ R a a') :
    Parallel σ τ I R (Session.ask p) (Session.ask q) := by
  intro w w' s s' hI same
  obtain ⟨a, u, a', u', answers, answers', hI, related⟩ := h w w' hI
  exact ⟨_, _, _, _, _, _, σ.play_ask answers, τ.play_ask answers', hI, same, .ok related⟩

theorem demand {x : Step η (Except Failure α)} {y : Step θ (Except Failure β)}
    (h : Parallel σ τ I (Concurs R) x y) :
    Parallel σ τ I R (Session.demand x) (Session.demand y) :=
  h.bind fun _ _ concurs => ofExcept concurs

theorem note (n m : Notice) :
    Parallel σ τ I Eq (Session.note n : Step η Unit) (Session.note m : Step θ Unit) :=
  fun _ _ _ _ hI same => ⟨_, _, _, _, _, _, rfl, rfl, hI, same, .ok rfl⟩

theorem replicate {ι κ : Type} {k : ι → Step η Unit} {l : κ → Step θ Unit} {i : ι} {j : κ}
    (h : Parallel σ τ I Eq (k i) (l j)) (n : Nat) :
    Parallel σ τ I Eq (Action.each k (List.replicate n i))
      (Action.each l (List.replicate n j)) := by
  induction n with
  | zero => exact pure rfl
  | succ n ih => exact h.bind fun _ _ _ => ih

end Parallel

/-! ## One unit -/

/-- What has been played since `b` and `b'`, without a new connection or signal: as many calls were
about the unit, and the events are the same apart from the clock. -/
structure Abreast (v : String) (dated : Bool) (b b' w w' : Playing) : Prop where
  opened : w.opened = w'.opened
  asked : w.asked.count v = w'.asked.count v
  here : w.opened = b.opened ∧ w.taken = b.taken
  there : w'.opened = b'.opened ∧ w'.taken = b'.taken
  events : ∃ new new', w.events = b.events ++ new ∧ w'.events = b'.events ++ new' ∧
    new.map (Transition.clockless dated) = new'.map (Transition.clockless dated)

/-- The plan to track one unit only. -/
def Plan.only (c : Plan) (v : String) : Plan := { c with watches := (· == v) }

variable {v : String} {dated : Bool} {b b' w w' : Playing}

namespace Abreast

theorem refl (opened : b.opened = b'.opened) (asked : b.asked.count v = b'.asked.count v) :
    Abreast v dated b b' b b' :=
  ⟨opened, asked, ⟨rfl, rfl⟩, ⟨rfl, rfl⟩, [], [], by simp⟩

theorem asks (h : Abreast v dated b b' w w') :
    Abreast v dated b b' { w with asked := v :: w.asked } { w' with asked := v :: w'.asked } :=
  ⟨h.opened, by simp [h.asked], h.here, h.there, h.events⟩

theorem yields (h : Abreast v dated b b' w w') {ts ts' : List Transition}
    (same : ts.map (Transition.clockless dated) = ts'.map (Transition.clockless dated)) :
    Abreast v dated b b' { w with events := w.events ++ ts }
      { w' with events := w'.events ++ ts' } := by
  obtain ⟨new, new', events, events', clockless⟩ := h.events
  refine ⟨h.opened, h.asked, h.here, h.there, new ++ ts, new' ++ ts', ?_, ?_, ?_⟩
  · simp [events]
  · simp [events']
  · simp [clockless, same]

end Abreast

/-- Events are yielded alike if they are so apart from the clock. -/
theorem emits_parallel {ts ts' : List Transition}
    (same : ts.map (Transition.clockless dated) = ts'.map (Transition.clockless dated)) :
    Parallel σ τ (Abreast v dated b b') Eq
      (Action.each (fun t => demand (ask (.emit t))) ts : Step η Unit)
      (Action.each (fun t => demand (ask (.emit t))) ts') :=
  fun w w' s s' abreast like => ⟨_, _, _, _, _, _, play_emits σ ts w s, play_emits τ ts' w' s',
    abreast.yields same, like, .ok rfl⟩

/-- What is said about the same differences is the same, apart from the clock. -/
theorem resync_parallel {r : Registry η} {r' : Registry θ} {snapshot : Snapshot}
    (known : differences r snapshot = differences r' snapshot) :
    Parallel σ τ (Abreast v dated b b')
      (fun ts ts' => ts.map (Transition.clockless false) = ts'.map (Transition.clockless false))
      (resync r snapshot) (resync r' snapshot) := by
  refine fun w w' s s' abreast like => ⟨_, _, _, _, _, _, play_resync σ r snapshot w s,
    play_resync τ r' snapshot w' s', abreast, like, .ok ?_⟩
  simp only [List.map_map, known]
  rfl

/-- The same event, apart from the clock. -/
def Resembles (dated : Bool) (t t' : Option Transition) : Prop :=
  t.map (Transition.clockless dated) = t'.map (Transition.clockless dated)

theorem yield_parallel {t t' : Option Transition} (resembles : Resembles dated t t') :
    Parallel σ τ (Abreast v dated b b') Eq (yield t) (yield t') := by
  cases t with
  | none =>
    cases t' with
    | none => exact .pure rfl
    | some t' => cases resembles
  | some t =>
    cases t' with
    | none => cases resembles
    | some t' =>
      have same : [t].map (Transition.clockless dated) = [t'].map (Transition.clockless dated) :=
        congrArg Option.toList resembles
      exact fun w w' s s' abreast like => ⟨_, _, _, _, _, _, play_emit σ t w s,
        play_emit τ t' w' s', abreast.yields same, like, .ok rfl⟩

theorem changed_parallel (c : Plan) (x : RawState) :
    Parallel σ τ (Abreast v dated b b') (Resembles x.isDated) (handleSignal c (.changed x))
      (handleSignal c (.changed x)) := by
  intro w w' s s' abreast same
  have silent : Resembles x.isDated none none := rfl
  have entries := get?_of_forget same x.unit
  cases he : s.registry.get? x.unit with
  | none =>
    have he' : s'.registry.get? x.unit = none := by simpa [he] using entries.symm
    rw [handleSignal_changed_of_none he, handleSignal_changed_of_none he']
    exact Parallel.pure silent w w' s s' abreast same
  | some e =>
    obtain ⟨e', he', -⟩ := Option.map_eq_some_iff.1 (entries.symm.trans (by rw [he]; rfl))
    cases hx : x.report? with
    | none =>
      rw [handleSignal_changed_of_unrecognized he hx, handleSignal_changed_of_unrecognized he' hx]
      exact (Parallel.note _ _).bind (fun _ _ _ => .pure silent) w w' s s' abreast same
    | some report =>
      -- Here alone a clock is read, and the two may show different times.
      obtain ⟨registry, connected⟩ := State.forget_eq.1 same
      have tracked : s.registry.get? report.unit = some e := RawState.unit_of_report hx ▸ he
      have tracked' : s'.registry.get? report.unit = some e' := RawState.unit_of_report hx ▸ he'
      rw [play_changed σ c he hx, play_changed τ c he' hx]
      obtain ⟨kept, event⟩ := Registry.apply_clockless registry hx
        ((σ.line w).clock w.taken) ((τ.line w').clock w'.taken)
      rw [Registry.apply_of_get? _ tracked, Registry.apply_of_get? _ tracked'] at event
      exact ⟨_, _, _, _, _, _, rfl, rfl, abreast, State.forget_eq.2 ⟨kept, connected⟩, .ok event⟩

section

variable (agree : ∀ k, (σ k).Alike v (τ k))

include agree

theorem line_alike (opened : w.opened = w'.opened) : (σ.line w).Alike v (τ.line w') := by
  rw [Script.line, Script.line, ← opened]
  exact agree w.opened

theorem Abreast.line (h : Abreast v dated b b' w w') : (σ.line w).Alike v (τ.line w') :=
  line_alike agree h.opened

theorem track_parallel :
    Parallel σ τ (Abreast v dated b b') Eq (track v) (track v) := by
  intro w w' s s' abreast same
  refine ⟨_, _, _, _, _, _, play_track σ v w s, play_track τ v w' s', ?_⟩
  have line := abreast.line agree
  have subscribed := line.subscribes (w.asked.count v)
  have fetched := line.fetches (w.asked.count v + 1)
  unfold Script.tracked
  rw [← abreast.asked, ← fetched]
  -- The subscription fails in both sessions or in neither.
  cases hσ : (σ.line w).subscribes v (w.asked.count v) with
  | error e =>
    cases hτ : (τ.line w').subscribes v (w.asked.count v) with
    | error e' => exact ⟨abreast.asks, same, .ok rfl⟩
    | ok k' => simp [hσ, hτ, Except.map] at subscribed
  | ok k =>
    cases hτ : (τ.line w').subscribes v (w.asked.count v) with
    | error e' => simp [hσ, hτ, Except.map] at subscribed
    | ok k' =>
      cases (σ.line w).fetches v (w.asked.count v + 1) with
      | error e => exact ⟨abreast.asks.asks, same, .ok rfl⟩
      | ok x =>
        refine ⟨abreast.asks.asks, ?_, .ok rfl⟩
        obtain ⟨registry, connected⟩ := State.forget_eq.1 same
        refine State.forget_eq.2 ⟨?_, connected⟩
        have named : RawState.unit { x with unit := v } = v := rfl
        show (s.registry.enroll v k _).forget = (s'.registry.enroll v k' _).forget
        rw [Registry.forget_enroll _ _ _ named, Registry.forget_enroll _ _ _ named, registry]

theorem start_parallel (c : Plan) : Parallel σ τ (Abreast v dated b b') Eq
    (start (c.only v)) (start (c.only v)) := by
  have connects : Parallel σ τ (Abreast v dated b b') Eq
      (demand (ask .connect) : Step η Unit) (demand (ask .connect)) :=
    .demand (.ask (p := .connect) (q := .connect) fun w w' abreast =>
      ⟨_, _, _, _, rfl, rfl, abreast, Concurs.of_eq (abreast.line agree).connects⟩)
  have subscribes : Parallel σ τ (Abreast v dated b b') Eq
      (demand (ask .subscribeManager) : Step η Unit) (demand (ask .subscribeManager)) :=
    .demand (.ask (p := .subscribeManager) (q := .subscribeManager) fun w w' abreast =>
      ⟨_, _, _, _, rfl, rfl, abreast, Concurs.of_eq (abreast.line agree).subscribesManager⟩)
  have lists : Parallel σ τ (Abreast v dated b b')
      (fun units units' => units.count v = units'.count v)
      (demand (ask .listUnits) : Step η (List String)) (demand (ask .listUnits)) := by
    refine .demand (.ask (p := .listUnits) (q := .listUnits) fun w w' abreast =>
      ⟨_, _, _, _, rfl, rfl, abreast, ?_⟩)
    have lists := (abreast.line agree).lists
    cases hσ : (σ.line w).lists with
    | error f =>
      cases hτ : (τ.line w').lists with
      | error f' =>
        rw [hσ, hτ] at lists
        cases lists
        exact .error f
      | ok units' => simp [hσ, hτ, Except.map] at lists
    | ok units =>
      cases hτ : (τ.line w').lists with
      | error f' => simp [hσ, hτ, Except.map] at lists
      | ok units' =>
        rw [hσ, hτ] at lists
        exact .ok (Except.ok.inj lists)
  refine connects.bind fun _ _ _ => ?_
  refine Parallel.bind (.modify fun s s' same => ?_) fun _ _ _ => ?_
  · exact State.forget_eq.2 ⟨(State.forget_eq.1 same).1, rfl⟩
  refine subscribes.bind fun _ _ _ => ?_
  refine lists.bind fun units units' often => ?_
  -- Only one unit is watched, so of a list no more counts than how often it is there.
  have listed (units : List String) :
      units.filter (c.only v).watches = List.replicate (units.count v) v := List.filter_beq v
  rw [listed, listed, ← often]
  refine ((track_parallel agree).replicate (units.count v)).bind fun _ _ _ => ?_
  exact Parallel.get.bind fun _ _ _ => Parallel.note _ _

/-! ### Leaving a connection -/

theorem teardown_parallel :
    Parallel σ τ (Abreast v dated b b') Eq (teardown : Step η Unit) teardown := by
  intro w w' s s' abreast same
  refine ⟨_, _, _, _, _, _, play_teardown σ w s, play_teardown τ w' s', abreast, ?_, ?_⟩
  · have scope : s.registry.scope = s'.registry.scope :=
      congrArg Registry.scope (State.forget_eq.1 same).1
    exact State.forget_eq.2 ⟨congrArg (Registry.mk · []) scope, rfl⟩
  · exact .of_eq (abreast.line agree).closes

theorem closing_parallel {x : Step η (Option Stage)} {y : Step θ (Option Stage)}
    (h : Parallel σ τ (Abreast v dated b b') Eq x y) :
    Parallel σ τ (Abreast v dated b b') Eq (closing x) (closing y) := by
  have left : Parallel σ τ (Abreast v dated b b') Eq (Action.onFailure x teardown)
      (Action.onFailure y teardown) := by
    refine h.attempt.bind fun r r' concurs => ?_
    cases concurs with
    | ok same => exact .pure same
    | error f => exact (teardown_parallel agree).bind fun _ _ _ => .fail f
  refine left.bind ?_
  rintro next _ rfl
  cases next with
  | none => exact .pure rfl
  | some next => exact (teardown_parallel agree).bind fun _ _ _ => .pure rfl

/-! ### Between connections -/

theorem sleepThen_parallel (n m : Notice) (delay : Span) (next : Stage) :
    Parallel σ τ (Abreast v dated b b') Eq (sleepThen n delay next : Step η _)
      (sleepThen m delay next) := by
  intro w w' s s' abreast same
  refine ⟨_, _, _, _, _, _, play_sleepThen σ n delay next w s, play_sleepThen τ m delay next w' s',
    abreast, same, ?_⟩
  rw [(abreast.line agree).sleeps]
  exact .of_eq rfl

theorem recover_parallel (c : Plan) :
    Parallel σ τ (Abreast v dated b b') Eq (recover c : Step η _) (recover c) := by
  intro w w' s s' abreast same
  have states : s.registry.states = s'.registry.states := by
    rw [← s.registry.states_forget, (State.forget_eq.1 same).1, Registry.states_forget]
  by_cases last : c.attempts < 1
  · rw [recover_of_last last, recover_of_last last]
    exact Parallel.fail _ w w' s s' abreast same
  · rw [recover_of_le last, recover_of_le last, states]
    exact sleepThen_parallel agree _ _ _ _ w w' s s' abreast same

theorem retry_parallel (c : Plan) (snapshot : Option Snapshot) (attempt : Nat) (reason : String) :
    Parallel σ τ (Abreast v dated b b') Eq (retry c snapshot attempt reason : Step η _)
      (retry c snapshot attempt reason) := by
  cases snapshot with
  | none => exact .fail _
  | some snapshot =>
    intro w w' s s' abreast same
    by_cases last : c.attempts < (attempt + 1 : Nat)
    · rw [retry_of_last last, retry_of_last last]
      exact Parallel.fail _ w w' s s' abreast same
    · by_cases early : attempt + 1 ≤ 1024
      · rw [retry_of_le last early, retry_of_le last early]
        exact sleepThen_parallel agree _ _ _ _ w w' s s' abreast same
      · have late := Nat.lt_of_not_le early
        rw [retry_of_lt last late, retry_of_lt last late]
        exact Parallel.fail _ w w' s s' abreast same

/-! ### Opening -/

theorem openConnection_parallel (c : Plan) (snapshot : Option Snapshot) (attempt : Nat) :
    Parallel σ τ (Abreast v false b b') Eq
      (openConnection (c.only v) snapshot attempt : Step η _)
      (openConnection (c.only v) snapshot attempt) := by
  refine (start_parallel agree c).attempt.bind fun r r' concurs => ?_
  cases concurs with
  | error f =>
    cases f with
    | fault f =>
      cases h : f.isBusFault with
      | true =>
        simp only [h, if_true]
        exact retry_parallel agree _ snapshot attempt f.message
      | false =>
        simp only [h]
        exact .fail _
    | _ => exact .fail _
  | ok _ =>
    cases snapshot with
    | none => exact .pure rfl
    | some snapshot =>
      refine Parallel.get.bind fun s s' same => ?_
      -- Times aside, both compare the same states with the snapshot.
      have known : differences s.registry snapshot = differences s'.registry snapshot := by
        rw [← differences_forget, (State.forget_eq.1 same).1, differences_forget]
      refine (resync_parallel known).bind fun ts ts' same => (emits_parallel same).bind fun _ _ _ => ?_
      exact (Parallel.note _ _).bind fun _ _ _ => .pure rfl

/-- A connection is opened and started alike. -/
theorem opening_matches (c : Plan) (snapshot : Option Snapshot) (attempt : Nat) {s : State η}
    {s' : State θ} (opened : w.opened = w'.opened) (same : s.forget = s'.forget) :
    Play.Matches (Abreast v false { opened := w.opened + 1, events := w.events }
        { opened := w'.opened + 1, events := w'.events }) Eq
      (σ.play (stage (c.only v) (.opening snapshot attempt) s) w)
      (τ.play (stage (c.only v) (.opening snapshot attempt) s') w') := by
  have made : (σ (w.opened + 1)).made = (τ (w'.opened + 1)).made := opened ▸ (agree _).made
  have goesOn : Parallel σ τ (Abreast v false { opened := w.opened + 1, events := w.events }
        { opened := w'.opened + 1, events := w'.events }) Eq
      (do
        Action.ofExcept (σ (w.opened + 1)).made
        closing (openConnection (c.only v) snapshot attempt))
      (do
        Action.ofExcept (τ (w'.opened + 1)).made
        closing (openConnection (c.only v) snapshot attempt)) :=
    Parallel.bind (.ofExcept (.of_eq made)) fun _ _ _ =>
      closing_parallel agree (openConnection_parallel agree c snapshot attempt)
  exact goesOn _ _ s s' (.refl (congrArg (· + 1) opened) rfl) same


/-! ### Listening -/

theorem added_parallel (c : Plan) :
    Parallel σ τ (Abreast v dated b b') Eq (handleSignal (c.only v) (.added v))
      (handleSignal (c.only v) (.added v)) := by
  intro w w' s s' abreast same
  have watched : (c.only v).watches v = true := beq_self_eq_true v
  have entries := get?_of_forget same v
  cases he : s.registry.get? v with
  | none =>
    have he' : s'.registry.get? v = none := by simpa [he] using entries.symm
    rw [handleSignal_added he watched, handleSignal_added he' watched]
    exact (track_parallel agree).bind (fun _ _ _ => .pure rfl) w w' s s' abreast same
  | some e =>
    obtain ⟨e', he', -⟩ := Option.map_eq_some_iff.1 (entries.symm.trans (by rw [he]; rfl))
    rw [handleSignal_added_of_some he, handleSignal_added_of_some he']
    exact Parallel.pure rfl w w' s s' abreast same

omit agree in
theorem removed_parallel (c : Plan) :
    Parallel σ τ (Abreast v dated b b') Eq (handleSignal c (.removed v))
      (handleSignal c (.removed v)) := by
  intro w w' s s' abreast same
  have entries := get?_of_forget same v
  cases he : s.registry.get? v with
  | none =>
    have he' : s'.registry.get? v = none := by simpa [he] using entries.symm
    rw [handleSignal_removed_of_none he, handleSignal_removed_of_none he']
    exact Parallel.pure rfl w w' s s' abreast same
  | some e =>
    obtain ⟨e', he', -⟩ := Option.map_eq_some_iff.1 (entries.symm.trans (by rw [he]; rfl))
    rw [handleSignal_removed he, handleSignal_removed he']
    obtain ⟨registry, connected⟩ := State.forget_eq.1 same
    have evicted : State.forget { s with registry := s.registry.evict v } =
        State.forget { s' with registry := s'.registry.evict v } := by
      refine State.forget_eq.2 ⟨?_, connected⟩
      rw [Registry.forget_evict, Registry.forget_evict, registry]
    have releases : Parallel σ τ (Abreast v dated b b') Eq (release e.subscription)
        (release e'.subscription) := fun w w' s s' abreast same =>
      ⟨_, _, _, _, _, _, play_release σ _ w s, play_release τ _ w' s', abreast, same, .ok rfl⟩
    refine releases.bind (fun _ _ _ => ?_) w w' _ _ abreast evicted
    exact (Parallel.note _ _).bind fun _ _ _ => .pure rfl

/-- What comes of a signal about the unit. -/
theorem handleSignal_parallel (c : Plan) {signal : Signal} (about : signal.isAbout v = true) :
    Parallel σ τ (Abreast v signal.isDated b b') (Resembles signal.isDated)
      (handleSignal (c.only v) signal) (handleSignal (c.only v) signal) := by
  cases signal with
  | changed x => exact changed_parallel _ x
  | added u =>
    obtain rfl : u = v := beq_iff_eq.1 about
    exact (added_parallel agree c).imp fun _ _ same => congrArg _ same
  | removed u =>
    obtain rfl : u = v := beq_iff_eq.1 about
    exact (removed_parallel (c.only u)).imp fun _ _ same => congrArg _ same
  | other kind => cases about

/-- A session receives the same: a signal about the unit, or a failure. -/
theorem receive_parallel (c : Plan) {a : Except Failure Signal}
    (about : ∀ signal, a = .ok signal → signal.isAbout v = true) :
    Parallel σ τ (Abreast v (a.toOption.any Signal.isDated) b b') Eq (receive (c.only v) a)
      (receive (c.only v) a) := by
  have reacts : Parallel σ τ (Abreast v (a.toOption.any Signal.isDated) b b') Eq
      (react (c.only v) a : Step η Unit) (react (c.only v) a) := by
    cases a with
    | error f => exact .fail f
    | ok signal =>
      refine (handleSignal_parallel agree c (about signal rfl)).bind fun t t' resembles => ?_
      exact yield_parallel resembles
  refine reacts.attempt.bind fun r r' concurs => ?_
  cases concurs with
  | ok _ => exact .pure rfl
  | error f =>
    cases f with
    | fault f =>
      cases f with
      | bus f =>
        cases f with
        | disconnected scope => exact recover_parallel agree _
        | _ => exact .fail _
      | _ => exact .fail _
    | _ => exact .fail _

/-- A stage in which both sessions receive the same. -/
theorem listening_matches (c : Plan) {a : Except Failure Signal}
    (about : ∀ signal, a = .ok signal → signal.isAbout v = true) {s : State η} {s' : State θ}
    (opened : w.opened = w'.opened) (asked : w.asked.count v = w'.asked.count v)
    (same : s.forget = s'.forget) (arrives : (σ.line w).arrives w.taken = some a)
    (arrives' : (τ.line w').arrives w'.taken = some a) :
    Play.Matches (Abreast v (a.toOption.any Signal.isDated) { w with taken := w.taken + 1 }
        { w' with taken := w'.taken + 1 }) Eq
      (σ.play (stage (c.only v) .listening s) w) (τ.play (stage (c.only v) .listening s') w') := by
  rw [play_listening σ _ arrives, play_listening τ _ arrives']
  exact closing_parallel agree (receive_parallel agree c about) _ _ s s' (.refl opened asked) same

end

end UnitWatch.Session
