import UnitWatch.Proofs.Session.Abreast

/-!
# Trouble with one unit stays with that unit

Two sessions follow scripts that agree on one unit, and differ in all others. Both do the same about
the unit.

**The account** (`Script.account`). What is seen of a unit in a session: the events about it, what
is known of it after each signal about it, and how the session ends.

**One unit only** (`account_only`). The same is seen of a unit if it is the only one that is
watched. A signal about another unit is then a stage in which nothing happens (`session_idle`).

**Pace** (`KeepsPace`). One session keeps pace with the other: for every stage of the other one it
has some number of stages, after which the same has been seen. It passes over signals about other
units until the one arrives that the other session has received.
-/

namespace UnitWatch.Session

variable {η θ : Type}

/-! ## Stage by stage -/

namespace Script

variable (script : Script η)

theorem perform_succ (c : Plan) (n : Nat) (next : Stage) (s : State η) (w : Playing) :
    script.perform c (n + 1) next s w = (script.perform c n next s w).bind fun w s r =>
      match r with
      | .ok next => script.play (stage c next s) w
      | .error f => .ended w s (.error f) := by
  induction n generalizing next s w with
  | zero =>
    show (script.play (stage c next s) w).bind _ = script.play (stage c next s) w
    cases script.play (stage c next s) w with
    | waits w => rfl
    | ended w s r => cases r <;> rfl
  | succ n ih =>
    rw [perform]
    conv_rhs => rw [perform]
    cases script.play (stage c next s) w with
    | waits w => rfl
    | ended w s r =>
      cases r with
      | ok next => exact ih next s w
      | error f => rfl

variable {script} {c : Plan} {n : Nat} {w : Playing} {s : State η}

theorem session_succ {next : Stage} (h : script.session c n = .ended w s (.ok next)) :
    script.session c (n + 1) = script.play (stage c next s) w := by
  rw [session, perform_succ]
  exact congrArg (Play.bind · _) h

theorem session_stays {p : Play η (Except Failure Stage)} (h : script.session c n = p)
    (ends : ∀ w s next, p ≠ .ended w s (.ok next)) : script.session c (n + 1) = p := by
  rw [session, perform_succ]
  refine (congrArg (Play.bind · _) h).trans ?_
  cases p with
  | waits w => rfl
  | ended w s r =>
    cases r with
    | ok next => exact (ends w s next rfl).elim
    | error f => rfl

end Script

/-! ## What is seen of a unit -/

inductive Sight where
  /-- An event about the unit; its time is zero if it is the clock's. -/
  | yielded (event : Transition)
  /-- What is known of the unit after a signal about it. -/
  | known (entry : Option (Entry Unit))
  /-- How the session ends. -/
  | ended (failure : Failure)
  deriving Inhabited

namespace Playing

def eventsAbout (v : String) (w : Playing) : List Transition :=
  w.events.filter fun t => t.unit.name == v

/-- The events about a unit since `w`. -/
def eventsSince (v : String) (w u : Playing) : List Transition :=
  (u.eventsAbout v).drop (w.eventsAbout v).length

end Playing

namespace Play

/-- What is known of a unit at the end. -/
def known {α : Type} (v : String) : Play η α → List Sight
  | .ended _ s _ => [.known ((s.registry.get? v).map Entry.forget)]
  | .waits _ => []

/-- What is seen of a unit in a stage since `w`, in which this signal is received, or none. -/
def sights (v : String) (signal : Option Signal) (w : Playing) (p : Play η (Except Failure Stage)) :
    List Sight :=
  (w.eventsSince v p.world).map (fun t => .yielded (t.clockless (signal.any Signal.isDated))) ++
    (if signal.any (Signal.isAbout v) then p.known v else []) ++ p.failure?.toList.map .ended

end Play

namespace Script

/-- The signal that is received in a stage. -/
def signal? (script : Script η) (w : Playing) : Stage → Option Signal
  | .opening _ _ => none
  | .listening => ((script.line w).arrives w.taken).bind Except.toOption

/-- What is seen of a unit in so many stages of a session. -/
def account (script : Script η) (c : Plan) (v : String) : Nat → List Sight
  | 0 => []
  | n + 1 => script.account c v n ++
    match script.session c n with
    | .ended w _ (.ok next) => (script.session c (n + 1)).sights v (script.signal? w next) w
    | _ => []

end Script

/-! ### What the account tells -/

theorem events_of_answer {script : Script η} {w w' : Playing} {q : Request η} {a : Answer q}
    (h : script.answer w q = some (a, w')) : w.events <+: w'.events := by
  cases q with
  | emit t =>
    cases h
    exact List.prefix_append _ _
  | nextSignal =>
    obtain ⟨_, -, same⟩ := Option.map_eq_some_iff.1 h
    cases same
    exact List.prefix_rfl
  | _ =>
    cases h
    exact List.prefix_rfl

theorem events_of_play (script : Script η) {α : Type}
    (p : Process (State η) (Answer (η := η)) α) (w : Playing) :
    w.events <+: (script.play p w).world.events := by
  induction p generalizing w with
  | done s r => exact List.prefix_rfl
  | ask s q resume ih =>
    rw [Script.play]
    cases h : script.answer w q with
    | none => exact List.prefix_rfl
    | some answer => exact (events_of_answer h).trans (ih answer.1 answer.2)

theorem eventsSince_of_append {v : String} {w b u : Playing} {new : List Transition}
    (events : b.events = w.events) (grown : u.events = b.events ++ new) :
    w.eventsSince v u = new.filter fun t => t.unit.name == v := by
  unfold Playing.eventsSince Playing.eventsAbout
  rw [grown, events, List.filter_append, List.drop_left]

def Sight.event? : Sight → Option Transition
  | .yielded t => some t
  | _ => none

section

variable (script : Script η) (c : Plan) (v : String)

theorem event_of_known {p : Play η (Except Failure Stage)} {x : Sight} (h : x ∈ p.known v) :
    ∃ e, x = .known e := by
  cases p with
  | waits w => cases h
  | ended w s r => exact ⟨_, List.mem_singleton.1 h⟩

theorem events_of_yielded (dated : Bool) (ts : List Transition) :
    ((ts.map fun t => Sight.yielded (t.clockless dated)).filterMap Sight.event?).map
        (Transition.clockless false) =
      ts.map (Transition.clockless false) := by
  induction ts with
  | nil => rfl
  | cons t ts ih => cases dated <;> exact congrArg (_ :: ·) ih

theorem events_of_sights (signal : Option Signal) {w : Playing}
    {p : Play η (Except Failure Stage)} (grown : w.events <+: p.world.events) :
    (w.eventsAbout v).map (Transition.clockless false) ++
        ((p.sights v signal w).filterMap Sight.event?).map (Transition.clockless false) =
      (p.world.eventsAbout v).map (Transition.clockless false) := by
  obtain ⟨new, grown⟩ := grown
  have since : w.eventsSince v p.world = new.filter fun t => t.unit.name == v :=
    eventsSince_of_append rfl grown.symm
  have all : p.world.eventsAbout v = w.eventsAbout v ++ new.filter fun t => t.unit.name == v := by
    unfold Playing.eventsAbout
    rw [← grown, List.filter_append]
  have silent : (if signal.any (Signal.isAbout v) then p.known v else []).filterMap Sight.event? =
      [] := by
    split
    · refine List.filterMap_eq_nil_iff.2 fun x hx => ?_
      obtain ⟨e, rfl⟩ := event_of_known v hx
      rfl
    · rfl
  have ended : (p.failure?.toList.map Sight.ended).filterMap Sight.event? = [] := by
    cases p.failure? <;> rfl
  unfold Play.sights
  rw [List.filterMap_append, List.filterMap_append, silent, ended, List.append_nil, List.append_nil,
    since, all, List.map_append, events_of_yielded]

/-- The account has the events about the unit, in order. -/
theorem account_events (n : Nat) :
    ((script.account c v n).filterMap Sight.event?).map (Transition.clockless false) =
      ((script.session c n).world.eventsAbout v).map (Transition.clockless false) := by
  induction n with
  | zero => rfl
  | succ n ih =>
    rw [Script.account, List.filterMap_append, List.map_append, ih]
    cases h : script.session c n with
    | waits w =>
      rw [Script.session_stays h nofun]
      exact List.append_nil _
    | ended w s r =>
      cases r with
      | error f =>
        rw [Script.session_stays h nofun]
        exact List.append_nil _
      | ok next =>
        refine events_of_sights v _ ?_
        rw [Script.session_succ h]
        exact events_of_play script _ w

/-- The account says how the session has failed, if it has. -/
theorem ended_mem_account {n : Nat} {f : Failure} :
    .ended f ∈ script.account c v n ↔ (script.session c n).failure? = some f := by
  induction n with
  | zero => simp [Script.account, Script.session, Script.perform, Play.failure?]
  | succ n ih =>
    rw [Script.account, List.mem_append, ih]
    cases h : script.session c n with
    | waits w =>
      rw [Script.session_stays h (by simp)]
      simp
    | ended w s r =>
      cases r with
      | error f =>
        rw [Script.session_stays h (by simp)]
        simp
      | ok next =>
        -- A stage that goes on adds no end to the account.
        have nothing : Sight.ended f ∉ (if Option.any (Signal.isAbout v) (script.signal? w next)
            then (script.session c (n + 1)).known v else []) := by
          split
          · rintro known
            obtain ⟨e, same⟩ := event_of_known v known
            cases same
          · exact List.not_mem_nil
        simp [Play.failure?, Play.sights, nothing]

end

/-! ## One unit only -/

section

variable {V W : String → Bool}

theorem filter_of_imp {α : Type} {p q : α → Bool} (h : ∀ a, p a = true → q a = true)
    (l : List α) : (l.filter q).filter p = l.filter p := by
  rw [List.filter_filter]
  refine List.filter_congr fun a _ => ?_
  cases hp : p a with
  | true => rw [h a hp]; rfl
  | false => rfl

theorem Playing.restrict_restrict (h : ∀ u, V u = true → W u = true) (w : Playing) :
    (w.restrict W).restrict V = w.restrict V := by
  unfold restrict
  rw [filter_of_imp h, filter_of_imp fun t : Transition => h t.unit.name]

theorem State.restrict_restrict (h : ∀ u, V u = true → W u = true) (s : State η) :
    (s.restrict W).restrict V = s.restrict V := by
  unfold State.restrict Registry.restrict
  rw [filter_of_imp fun e : Entry η => h e.unit.name]

theorem Stage.restrict_restrict (h : ∀ u, V u = true → W u = true) (next : Stage) :
    (next.restrict W).restrict V = next.restrict V := by
  cases next with
  | listening => rfl
  | opening snapshot attempt =>
    cases snapshot with
    | none => rfl
    | some snapshot =>
      have same := filter_of_imp (fun known : String × ActiveState => h known.1) snapshot
      exact congrArg (fun snapshot => Stage.opening (some snapshot) attempt) same

theorem Play.restrict_restrict (h : ∀ u, V u = true → W u = true)
    (p : Play η (Except Failure Stage)) :
    (p.restrict W (Stage.restrict W)).restrict V (Stage.restrict V) =
      p.restrict V (Stage.restrict V) := by
  cases p with
  | waits w => exact congrArg Play.waits (Playing.restrict_restrict h w)
  | ended w s r =>
    simp only [Play.restrict, Playing.restrict_restrict h, State.restrict_restrict h]
    cases r with
    | error f => rfl
    | ok next => simp only [Except.map, Stage.restrict_restrict h]

end

section

variable {script : Script η} {c : Plan} {v : String}

/-- The session that tracks one unit only takes the course of the one that tracks more, as far as it
is about the unit. -/
theorem session_only (watched : c.watches v = true) (n : Nat) :
    script.session (c.only v) n =
      (script.session c n).restrict (· == v) (Stage.restrict (· == v)) := by
  have narrower : ∀ u, (u == v) = true → c.watches u = true := by
    intro u same
    rw [eq_of_beq same, watched]
  rw [session_restrict script c n, Play.restrict_restrict narrower]
  exact session_restrict script (c.only v) n

/-- The session that tracks one unit only knows no other one. -/
theorem get?_of_session_only {n : Nat} {w : Playing} {s : State η} {r : Except Failure Stage}
    (h : script.session (c.only v) n = .ended w s r) {u : String} (other : (u == v) = false) :
    s.registry.get? u = none := by
  have course := session_restrict script (c.only v) n
  rw [h] at course
  cases hp : script.session (c.only v).unfiltered n with
  | waits _ =>
    rw [hp] at course
    cases course
  | ended w' s' r' =>
    rw [hp] at course
    obtain ⟨-, rfl, -⟩ := Play.ended.inj course
    exact Registry.get?_restrict_of_not s'.registry other

theorem eventsAbout_restrict (w : Playing) :
    (w.restrict (· == v)).eventsAbout v = w.eventsAbout v :=
  filter_of_imp (fun _ h => h) w.events

theorem sights_restrict (signal : Option Signal) (w : Playing)
    (p : Play η (Except Failure Stage)) :
    (p.restrict (· == v) (Stage.restrict (· == v))).sights v signal (w.restrict (· == v)) =
      p.sights v signal w := by
  have world : (p.restrict (· == v) (Stage.restrict (· == v))).world =
      p.world.restrict (· == v) := by cases p <;> rfl
  have known : (p.restrict (· == v) (Stage.restrict (· == v))).known v = p.known v := by
    cases p with
    | waits _ => rfl
    | ended w s r =>
      have same : (s.restrict (· == v)).registry.get? v = s.registry.get? v :=
        get?_of_watched (beq_self_eq_true v)
      exact congrArg (fun e => [Sight.known (Option.map Entry.forget e)]) same
  unfold Play.sights Playing.eventsSince
  rw [world, known, eventsAbout_restrict, eventsAbout_restrict, failure_restrict]

theorem account_only (watched : c.watches v = true) (n : Nat) :
    script.account (c.only v) v n = script.account c v n := by
  induction n with
  | zero => rfl
  | succ n ih =>
    rw [Script.account, Script.account, ih, session_only watched, session_only watched]
    cases script.session c n with
    | waits w => rfl
    | ended w s r =>
      cases r with
      | error f => rfl
      | ok next =>
        have signal : script.signal? (w.restrict (· == v)) (next.restrict (· == v)) =
            script.signal? w next := by cases next <;> rfl
        change _ ++ Play.sights v (script.signal? (w.restrict (· == v)) (next.restrict (· == v)))
          (w.restrict (· == v)) _ = _
        rw [signal, sights_restrict]

end

/-! ## News -/

namespace Line

variable {line : Line η} {v : String} {i j : Nat} {signal : Signal}

theorem news_succ_of_about (arrives : line.arrives i = some (.ok signal))
    (about : signal.isAbout v = true) : line.news v (i + 1) = line.news v i ++ [signal] := by
  simp only [news, arrives, if_pos about]

theorem news_succ_of_not (arrives : line.arrives i = some (.ok signal))
    (other : signal.isAbout v = false) : line.news v (i + 1) = line.news v i := by
  simp [news, arrives, other]

theorem news_mono (h : i ≤ j) : line.news v i <+: line.news v j := by
  induction h with
  | refl => exact List.prefix_rfl
  | step _ ih => exact ih.trans (List.prefix_append _ _)

/-- Where there is no news between two arrivals, no signal between them is about the unit. -/
theorem not_about_between {k : Nat} (first : i ≤ k) (last : k < j)
    (same : line.news v j = line.news v i) (arrives : line.arrives k = some (.ok signal)) :
    signal.isAbout v = false := by
  cases about : signal.isAbout v with
  | false => rfl
  | true =>
    have before : (line.news v i).length ≤ (line.news v k).length := (news_mono first).length_le
    have after : (line.news v (k + 1)).length ≤ (line.news v j).length :=
      (news_mono last).length_le
    rw [same, news_succ_of_about arrives about, List.length_append, List.length_singleton] at after
    omega

/-- What is brought after the news so far is still to come. -/
theorem le_of_brings {a : Except Failure Signal} (awaits : line.Awaits i)
    (same : line.news v j = line.news v i) (arrives : line.arrives j = some a)
    (about : ∀ signal, a = .ok signal → signal.isAbout v = true) : i ≤ j := by
  by_contra past
  obtain ⟨signal, here⟩ := awaits j (Nat.lt_of_not_le past)
  obtain rfl : a = .ok signal := Option.some.inj (arrives.symm.trans here)
  have not := not_about_between (Nat.le_refl j) (Nat.lt_of_not_le past) same.symm here
  rw [about signal rfl] at not
  cases not

theorem Awaits.succ (awaits : line.Awaits i) (arrives : line.arrives i = some (.ok signal)) :
    line.Awaits (i + 1) := by
  intro k hk
  rcases Nat.lt_succ_iff_lt_or_eq.1 hk with before | rfl
  · exact awaits k before
  · exact ⟨signal, arrives⟩

end Line

/-! ## Signals about other units -/

section

variable {script : Script η} {c : Plan} {v : String} {n : Nat} {w : Playing} {s : State η}
  {signal : Signal}

/-- Nothing comes of a signal about a unit that is not known and not watched. -/
theorem handleSignal_idle (script : Script η) (c : Plan) (other : signal.isAbout v = false)
    (unknown : ∀ u, (u == v) = false → s.registry.get? u = none) (w : Playing) :
    script.play (handleSignal (c.only v) signal s) w = .ended w s (.ok none) := by
  cases signal with
  | changed x =>
    rw [handleSignal_changed_of_none (unknown x.unit other)]
    rfl
  | added u =>
    rw [handleSignal_added_of_not_watched other]
    rfl
  | removed u =>
    rw [handleSignal_removed_of_none (unknown u other)]
    rfl
  | other kind => rfl

/-- Nothing is seen of a signal about another unit. -/
theorem session_idle (h : script.session (c.only v) n = .ended w s (.ok .listening))
    (arrives : (script.line w).arrives w.taken = some (.ok signal))
    (other : signal.isAbout v = false) :
    script.session (c.only v) (n + 1) =
        .ended { w with taken := w.taken + 1 } s (.ok .listening) ∧
      script.account (c.only v) v (n + 1) = script.account (c.only v) v n := by
  have next : script.session (c.only v) (n + 1) =
      .ended { w with taken := w.taken + 1 } s (.ok .listening) := by
    rw [Script.session_succ h]
    refine play_idle script _ arrives ?_
    exact handleSignal_idle script c other fun u => get?_of_session_only h
  refine ⟨next, ?_⟩
  have received : script.signal? w .listening = some signal := by
    simp only [Script.signal?, arrives, Option.bind_some, Except.toOption]
  have unseen : (script.session (c.only v) (n + 1)).sights v (some signal) w = [] := by
    rw [next]
    simp [Play.sights, Playing.eventsSince, Playing.eventsAbout, Play.world, other, Play.failure?]
  rw [Script.account, h]
  simp only [received, unseen, List.append_nil]

/-- Nothing is seen of signals about other units. -/
theorem session_skip (h : script.session (c.only v) n = .ended w s (.ok .listening)) (d : Nat)
    (others : ∀ k, w.taken ≤ k → k < w.taken + d → ∃ signal,
      (script.line w).arrives k = some (.ok signal) ∧ signal.isAbout v = false) :
    script.session (c.only v) (n + d) =
        .ended { w with taken := w.taken + d } s (.ok .listening) ∧
      script.account (c.only v) v (n + d) = script.account (c.only v) v n := by
  induction d with
  | zero => exact ⟨h, rfl⟩
  | succ d ih =>
    obtain ⟨here, seen⟩ := ih fun k first last => others k first (by omega)
    obtain ⟨signal, arrives, other⟩ := others (w.taken + d) (by omega) (by omega)
    obtain ⟨next, same⟩ := session_idle here arrives other
    exact ⟨next, same.trans seen⟩

end

/-! ## Pace -/

section

variable {c : Plan} {v : String} {σ : Script η} {τ : Script θ} {n m : Nat} {w w' : Playing}
  {s : State η} {s' : State θ} {next : Stage}

theorem filter_clockless (dated : Bool) (ts : List Transition) :
    (ts.map (Transition.clockless dated)).filter (fun t => t.unit.name == v) =
      (ts.filter fun t => t.unit.name == v).map (Transition.clockless dated) := by
  rw [List.filter_map]
  refine congrArg (List.map _) (List.filter_congr fun t _ => ?_)
  exact congrArg (fun unit : UnitId => unit.name == v) (t.unit_clockless dated)

/-- The same is seen of the unit in two stages that match. -/
theorem sights_of_matches {signal : Option Signal} {b b' : Playing}
    {p : Play η (Except Failure Stage)} {q : Play θ (Except Failure Stage)}
    (both : p.Matches (Abreast v (signal.any Signal.isDated) b b') Eq q)
    (events : b.events = w.events) (events' : b'.events = w'.events) :
    q.sights v signal w' = p.sights v signal w := by
  obtain ⟨u, t, r, u', t', r', rfl, rfl, abreast, same, concurs⟩ := both
  obtain ⟨new, new', grown, grown', clockless⟩ := abreast.events
  have since : w.eventsSince v u = new.filter fun t => t.unit.name == v :=
    eventsSince_of_append events grown
  have since' : w'.eventsSince v u' = new'.filter fun t => t.unit.name == v :=
    eventsSince_of_append events' grown'
  have filtered := congrArg (List.filter fun t : Transition => t.unit.name == v) clockless
  rw [filter_clockless, filter_clockless, ← since, ← since'] at filtered
  have yielded := congrArg (List.map Sight.yielded) filtered
  rw [List.map_map, List.map_map] at yielded
  have known : (Play.ended u t r).known v = (Play.ended u' t' r').known v :=
    congrArg (fun e => [Sight.known e]) (get?_of_forget same v)
  have failed : (Play.ended u t r).failure? = (Play.ended u' t' r').failure? := by
    cases concurs with
    | ok _ => rfl
    | error f => rfl
  unfold Play.sights
  rw [known, failed]
  exact congrArg (· ++ _ ++ _) yielded.symm

/-- Two sessions listen, and have received the same about the unit. -/
structure InTune (v : String) (σ : Script η) (τ : Script θ) (w w' : Playing) : Prop where
  asked : w.asked.count v = w'.asked.count v
  awaits : (σ.line w).Awaits w.taken
  awaits' : (τ.line w').Awaits w'.taken
  news : (σ.line w).news v w.taken = (τ.line w').news v w'.taken

/-- After `m` stages the second session has let see of the unit what the first one has after `n`
stages. If the first one goes on, so does the second, from a state that differs in subscriptions
only. -/
structure KeepsPace (c : Plan) (v : String) (σ : Script η) (τ : Script θ) (n m : Nat) : Prop where
  account : τ.account (c.only v) v m = σ.account (c.only v) v n
  course (w : Playing) (s : State η) (next : Stage) :
    σ.session (c.only v) n = .ended w s (.ok next) → ∃ w' s',
      τ.session (c.only v) m = .ended w' s' (.ok next) ∧ w.opened = w'.opened ∧
        s.forget = s'.forget ∧ (next = .listening → InTune v σ τ w w')

/-- One session keeps pace with the other by a stage that matches. -/
theorem KeepsPace.of_matches {b b' : Playing} {signal : Option Signal}
    (seen : τ.account (c.only v) v m = σ.account (c.only v) v n)
    (here : σ.session (c.only v) n = .ended w s (.ok next))
    (there : τ.session (c.only v) m = .ended w' s' (.ok next))
    (received : σ.signal? w next = signal) (received' : τ.signal? w' next = signal)
    (both : Play.Matches (Abreast v (signal.any Signal.isDated) b b') Eq
      (σ.play (stage (c.only v) next s) w) (τ.play (stage (c.only v) next s') w'))
    (events : b.events = w.events) (events' : b'.events = w'.events)
    (tuned : ∀ u t u', σ.play (stage (c.only v) next s) w = .ended u t (.ok .listening) →
      Abreast v (signal.any Signal.isDated) b b' u u' → InTune v σ τ u u') :
    KeepsPace c v σ τ (n + 1) (m + 1) := by
  have sights := sights_of_matches both events events'
  refine ⟨?_, ?_⟩
  · rw [Script.account, Script.account, here, there, seen, Script.session_succ here,
      Script.session_succ there]
    simp only [received, received', sights]
  · intro u t next' ends
    rw [Script.session_succ here] at ends
    obtain ⟨_, _, r, u', t', r', ended, ended', abreast, same, concurs⟩ := both
    obtain ⟨rfl, rfl, rfl⟩ := Play.ended.inj (ends.symm.trans ended)
    cases concurs with
    | ok agreed =>
      obtain rfl := agreed
      refine ⟨u', t', (Script.session_succ there).trans ended', abreast.opened, same, ?_⟩
      rintro rfl
      exact tuned u t u' ended abreast

theorem KeepsPace.start (c : Plan) (v : String) (σ : Script η) (τ : Script θ) :
    KeepsPace c v σ τ 0 0 := by
  refine ⟨rfl, ?_⟩
  rintro w s next ⟨⟩
  exact ⟨_, _, rfl, rfl, rfl, nofun⟩

section

variable (agree : ∀ k, (σ k).Alike v (τ k))

include agree

theorem KeepsPace.opening {snapshot : Option Snapshot} {attempt : Nat} (h : KeepsPace c v σ τ n m)
    (here : σ.session (c.only v) n = .ended w s (.ok (.opening snapshot attempt))) :
    KeepsPace c v σ τ (n + 1) (m + 1) := by
  obtain ⟨w', s', there, opened, same, -⟩ := h.course w s _ here
  have received : σ.signal? w (.opening snapshot attempt) = none := rfl
  refine KeepsPace.of_matches h.account here there received rfl
    (opening_matches agree c snapshot attempt opened same) rfl rfl ?_
  intro u t u' _ abreast
  refine ⟨abreast.asked, ?_, ?_, ?_⟩
  · rw [abreast.here.2]
    exact nofun
  · rw [abreast.there.2]
    exact nofun
  · rw [abreast.here.2, abreast.there.2]
    rfl

omit agree in
/-- Sessions that listen on after the same news are in tune. -/
theorem InTune.listens {a : Except Failure Signal} {u u' : Playing} {t : State η}
    (h : InTune v σ τ w w') (about : ∀ signal, a = .ok signal → signal.isAbout v = true)
    (arrives : (σ.line w).arrives w.taken = some a)
    (arrives' : (τ.line w').arrives w'.taken = some a)
    (abreast : Abreast v dated { w with taken := w.taken + 1 }
      { w' with taken := w'.taken + 1 } u u')
    (listens : σ.play (stage c .listening s) w = .ended u t (.ok .listening)) :
    InTune v σ τ u u' := by
  obtain ⟨signal, heard⟩ := signalled_of_listens σ c listens
  obtain rfl : a = .ok signal := Option.some.inj (arrives.symm.trans heard)
  obtain ⟨opened, taken⟩ := abreast.here
  obtain ⟨opened', taken'⟩ := abreast.there
  have line : σ.line u = σ.line w := congrArg σ opened
  have line' : τ.line u' = τ.line w' := congrArg τ opened'
  refine ⟨abreast.asked, ?_, ?_, ?_⟩
  · rw [line, taken]
    exact h.awaits.succ arrives
  · rw [line', taken']
    exact h.awaits'.succ arrives'
  · rw [line, taken, line', taken']
    show (σ.line w).news v (w.taken + 1) = (τ.line w').news v (w'.taken + 1)
    rw [Line.news_succ_of_about arrives (about signal rfl),
      Line.news_succ_of_about arrives' (about signal rfl), h.news]

/-- News is received by both, once the second session has passed over what is no news. -/
theorem KeepsPace.news {a : Except Failure Signal} (h : KeepsPace c v σ τ n m)
    (here : σ.session (c.only v) n = .ended w s (.ok .listening))
    (arrives : (σ.line w).arrives w.taken = some a)
    (about : ∀ signal, a = .ok signal → signal.isAbout v = true) :
    ∃ m', KeepsPace c v σ τ (n + 1) m' := by
  obtain ⟨w', s', there, opened, same, tuned⟩ := h.course w s _ here
  have tune := tuned rfl
  obtain ⟨j, awaits, news, arrives', -⟩ := ((line_alike agree opened).brings _ a).1
    ⟨w.taken, tune.awaits, rfl, arrives, about⟩
  rw [tune.news] at news
  obtain ⟨d, rfl⟩ := Nat.exists_eq_add_of_le (Line.le_of_brings tune.awaits' news arrives' about)
  obtain ⟨there, passed⟩ := session_skip there d fun k first last => by
    obtain ⟨signal, between⟩ := awaits k last
    exact ⟨signal, between, Line.not_about_between first last news between⟩
  have tune : InTune v σ τ w { w' with taken := w'.taken + d } :=
    ⟨tune.asked, tune.awaits, awaits, tune.news.trans news.symm⟩
  have received : σ.signal? w .listening = a.toOption := by
    simp only [Script.signal?, arrives, Option.bind_some]
  have received' : τ.signal? { w' with taken := w'.taken + d } .listening = a.toOption := by
    show ((τ.line w').arrives (w'.taken + d)).bind _ = _
    rw [arrives', Option.bind_some]
  refine ⟨_, .of_matches (passed.trans h.account) here there received received'
    (listening_matches agree c about opened tune.asked same arrives arrives') rfl rfl ?_⟩
  intro u t u' listens abreast
  exact tune.listens about arrives arrives' abreast listens

omit agree in
/-- Where nothing is seen of what the first session does, the second one waits for it. -/
theorem KeepsPace.waits (h : KeepsPace c v σ τ n m)
    (unseen : σ.account (c.only v) v (n + 1) = σ.account (c.only v) v n)
    (ends : ∀ w s next, σ.session (c.only v) (n + 1) ≠ .ended w s (.ok next)) :
    KeepsPace c v σ τ (n + 1) m :=
  ⟨h.account.trans unseen.symm, fun w s next goesOn => (ends w s next goesOn).elim⟩

omit agree in
theorem KeepsPace.idle {signal : Signal} (h : KeepsPace c v σ τ n m)
    (here : σ.session (c.only v) n = .ended w s (.ok .listening))
    (arrives : (σ.line w).arrives w.taken = some (.ok signal))
    (other : signal.isAbout v = false) : KeepsPace c v σ τ (n + 1) m := by
  obtain ⟨goesOn, unseen⟩ := session_idle here arrives other
  refine ⟨h.account.trans unseen.symm, ?_⟩
  intro u t next ends
  obtain ⟨rfl, rfl, same⟩ := Play.ended.inj (goesOn.symm.trans ends)
  cases same
  obtain ⟨w', s', there, opened, same, tuned⟩ := h.course w s _ here
  have tune := tuned rfl
  refine ⟨w', s', there, opened, same, fun _ => ?_⟩
  refine ⟨tune.asked, tune.awaits.succ arrives, tune.awaits', ?_⟩
  exact (Line.news_succ_of_not arrives other).trans tune.news

/-- **One session keeps pace with the other**, whatever the next stage of the other one is. -/
theorem KeepsPace.succ (h : KeepsPace c v σ τ n m) : ∃ m', KeepsPace c v σ τ (n + 1) m' := by
  cases here : σ.session (c.only v) n with
  | waits w =>
    refine ⟨m, h.waits ?_ ?_⟩
    · rw [Script.account, here, List.append_nil]
    · rw [Script.session_stays here nofun]
      nofun
  | ended w s r =>
    cases r with
    | error f =>
      refine ⟨m, h.waits ?_ ?_⟩
      · rw [Script.account, here, List.append_nil]
      · rw [Script.session_stays here nofun]
        nofun
    | ok next =>
      cases next with
      | opening snapshot attempt => exact ⟨_, h.opening agree here⟩
      | listening =>
        cases arrives : (σ.line w).arrives w.taken with
        | none =>
          have silent := (Script.session_succ here).trans (play_silent σ (c.only v) arrives)
          refine ⟨m, h.waits ?_ ?_⟩
          · rw [Script.account, here, silent]
            simp [Script.signal?, arrives, Play.sights, Playing.eventsSince, Play.world,
              Play.failure?]
          · rw [silent]
            nofun
        | some a =>
          -- A signal about another unit is no news, and the other session stays where it is.
          by_cases about : ∀ signal, a = .ok signal → signal.isAbout v = true
          · exact h.news agree here arrives about
          · push Not at about
            obtain ⟨signal, rfl, other⟩ := about
            exact ⟨m, h.idle here arrives (by simpa using other)⟩

theorem keepsPace (c : Plan) (n : Nat) : ∃ m, KeepsPace c v σ τ n m := by
  induction n with
  | zero => exact ⟨0, .start c v σ τ⟩
  | succ n ih =>
    obtain ⟨m, h⟩ := ih
    exact h.succ agree

end

end

theorem failure_of_account {c : Plan} {v : String} {σ : Script η} {τ : Script θ} {n m : Nat}
    (same : τ.account c v m = σ.account c v n) :
    (τ.session c m).failure? = (σ.session c n).failure? := by
  refine Option.ext fun f => ?_
  have ends := ended_mem_account τ c v (n := m) (f := f)
  rw [same] at ends
  exact ends.symm.trans (ended_mem_account σ c v)

/-- **Trouble with one unit stays with that unit.** Two sessions follow scripts that agree on a
watched unit. Whatever else is listed and signalled, and whichever calls about other units fail:
what is seen of the unit in so many stages of one session is seen in some number of stages of the
other, and if one has failed by then, so has the other, in the same way. -/
theorem trouble_stays_with_its_unit (c : Plan) {v : String} (watched : c.watches v = true)
    {σ : Script η} {τ : Script θ} (agree : ∀ k, (σ k).Alike v (τ k)) :
    (∀ n, ∃ m, τ.account c v m = σ.account c v n ∧
        (τ.session c m).failure? = (σ.session c n).failure?) ∧
      ∀ n, ∃ m, σ.account c v m = τ.account c v n ∧
        (σ.session c m).failure? = (τ.session c n).failure? := by
  refine ⟨fun n => ?_, fun n => ?_⟩
  · obtain ⟨m, h⟩ := keepsPace agree c n
    have same : τ.account c v m = σ.account c v n := by
      rw [← account_only watched, ← account_only watched, h.account]
    exact ⟨m, same, failure_of_account same⟩
  · obtain ⟨m, h⟩ := keepsPace (fun k => (agree k).symm) c n
    have same : σ.account c v m = τ.account c v n := by
      rw [← account_only watched, ← account_only watched, h.account]
    exact ⟨m, same, failure_of_account same⟩

/-! ## A unit among others -/

/-- A unit fails, and there is no other one. -/
def alone : Script Unit := fun _ =>
  { made := .ok ()
    connects := .ok ()
    subscribesManager := .ok ()
    lists := .ok ["web"]
    subscribes := fun _ _ => .ok ()
    fetches := fun u _ => .ok ⟨u, "active", some 1, none⟩
    unsubscribes := fun _ => .ok ()
    arrives := fun n => [.changed ⟨"web", "failed", some 2, some 7⟩][n]?.map .ok
    closes := .ok ()
    sleeps := .ok ()
    clock := fun _ => 0 }

/-- The unit fails; one unit cannot be subscribed to, and the state of another one is unknown. -/
def amongOthers : Script Nat := fun _ =>
  { made := .ok ()
    connects := .ok ()
    subscribesManager := .ok ()
    lists := .ok ["db", "web", "cache"]
    subscribes := fun u n => if u = "db" then .error ⟨"GetUnit", "no such unit", none⟩ else .ok n
    fetches := fun u _ =>
      if u = "cache" then .ok ⟨u, "maintenance", none, none⟩ else .ok ⟨u, "active", some 1, none⟩
    unsubscribes := fun _ => .error (.call "RemoveMatch" "no reply" none)
    arrives := fun n => [.removed "cache", .changed ⟨"web", "failed", some 2, some 7⟩,
      .added "db"][n]?.map .ok
    closes := .ok ()
    sleeps := .ok ()
    clock := fun n => n }

theorem amongOthers_alike (k : Nat) : (alone k).Alike "web" (amongOthers k) where
  made := rfl
  connects := rfl
  subscribesManager := rfl
  lists := rfl
  subscribes _ := rfl
  fetches _ := rfl
  brings news a := by
    constructor
    · rintro ⟨n, -, rfl, arrives, about⟩
      match n, arrives with
      | 0, arrives =>
        refine ⟨1, ?_, rfl, arrives, about⟩
        rintro i early
        obtain rfl := Nat.lt_one_iff.1 early
        exact ⟨_, rfl⟩
    · rintro ⟨n, -, rfl, arrives, about⟩
      match n, arrives with
      | 0, arrives => cases about _ (Option.some.inj arrives).symm
      | 1, arrives => exact ⟨0, nofun, rfl, arrives, about⟩
      | 2, arrives => cases about _ (Option.some.inj arrives).symm
  closes := rfl
  sleeps := rfl

/-- The failure is seen among other units as it is seen when there is none. -/
theorem failure_seen_among_others :
    Plan.everything.watches "web" = true ∧ (∀ k, (alone k).Alike "web" (amongOthers k)) ∧
      ∃ m, amongOthers.account .everything "web" m =
        [.yielded ⟨⟨.system, "web"⟩, .active, .failed, 7⟩,
          .known (some ⟨⟨.system, "web"⟩, some .failed, some 2, ()⟩)] := by
  have seen : alone.account .everything "web" 2 =
      [.yielded ⟨⟨.system, "web"⟩, .active, .failed, 7⟩,
        .known (some ⟨⟨.system, "web"⟩, some .failed, some 2, ()⟩)] := rfl
  have watched : Plan.everything.watches "web" = true := rfl
  obtain ⟨m, same, -⟩ := (trouble_stays_with_its_unit .everything watched amongOthers_alike).1 2
  exact ⟨watched, amongOthers_alike, m, same.trans seen⟩

end UnitWatch.Session
