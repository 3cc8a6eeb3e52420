import UnitWatch.Proofs.Supervisor.Failures

/-!
# Taking turns

Operations and sessions run one at a time. An operation that goes on keeps its turn until it comes
to a request at which it waits for others (`Request.Waits`), or is over; until then nothing else
happens, no signal comes in, no session goes on. A session that goes on keeps its turn until it
waits where it can be stopped, or has ended (`Turn`).

So what an operation has seen in its turn still holds at the end of its turn. What it relies on has
to be stable under the steps of others only where it waits (`alongside`, `asks_alongside`), and
between two waits nothing comes in between (`asks_inTurn`).
-/

namespace UnitWatch.Supervisor

open Safe (Succeeds)

variable {η : Type}

/-- Where an operation waits for others; at its other requests it goes on at once. -/
def Request.Waits : Request → Prop
  | .sessionsEnded | .drained | .endWorkers | .closeSender | .stopOrOver _ | .result _ => True
  | _ => False

instance (q : Request) : Decidable q.Waits :=
  match q with
  | .sessionsEnded | .drained | .endWorkers | .closeSender | .stopOrOver _ | .result _ =>
    .isTrue trivial
  | .scopes | .startSessions | .cancelSessions | .failures | .pending | .waitAside
  | .catchSignals | .releaseSignals | .isStopRequested | .note _ => .isFalse id

/-- The session runs, and does not wait. -/
def Lane.MidTurn (l : Lane η) : Prop :=
  (∃ s st, l.session = .running (.done s (.ok st))) ∨
    ∃ s q resume, l.session = .running (.ask s q resume) ∧ Session.cancelled? q = none

namespace Daemon

/-- The operation has begun, and does not wait. -/
def MidTurn (d : Daemon η) (n : Nat) : Prop :=
  ∃ (o : Operation) (q : Request) (resume : Answer q → Job), d.state.operations[n]? = some o ∧
    o.job = .ask () q resume ∧ ¬q.Waits ∧ o.job ≠ o.method.job

/-- A step while nobody else is in the middle of a turn. An operation comes before the sessions that
it has stopped in its turn. -/
structure Turn (a : Actor) (d d' : Daemon η) : Prop where
  step : Step a d d'
  operations : ∀ n, d.MidTurn n → a = .operation n
  sessions : (∀ n, ¬d.MidTurn n) → (∃ l ∈ d.state.lanes, l.MidTurn) →
    ∃ l ∈ d.state.lanes, l.MidTurn ∧ a = .lane l.scope

/-- Any number of steps. -/
def Turns : Daemon η → Daemon η → Prop := Relation.ReflTransGen fun d d' => ∃ a, Turn a d d'

variable {d d' : Daemon η} {a : Actor} {n : Nat}

theorem Turns.reaches (run : Turns d d') : Reaches d d' := by
  induction run with
  | refl => exact .refl
  | tail _ step ih =>
    obtain ⟨a, turn⟩ := step
    exact ih.tail ⟨a, turn.step⟩

/-! ## What a step does to an operation -/

/-- The operation asks a request and is answered. -/
def Asks (n : Nat) (q : Request) (a : Answer q) (d d' : Daemon η) : Prop :=
  ∃ (o : Operation) (resume : Answer q → Job) (state : State η),
    d.state.operations[n]? = some o ∧ o.job = .ask () q resume ∧
      d.state.respond n q = some (a, state) ∧
      d' = { d with state := state.advance n (resume a), log := d.log ++ closing n q }

theorem Asks.step {q : Request} {a : Answer q} (h : Asks n q a d d') :
    Step (.operation n) d d' := by
  obtain ⟨o, resume, state, here, waits, responds, rfl⟩ := h
  exact .operates d n o q resume a state here waits responds

theorem Step.asks (step : Step (.operation n) d d') : ∃ q a, Asks n q a d d' := by
  cases step with
  | operates _ _ o q resume a state here waits responds =>
    exact ⟨q, a, o, resume, state, here, waits, responds, rfl⟩

/-- Operations that have been asked for stay. -/
theorem getElem?_of_responds {s s' : State η} {q : Request} (h : State.Responds s s' q)
    {o : Operation} (here : s.operations[n]? = some o) : s'.operations[n]? = some o := by
  rcases h.operations with same | more
  · rw [same, here]
  · rw [more, List.getElem?_append_left (List.getElem?_eq_some_iff.1 here).1, here]

/-- The operation that goes on. -/
theorem Asks.operation {q : Request} {a : Answer q} (h : Asks n q a d d') :
    ∃ (o : Operation) (resume : Answer q → Job), d.state.operations[n]? = some o ∧
      o.job = .ask () q resume ∧ d'.state.operations[n]? = some { o with job := resume a } := by
  obtain ⟨o, resume, state, here, waits, responds, rfl⟩ := h
  refine ⟨o, resume, here, waits, ?_⟩
  have still := getElem?_of_responds (State.responds_of_respond responds) here
  simp [State.advance, still]

/-- Other operations stay where they are. -/
theorem Step.aside {o : Operation} (step : Step a d d') (here : d.state.operations[n]? = some o)
    (other : a ≠ .operation n) : ∃ o' : Operation, d'.state.operations[n]? = some o' ∧
      o'.job = o.job ∧ o'.method = o.method ∧
      (o.stopRequested = true → o'.stopRequested = true) ∧
      (d.state.catcher ≠ some n → o'.stopRequested = o.stopRequested) := by
  cases step with
  | session _ scope l p ts _ moves =>
    obtain ⟨failures, eq⟩ := d.state.moveSession_eq scope p ts
    refine ⟨o, ?_, rfl, rfl, id, fun _ => rfl⟩
    rw [eq]
    exact here
  | worker => exact ⟨o, here, rfl, rfl, id, fun _ => rfl⟩
  | calls _ m ready =>
    refine ⟨o, ?_, rfl, rfl, id, fun _ => rfl⟩
    rw [State.call, List.getElem?_append_left (List.getElem?_eq_some_iff.1 here).1, here]
  | signalled =>
    unfold State.requestStop
    split
    · next m caught =>
      by_cases same : m = n
      · subst same
        refine ⟨{ o with stopRequested := true }, ?_, rfl, rfl, fun _ => rfl, ?_⟩
        · simp [here]
        · exact fun differs => absurd caught differs
      · refine ⟨o, ?_, rfl, rfl, id, fun _ => rfl⟩
        simp [same, here]
    · exact ⟨o, here, rfl, rfl, id, fun _ => rfl⟩
  | operates _ m o' q resume b state there waits responds =>
    have differs : m ≠ n := by
      rintro rfl
      exact other rfl
    refine ⟨o, ?_, rfl, rfl, id, fun _ => rfl⟩
    have still := getElem?_of_responds (State.responds_of_respond responds) here
    simp [State.advance, differs, still]

/-- An operation was there before, or has just been asked for. -/
theorem Step.before {o' : Operation} (step : Step a d d')
    (here : d'.state.operations[n]? = some o') :
    (∃ o, d.state.operations[n]? = some o) ∨ ∃ m, o' = { method := m, job := m.job } := by
  by_cases old : n < d.state.operations.length
  · exact .inl ⟨_, List.getElem?_eq_getElem old⟩
  · right
    have inside := (List.getElem?_eq_some_iff.1 here).1
    cases step with
    | session _ scope l p ts _ moves =>
      obtain ⟨failures, eq⟩ := d.state.moveSession_eq scope p ts
      rw [eq] at inside
      exact absurd inside old
    | worker => exact absurd inside old
    | calls _ m ready =>
      rcases getElem?_concat_cases here with there | ⟨-, rfl⟩
      · exact absurd (List.getElem?_eq_some_iff.1 there).1 old
      · exact ⟨m, rfl⟩
    | signalled =>
      unfold State.requestStop at inside
      split at inside
      · exact absurd (by simpa using inside) old
      · exact absurd inside old
    | operates _ m o q resume b state there waits responds =>
      -- The operation that goes on is not new.
      have differs : m ≠ n := by
        rintro rfl
        exact old (List.getElem?_eq_some_iff.1 there).1
      simp only [State.advance, List.getElem?_modify, differs, if_false] at here
      rcases (State.responds_of_respond responds).operations with same | more
      · rw [same] at here
        obtain ⟨x, there, rfl⟩ := Option.map_eq_some_iff.1 here
        exact absurd (List.getElem?_eq_some_iff.1 there).1 old
      · rw [more] at here
        obtain ⟨x, there, rfl⟩ := Option.map_eq_some_iff.1 here
        rcases getElem?_concat_cases there with there | ⟨-, rfl⟩
        · exact absurd (List.getElem?_eq_some_iff.1 there).1 old
        · exact ⟨.wait, rfl⟩

/-! ## Surroundings -/

/-- All the other steps, as the surroundings of an operation; it goes on by its own steps. -/
def amid (n : Nat) : Environment Unit Answer (Daemon η) where
  moves d d' := ∃ a, a ≠ .operation n ∧ Step a d d'
  answers d _ q a d' := Asks n q a d d'

/-- What happens between two points at which an operation goes on: something only if it waits. -/
def alongside (n : Nat) : Environment Unit Answer (Daemon η) where
  moves _ _ := False
  answers d _ q a d' := ∃ between, (amid n).Drifts d between ∧ (q.Waits ∨ between = d) ∧
    Asks n q a between d'

/-- What no step undoes. -/
def Enduring (P : Daemon η → Prop) : Prop := ∀ ⦃a d d'⦄, Step a d d' → P d → P d'

theorem Enduring.stable {P : Daemon η → Prop} (h : Enduring P) : (amid n).Stable P :=
  fun _ _ ⟨_, _, step⟩ hd => h step hd

theorem Enduring.and {P Q : Daemon η → Prop} (hp : Enduring P) (hq : Enduring Q) :
    Enduring fun d => P d ∧ Q d :=
  fun _ _ _ step h => ⟨hp step h.1, hq step h.2⟩

theorem drifts_alongside (h : (alongside n).Drifts d d') : d' = d := by
  induction h with
  | refl => rfl
  | tail _ step _ => exact step.elim

section

variable {J : Daemon η → Unit → Request → Prop} {α : Type} {q : Request}
  {P : Daemon η → Prop} {K : Daemon η → Answer q → Prop}

theorem done_alongside {post : Daemon η → Unit → α → Prop} {r : α} (h : post d () r) :
    Safe (alongside n) J post (.done () r) d := by
  intro d' hd
  obtain rfl := drifts_alongside hd
  exact h

/-- A request among others, in daemons of which `P` holds all along. -/
theorem asks_alongside (stable : (amid n).Stable P) (h : P d) (now : J d () q)
    (told : ∀ d a d', P d → Asks n q a d d' → K d' a) :
    Safe (alongside n) J (Succeeds fun d _ a => K d a) (ask q ()) d := by
  intro d₁ hd
  obtain rfl := drifts_alongside hd
  refine ⟨now, ?_⟩
  rintro a d' ⟨between, drift, -, asks⟩
  exact done_alongside (told between a d' (stable.drifts drift h) asks)

/-- A request in the middle of a turn. -/
theorem asks_inTurn (still : ¬q.Waits) (h : P d) (now : J d () q)
    (told : ∀ a d', P d → Asks n q a d d' → K d' a) :
    Safe (alongside n) J (Succeeds fun d _ a => K d a) (ask q ()) d := by
  intro d₁ hd
  obtain rfl := drifts_alongside hd
  refine ⟨now, ?_⟩
  rintro a d' ⟨between, -, waits | rfl, asks⟩
  · exact absurd waits still
  · exact done_alongside (told a d' h asks)

theorem tells_alongside {Q : Daemon η → Prop} (stable : (amid n).Stable P) (h : P d)
    (now : J d () q) (told : ∀ d a d', P d → Asks n q a d d' → Q d') :
    Safe (alongside n) J (Succeeds fun d _ _ => Q d) (tell q ()) d :=
  (asks_alongside (K := fun d _ => Q d) stable h now told).seq fun _ _ _ h => done_alongside h

theorem tells_inTurn {Q : Daemon η → Prop} (still : ¬q.Waits) (h : P d) (now : J d () q)
    (told : ∀ a d', P d → Asks n q a d d' → Q d') :
    Safe (alongside n) J (Succeeds fun d _ _ => Q d) (tell q ()) d :=
  (asks_inTurn (K := fun d _ => Q d) still h now told).seq fun _ _ _ h => done_alongside h

/-- A request that is asked for what it does, and undoes nothing. -/
theorem tells_enduring (enduring : Enduring P) (h : P d) (now : J d () q) :
    Safe (alongside n) J (Succeeds fun d _ _ => P d) (tell q ()) d :=
  tells_alongside enduring.stable h now fun _ _ _ h asks => enduring asks.step h

theorem asks_enduring (enduring : Enduring P) (h : P d) (now : J d () q) :
    Safe (alongside n) J (Succeeds fun d _ _ => P d) (ask q ()) d :=
  asks_alongside enduring.stable h now fun _ _ _ h asks => enduring asks.step h

/-- While the operation waits, the others may go on. -/
theorem past_alongside {post : Daemon η → Unit → α → Prop}
    {resume : Answer q → Process Unit Answer α}
    (h : Safe (alongside n) J post (.ask () q resume) d) (waits : q.Waits) (now : J d' () q)
    (step : Step a d d') (other : a ≠ .operation n) :
    Safe (alongside n) J post (.ask () q resume) d' := by
  intro d₁ hd
  obtain rfl := drifts_alongside hd
  refine ⟨now, ?_⟩
  rintro b d₂ ⟨between, drift, -, asks⟩
  exact (h d .refl).2 b d₂ ⟨between, .head ⟨a, other, step⟩ drift, .inl waits, asks⟩

end

/-! ### Requests of an operation that others may interrupt anywhere -/

section

variable {J : Daemon η → Unit → Request → Prop} {q : Request} {P : Daemon η → Prop}
  {K : Daemon η → Answer q → Prop}

theorem asks_amid (enduring : Enduring P) (h : P d) (now : ∀ d, P d → J d () q)
    (stable : ∀ a, (amid n).Stable (K · a))
    (told : ∀ d a d', P d → Asks n q a d d' → P d' → K d' a) :
    Safe (amid n) J (Succeeds fun d _ a => K d a) (ask q ()) d := by
  refine Safe.ask enduring.stable h now ?_
  intro d a d' h asks
  exact Safe.done (stable a) (told d a d' h asks (enduring asks.step h)) fun _ h => h

theorem tells_amid {Q : Daemon η → Prop} (enduring : Enduring P) (enduring' : Enduring Q) (h : P d)
    (now : ∀ d, P d → J d () q) (told : ∀ d a d', P d → Asks n q a d d' → P d' → Q d') :
    Safe (amid n) J (Succeeds fun d _ _ => Q d) (tell q ()) d :=
  (asks_amid (K := fun d _ => Q d) enduring h now (fun _ => enduring'.stable) told).seq
    fun _ _ _ h => Safe.done enduring'.stable h fun _ h => h

end

end Daemon

end UnitWatch.Supervisor
