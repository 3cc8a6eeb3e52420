import UnitWatch.Proofs.Supervisor.Termination

/-!
# The exit code

What `serve` returns, for every way in which a run can go. The exit code is computed when the
sessions have ended, from the failures that have been recorded by then, and nothing is recorded
after that; a stop that is requested before the return makes it 0.

**Main result** (`returns_exit_code`): when `serve` starts to stop, that it then returns, what it
returns, and what is left of sessions, workers and sends when it does.
-/

namespace UnitWatch.Supervisor

variable {η : Type}

namespace Daemon

variable {d d' : Daemon η} {a : Actor} {n : Nat}

/-- Steps of operations alone lead to where `goal` holds. -/
inductive Operates (goal : Daemon η → Prop) : Daemon η → Prop
  | here {d : Daemon η} (h : goal d) : Operates goal d
  | step {d d' : Daemon η} {n : Nat} (step : Step (.operation n) d d') (h : Operates goal d') :
      Operates goal d

/-- A daemon of which nothing but to serve has been asked. -/
def served (settings : Settings) (timeout : Span) (attempts : Int) (backoff : Backoff) :
    Daemon η where
  state := (State.make settings timeout attempts backoff).call .serve

/-- Without rules there is nothing to wait for. -/
theorem served_of_no_rules {settings : Settings} (none : settings.scopes = []) (timeout : Span)
    (attempts : Int) (backoff : Backoff) :
    Operates (fun d => d.state.result? 0 = some 0)
      (served (η := η) settings timeout attempts backoff) := by
  have bare : served (η := η) settings timeout attempts backoff = {
      state := {
        settings, timeout, lanes := []
        operations := [{ method := .serve, job := Method.serve.job }] } } := by
    simp [served, State.make, State.call, none]
  rw [bare]
  iterate 6 refine .step (.operates _ 0 _ _ _ _ _ rfl rfl rfl) ?_
  iterate 3 refine .step (.operates _ 1 _ _ _ _ _ rfl rfl rfl) ?_
  iterate 12 refine .step (.operates _ 0 _ _ _ _ _ rfl rfl rfl) ?_
  exact .here rfl

theorem exitCode_cases (d : Daemon η) : d.state.exitCode = 1 ∨ d.state.exitCode = 0 := by
  unfold State.exitCode exitCodeOf
  split
  · exact .inl rfl
  · exact .inr rfl

/-- The exit code says whether there are sessions and all of them have failed. -/
theorem exitCode_eq_one_iff (h : Recorded d.state) :
    d.state.exitCode = 1 ↔ d.state.lanes ≠ [] ∧
      ∀ l ∈ d.state.lanes, ∃ reason, (l.scope, reason) ∈ d.state.failures := by
  have decides : d.state.exitCode = 1 ↔
      d.state.lanes ≠ [] ∧ d.state.failures.length = d.state.lanes.length := by
    simp [State.exitCode, exitCodeOf]
  rw [decides, h.length_eq_iff]
  rfl

/-- **From start to exit code.** However the sessions and the senders behave, and whenever a signal
comes in:

- there is one session for each scope that a rule names;
- `serve` starts to stop only when a stop has been requested of it, or every session has ended;
  without rules it goes to its return at once;
- once it starts to stop, or every session has ended, it returns, whatever else is asked of the
  daemon in the meantime, when that is left to itself;
- a session is recorded among the failures exactly if it has ended in another way than being
  stopped. Where it waits it gives way to a stop: from then on it fails, and ends as stopped if its
  connection behaves in its documented ways;
- `serve` returns 1 exactly if there are sessions, all of them are recorded, and no stop was
  requested before it returned, and 0 otherwise. Then every session and worker has ended, nothing is
  pending, and `serve` has closed the sender once. -/
theorem returns_exit_code (settings : Settings) (timeout : Span) (attempts : Int)
    (backoff : Backoff) {d : Daemon η}
    (run : Turns (initial settings timeout attempts backoff) d) :
    d.state.lanes.map Lane.scope = settings.scopes ∧
    (∀ (n : Nat) (o : Operation) resume, d.state.operations[n]? = some o → o.method = .serve →
      o.job = .ask () .cancelSessions resume →
      o.stopRequested = true ∨ ∀ l ∈ d.state.lanes, l.Over) ∧
    (settings.scopes = [] → Operates (fun d => d.state.result? 0 = some 0)
      (served (η := η) settings timeout attempts backoff)) ∧
    (∀ (n : Nat) (o : Operation), d.state.operations[n]? = some o → o.method = .serve →
      ((∀ l ∈ d.state.lanes, l.Over) ∨ ∃ resume, o.job = .ask () .cancelSessions resume) →
      ∀ d', Turns d d' → Inevitable (fun d => ∃ code, d.state.result? n = some code) d') ∧
    (∀ l ∈ d.state.lanes, ((∃ reason, (l.scope, reason) ∈ d.state.failures) ↔
      ∃ s f, l.session = .running (.done s (.error f)) ∧ f ≠ .cancelled) ∧ l.GivesWay) ∧
    ∀ (n : Nat) (o : Operation) r, d.state.operations[n]? = some o → o.method = .serve →
      o.job = .done () r → ∃ code, r = .ok (some code) ∧ (code = 1 ∨ code = 0) ∧
        (code = 1 ↔ d.state.lanes ≠ [] ∧
          (∀ l ∈ d.state.lanes, ∃ reason, (l.scope, reason) ∈ d.state.failures) ∧
          o.stopRequested = false) ∧
        (∀ l ∈ d.state.lanes, l.Finished) ∧ d.state.pending = 0 ∧ d.closings n = 1 := by
  have reaches := run.reaches
  have sane := run.sane (sane_initial settings timeout attempts backoff)
  have serving := sane.serving
  have recorded := serving.staffed.1.recorded
  refine ⟨?_, ?_, ?_, ?_, ?_, ?_⟩
  · rw [reaches.scopes_eq]
    simp [initial, State.make, Lane.scope, Function.comp_def]
  · intro n o resume here serves now
    have safe := serving.comes n o here serves
    rw [now] at safe
    -- Sessions are cancelled when a stop is requested, or they are over.
    obtain ⟨-, requested | past⟩ := (safe d .refl).1
    · left
      simpa [State.isStopRequested, here] using requested
    · exact .inr past
  · intro none
    exact served_of_no_rules none timeout attempts backoff
  · rintro n o here serves (past | ⟨resume, stops⟩) d' run'
    · refine (run'.sane sane).inevitable ?_ ((enduring_asked n .serve).turns run' ⟨o, here, serves⟩)
      exact enduring_leaves.turns run' fun l hl => (past l hl).leaves
    · exact AtStop.inevitable ⟨o, resume, here, serves, stops⟩ sane run'
  · intro l hl
    refine ⟨?_, serving.staffed.1.way l hl⟩
    rw [← Lane.reason?_isSome_iff]
    refine exists_congr fun reason => ?_
    rw [recorded.exact]
    constructor
    · rintro ⟨x, hx, same, failed⟩
      rwa [← recorded.eq_of_scope hx hl same]
    · intro failed
      exact ⟨l, hl, rfl, failed⟩
  · intro n o r here serves past
    have safe := serving.comes n o here serves
    rw [past] at safe
    obtain ⟨code, rfl, returned⟩ := safe d .refl
    have requested : d.state.isStopRequested n = o.stopRequested := by
      simp [State.isStopRequested, here]
    have finishes := sane.orderly.finishes n o here
    rw [past, serves] at finishes
    obtain ⟨quiet, closings⟩ := finishes d .refl (.inr rfl)
    have code_eq := returned.code_eq
    rw [requested] at code_eq
    refine ⟨code, rfl, ?_, ?_, returned.finished, quiet.pending, closings⟩
    · rw [code_eq]
      split
      · exact .inr rfl
      · exact exitCode_cases d
    · rw [code_eq]
      cases o.stopRequested with
      | true => simp
      | false =>
        simp only [Bool.false_eq_true, if_false, and_true]
        exact exitCode_eq_one_iff recorded

/-! ## A connection that is refused -/

/-- The operation is over, or waits. -/
def rests (o : Operation) : Bool :=
  match o.job with
  | .done _ _ => true
  | .ask _ q _ => decide q.Waits

/-- The session does not run, has ended, or waits. -/
def settled (l : Lane η) : Bool :=
  match l.session with
  | .running (.done _ (.ok _)) => false
  | .running (.ask _ q _) => (Session.cancelled? q).isSome
  | _ => true

theorem not_midTurn_of_settled {l : Lane η} (h : settled l = true) : ¬l.MidTurn := by
  rintro (⟨s, st, running⟩ | ⟨s, q, resume, running, still⟩)
  · simp [settled, running] at h
  · simp [settled, running, still] at h

/-- An operation goes on when all the others rest. -/
theorem Turn.operate (step : Step (.operation n) d d')
    (others : (d.state.operations.eraseIdx n).all rests = true)
    (lanes : d.state.lanes.all settled = true) : Turn (.operation n) d d' where
  step := step
  operations := by
    rintro m ⟨o, q, resume, here, waits, still, -⟩
    by_cases same : m = n
    · rw [same]
    · have rested := List.all_eq_true.1 others o (List.mem_eraseIdx_iff_getElem?.2 ⟨m, same, here⟩)
      simp [rests, waits, still] at rested
  sessions := by
    rintro - ⟨l, hl, mid⟩
    exact absurd mid (not_midTurn_of_settled (List.all_eq_true.1 lanes l hl))

/-- The only session goes on when the operations rest. -/
theorem Turn.proceed {scope : BusScope} {l : Lane η} (step : Step (.lane scope) d d')
    (rested : d.state.operations.all rests = true) (only : d.state.lanes = [l])
    (here : l.scope = scope) : Turn (.lane scope) d d' where
  step := step
  operations := by
    rintro m ⟨o, q, resume, there, waits, still, -⟩
    have rests := List.all_eq_true.1 rested o (List.mem_of_getElem? there)
    simp [Daemon.rests, waits, still] at rests
  sessions := by
    rintro - ⟨x, hx, mid⟩
    refine ⟨x, hx, mid, ?_⟩
    rw [only, List.mem_singleton] at hx
    rw [hx, here]

theorem Turn.call (step : Step .caller d d') (rested : d.state.operations = [])
    (lanes : d.state.lanes.all settled = true) : Turn .caller d d' where
  step := step
  operations := by
    rintro m ⟨o, q, resume, here, -⟩
    simp [rested] at here
  sessions := by
    rintro - ⟨l, hl, mid⟩
    exact absurd mid (not_midTurn_of_settled (List.all_eq_true.1 lanes l hl))

/-- Some run leads to where `goal` holds. -/
inductive Leads (goal : Daemon η → Prop) : Daemon η → Prop
  | here {d : Daemon η} (h : goal d) : Leads goal d
  | turn {d d' : Daemon η} {a : Actor} (turn : Turn a d d') (h : Leads goal d') : Leads goal d

theorem Leads.turns {goal : Daemon η → Prop} (h : Leads goal d) : ∃ d', Turns d d' ∧ goal d' := by
  induction h with
  | here h => exact ⟨_, .refl, h⟩
  | turn turn _ ih =>
    obtain ⟨d', run, reached⟩ := ih
    exact ⟨d', .head ⟨_, turn⟩ run, reached⟩

/-- What the connection of the only session is answered. -/
def refused : Failure := .ofBus (.connection "system" "refused")

theorem leads_to_refused : Leads (η := Nat)
    (fun d => d.state.failures.map Prod.fst = [.system] ∧
      d.state.operations[0]? = some { method := .serve, job := .done () (.ok (some 1)) })
    (initial oneRule (.seconds 5) 3 ⟨.seconds 1, .seconds 1⟩) := by
  refine .turn (.call (.calls _ .serve (by simp)) rfl rfl) ?_
  iterate 5 refine .turn (.operate (.operates _ 0 _ _ _ _ _ rfl rfl rfl) rfl rfl) ?_
  refine .turn (.proceed (.session _ .system _ _ _ rfl (.begins _ rfl)) rfl rfl rfl) ?_
  refine .turn (.proceed (.session _ .system _ _ _ rfl
    (.answered _ _ .open _ (.ok ()) rfl)) rfl rfl rfl) ?_
  refine .turn (.proceed (.session _ .system _ _ _ rfl
    (.answered _ _ .connect _ (.error refused) rfl)) rfl rfl rfl) ?_
  refine .turn (.proceed (.session _ .system _ _ _ rfl
    (.answered _ _ .close _ (.ok ()) rfl)) rfl rfl rfl) ?_
  iterate 4 refine .turn (.operate (.operates _ 1 _ _ _ _ _ rfl rfl rfl) rfl rfl) ?_
  iterate 12 refine .turn (.operate (.operates _ 0 _ _ _ _ _ rfl rfl rfl) rfl rfl) ?_
  exact .here ⟨rfl, rfl⟩

/-- The only session fails, and no stop is requested: `serve` returns 1. -/
theorem returns_one_when_refused : ∃ d : Daemon Nat,
    Turns (initial oneRule (.seconds 5) 3 ⟨.seconds 1, .seconds 1⟩) d ∧
      d.state.result? 0 = some 1 ∧ (∀ l ∈ d.state.lanes, l.Finished) ∧ d.state.pending = 0 ∧
      d.closings 0 = 1 := by
  obtain ⟨d, run, -, past⟩ := leads_to_refused.turns
  obtain ⟨-, -, -, -, -, returns⟩ := returns_exit_code oneRule (.seconds 5) 3 _ run
  obtain ⟨code, -, -, -, finished, pending, closings⟩ := returns 0 _ _ past rfl rfl
  exact ⟨d, run, by simp [State.result?, past, Operation.result?], finished, pending, closings⟩

end Daemon

end UnitWatch.Supervisor
