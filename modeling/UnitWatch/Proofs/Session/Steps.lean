import UnitWatch.Proofs.Registry
import UnitWatch.Session.Program

/-!
# The steps of a session, request by request

Where a step of a session waits, and what it goes on with.
-/

namespace UnitWatch

theorem Action.get_bind {σ Q α : Type} {A : Q → Type} (f : σ → Action σ A α) (s : σ) :
    (Action.get >>= f) s = f s s := rfl

section

variable {σ Q α β : Type} {A : Q → Type} {x : Action σ A α} {s s' : σ}

theorem Action.bind_of_done {a : α} (f : α → Action σ A β) (h : x s = .done s' (.ok a)) :
    (x >>= f) s = f a s' := by
  simp only [bind, Action.bind, h, Process.done_bind]

theorem Action.bind_of_failed {e : Failure} (f : α → Action σ A β)
    (h : x s = .done s' (.error e)) : (x >>= f) s = .done s' (.error e) := by
  simp only [bind, Action.bind, h, Process.done_bind]

end

variable {η : Type}

/-- The entry that a unit gets from the state that was fetched for it. -/
def Entry.first (unit : UnitId) (subscription : η) (raw : RawState) : Entry η :=
  ⟨unit, raw.report?.map (·.state), raw.report?.bind (·.monotonic), subscription⟩

/-- A registry with one more unit, in the state that was fetched for it. -/
def Registry.enroll (r : Registry η) (unit : String) (subscription : η) (raw : RawState) :
    Registry η :=
  match raw.report? with
  | none => r.insertPending unit subscription
  | some report => r.insert report subscription

theorem Registry.enroll_eq_put (r : Registry η) {unit : String} (subscription : η) {raw : RawState}
    (h : raw.unit = unit) :
    r.enroll unit subscription raw = r.put (Entry.first ⟨r.scope, unit⟩ subscription raw) := by
  unfold enroll Entry.first
  cases hr : raw.report? with
  | none => rfl
  | some report =>
    have unit : report.unit = unit := (RawState.unit_of_report hr).trans h
    simp only [insert, settledEntry, unit]
    rfl

theorem Registry.WellFormed.enroll {r : Registry η} (h : r.WellFormed) {unit : String}
    (subscription : η) {raw : RawState} (hu : raw.unit = unit) :
    (r.enroll unit subscription raw).WellFormed := by
  rw [enroll_eq_put r subscription hu]
  exact h.put rfl

namespace Session

/-- What is noted about the state that was fetched for a unit. -/
def Notice.enrolled (unit : String) (raw : RawState) : Notice :=
  match raw.report? with
  | none => .stateUnrecognized unit raw.state
  | some report => .tracked unit report.state

/-- How `track` goes on with the state that was fetched. -/
theorem enroll_eq (unit : String) (subscription : η) (raw : RawState) (s : State η) :
    (match raw.report? with
      | none => do
          modifyRegistry fun r => r.insertPending unit subscription
          note (.stateUnrecognized unit raw.state)
      | some report => do
          modifyRegistry fun r => r.insert report subscription
          note (.tracked unit report.state) : Step η Unit) s =
      note (.enrolled unit raw) { s with registry := s.registry.enroll unit subscription raw } := by
  unfold Notice.enrolled Registry.enroll
  cases raw.report? <;> rfl

/-! ## Between connections -/

section

variable {c : Plan} {s : State η} {attempt : Nat} {snapshot : Snapshot} {reason : String}

/-- A pause, and the next connection after it. -/
def sleepThen (n : Notice) (delay : Span) (next : Stage) : Step η (Option Stage) := do
  note n
  demand (ask (.sleep delay))
  return some next

theorem pause_of_le (c : Plan) (s : State η) (h : attempt ≤ 1024) :
    pause c attempt s = .done s (.ok (c.backoff.delay attempt)) := by
  have early : ¬(1024 : Int) < attempt := by omega
  rw [pause, Backoff.delay?, if_neg early]
  rfl

theorem pause_of_lt (c : Plan) (s : State η) (h : 1024 < attempt) :
    pause c attempt s = .done s (.error (.crash .tooLargeForBinary)) := by
  have late : (1024 : Int) < attempt := by omega
  rw [pause, Backoff.delay?, if_pos late]
  rfl

/-- As many connections in a row as are tolerated could not be started. -/
theorem retry_of_last (h : c.attempts < (attempt + 1 : Nat)) :
    retry c (some snapshot) attempt reason s = .done s (.error (givingUp c reason attempt)) := by
  simp only [retry, if_pos h]
  rfl

theorem retry_of_lt (more : ¬c.attempts < (attempt + 1 : Nat)) (late : 1024 < attempt + 1) :
    retry c (some snapshot) attempt reason s =
      .done s (.error (.crash .tooLargeForBinary)) := by
  simp only [retry, if_neg more]
  exact Action.bind_of_failed _ (pause_of_lt c s late)

theorem retry_of_le (more : ¬c.attempts < (attempt + 1 : Nat)) (early : attempt + 1 ≤ 1024) :
    retry c (some snapshot) attempt reason s =
      sleepThen (.reconnectFailed (attempt + 1) (c.backoff.delay (attempt + 1 : Nat)) reason)
        (c.backoff.delay (attempt + 1 : Nat)) (.opening (some snapshot) (attempt + 1)) s := by
  simp only [retry, if_neg more]
  exact Action.bind_of_done _ (pause_of_le c s early)

theorem recover_of_last (h : c.attempts < 1) :
    recover c s = .done s (.error (givingUp c "connection lost" 0)) := by
  simp only [recover, Action.get_bind, if_pos h]
  rfl

theorem recover_of_le (h : ¬c.attempts < 1) :
    recover c s = sleepThen (.disconnected s.registry.states.length (c.backoff.delay 1))
      (c.backoff.delay 1) (.opening (some s.registry.states) 1) s := by
  simp only [recover, Action.get_bind, if_neg h]
  rfl

end

/-- What comes after a connection: the session fails, or there is a pause and then the next one. -/
inductive Interlude (basis : Option Snapshot) (s : State η) :
    Process (State η) (Answer (η := η)) (Except Failure (Option Stage)) → Prop
  | fails (f : Failure) : Interlude basis s (.done s (.error f))
  | pauses {n : Notice} (quiet : ∀ a b, n ≠ .started a b) (delay : Span) (attempt : Nat) :
      Interlude basis s (sleepThen n delay (.opening basis attempt) s)

theorem retry_interlude (c : Plan) (basis : Option Snapshot) (attempt : Nat) (reason : String)
    (s : State η) : Interlude basis s (retry c basis attempt reason s) := by
  cases basis with
  | none => exact .fails _
  | some snapshot =>
    by_cases last : c.attempts < (attempt + 1 : Nat)
    · rw [retry_of_last last]
      exact .fails _
    · by_cases early : attempt + 1 ≤ 1024
      · rw [retry_of_le last early]
        exact .pauses (by simp) _ _
      · rw [retry_of_lt last (Nat.lt_of_not_le early)]
        exact .fails _

theorem recover_interlude (c : Plan) (s : State η) :
    Interlude (some s.registry.states) s (recover c s) := by
  by_cases last : c.attempts < 1
  · rw [recover_of_last last]
    exact .fails _
  · rw [recover_of_le last]
    exact .pauses (by simp) _ _

/-! ## Leaving a connection -/

/-- A connection is closed when there is a next one, or the session fails. -/
def closing (x : Step η (Option Stage)) : Step η Stage := do
  match ← Action.onFailure x teardown with
  | none => return .listening
  | some next => do
      teardown
      return next

theorem stage_opening (c : Plan) (snapshot : Option Snapshot) (attempt : Nat) :
    stage c (.opening snapshot attempt) =
      (do demand (ask .open); closing (openConnection c snapshot attempt) : Step η Stage) := rfl

theorem stage_listening (c : Plan) :
    stage c .listening = (closing (listen c) : Step η Stage) := rfl

/-- How `closing` goes on with what a connection came to. -/
theorem closing_eq (x : Step η (Option Stage)) (s : State η) :
    closing x s = (x s).bind fun s r =>
      match r with
      | .ok none => .done s (.ok .listening)
      | .ok (some next) => (do teardown; return next : Step η Stage) s
      | .error f => (do teardown; Action.fail f : Step η Stage) s := by
  simp only [closing, Action.onFailure, Action.attempt, bind, Action.bind, Process.bind_assoc,
    Process.done_bind]
  refine congrArg (x s).bind ?_
  funext s r
  cases r with
  | error f =>
    refine (Process.bind_assoc (teardown s) _ _).trans (congrArg (teardown s).bind ?_)
    funext s r
    cases r <;> rfl
  | ok next => cases next <;> rfl

/-! ## Signals -/

section

variable {c : Plan} {s : State η} {unit : String} {x : RawState} {e : Entry η}

theorem handleSignal_changed_of_none (h : s.registry.get? x.unit = none) :
    handleSignal c (.changed x) s = .done s (.ok none) := by
  simp only [handleSignal, Action.get_bind, Registry.get?_eq_none.1 h]
  rfl

theorem handleSignal_changed_of_unrecognized (h : s.registry.get? x.unit = some e)
    (hx : x.report? = none) :
    handleSignal c (.changed x) s =
      (do note (.stateUnrecognized x.unit x.state); return none :
        Step η (Option Transition)) s := by
  simp only [handleSignal, Action.get_bind, Registry.contains_of_get? h, hx]
  rfl

theorem handleSignal_changed {report : Report} (h : s.registry.get? x.unit = some e)
    (hx : x.report? = some report) :
    handleSignal c (.changed x) s = .ask s .clock fun (now : Microseconds) =>
      (do
        modifyRegistry fun _ => (s.registry.apply report now).1
        match (e.update report now).2 with
        | some t => do
            note (.transition x.unit t.previous t.current)
            return some t
        | none => return none : Step η (Option Transition)) s := by
  simp only [handleSignal, Action.get_bind, Registry.contains_of_get? h, hx]
  refine congrArg (Process.ask s Request.clock) ?_
  funext now
  have event : (e.update report now).2 = (s.registry.apply report now).2 := by
    rw [Registry.apply_of_get? now (RawState.unit_of_report hx ▸ h)]
  rw [event]
  rfl

theorem handleSignal_added_of_some (h : s.registry.get? unit = some e) :
    handleSignal c (.added unit) s = .done s (.ok none) := by
  simp only [handleSignal, Action.get_bind, Registry.contains_of_get? h]
  rfl

theorem handleSignal_added_of_not_watched (h : c.watches unit = false) :
    handleSignal c (.added unit) s = .done s (.ok none) := by
  simp only [handleSignal, Action.get_bind, h, Bool.and_false]
  rfl

theorem handleSignal_added (h : s.registry.get? unit = none) (watched : c.watches unit = true) :
    handleSignal c (.added unit) s =
      (do track unit; return none : Step η (Option Transition)) s := by
  simp only [handleSignal, Action.get_bind, Registry.get?_eq_none.1 h, watched]
  rfl

theorem handleSignal_removed_of_none (h : s.registry.get? unit = none) :
    handleSignal c (.removed unit) s = .done s (.ok none) := by
  simp only [handleSignal, Action.get_bind, h]
  rfl

theorem handleSignal_removed (h : s.registry.get? unit = some e) :
    handleSignal c (.removed unit) s =
      (do release e.subscription; note (.untracked unit); return none :
        Step η (Option Transition)) { s with registry := s.registry.evict unit } := by
  simp only [handleSignal, Action.get_bind, h]
  rfl

end

end Session

end UnitWatch
