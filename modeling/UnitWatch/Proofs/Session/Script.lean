import UnitWatch.Proofs.Session.Run

/-!
# Sessions that follow a script

A script says beforehand how every connection turns out: the replies to its calls, what arrives on
it, and what the clock shows when. A session that follows a script takes one course (`play`), stage
by stage (`perform`), and what it yields can be compared with what another session yields that
follows the same script.

A reply to a call about a unit depends on the unit, and on how many calls about it came before on
this connection. The clock shows the time at which so many signals have been taken.
-/

namespace UnitWatch.Session

variable {η : Type}

/-- A call that failed. -/
structure CallError where
  call : String
  reason : String
  name : Option String

def CallError.failure (e : CallError) : Failure := callFailure e.call e.reason e.name

/-- How a connection turns out. -/
structure Line (η : Type) where
  made : Except Failure Unit
  connects : Except Failure Unit
  subscribesManager : Except Failure Unit
  lists : Except Failure (List String)
  subscribes : String → Nat → Except CallError η
  /-- What is fetched is about the unit that is asked for, whatever name it bears. -/
  fetches : String → Nat → Except CallError RawState
  unsubscribes : η → Except BusFault Unit
  /-- What arrives as the so-manieth signal, if anything does. -/
  arrives : Nat → Option (Except Failure Signal)
  closes : Except Failure Unit
  /-- How the pause after the connection ends. -/
  sleeps : Except Failure Unit
  clock : Nat → Microseconds

/-- The connections, counted from one. -/
abbrev Script (η : Type) : Type := Nat → Line η

/-- How far a script has been played. -/
structure Playing where
  /-- How many connections have been made. -/
  opened : Nat := 0
  /-- The units that calls on this connection were about, the last one first. -/
  asked : List String := []
  /-- How many signals have been taken from this connection. -/
  taken : Nat := 0
  /-- What the session has yielded, in order. -/
  events : List Transition := []

namespace Script

variable (script : Script η)

/-- The current connection. -/
def line (w : Playing) : Line η := script w.opened

/-- The answer of the script, and how far it has been played then; there is none if nothing more
arrives. -/
def answer (w : Playing) : (q : Request η) → Option (Answer q × Playing)
  | .open => some ((script (w.opened + 1)).made, { opened := w.opened + 1, events := w.events })
  | .connect => some ((script.line w).connects, w)
  | .subscribeManager => some ((script.line w).subscribesManager, w)
  | .listUnits => some ((script.line w).lists, w)
  | .subscribe u =>
    some (((script.line w).subscribes u (w.asked.count u)).mapError CallError.failure,
      { w with asked := u :: w.asked })
  | .fetch u =>
    some ((((script.line w).fetches u (w.asked.count u)).map fun x => { x with unit := u }).mapError
      CallError.failure, { w with asked := u :: w.asked })
  | .unsubscribe k => some (((script.line w).unsubscribes k).mapError Failure.ofBus, w)
  | .nextSignal =>
    ((script.line w).arrives w.taken).map fun a => (a, { w with taken := w.taken + 1 })
  | .close => some ((script.line w).closes, w)
  | .emit t => some (.ok (), { w with events := w.events ++ [t] })
  | .sleep _ => some ((script.line w).sleeps, w)
  | .clock => some ((script.line w).clock w.taken, w)
  | .note _ => some ((), w)

end Script

/-- Where a process gets to with a script. -/
inductive Play (η α : Type) where
  | ended (w : Playing) (s : State η) (r : α)
  /-- Nothing more arrives. -/
  | waits (w : Playing)

namespace Play

variable {α β : Type}

def world : Play η α → Playing
  | ended w _ _ => w
  | waits w => w

/-- The phase in which a session is then. -/
def At : Play η (Except Failure Stage) → Phase η → Prop
  | ended _ s r, p => p = .done s r
  | waits _, p => ∃ s resume, p = .ask s .nextSignal resume

/-- Goes on from where a process has ended. -/
def bind (p : Play η α) (next : Playing → State η → α → Play η β) : Play η β :=
  match p with
  | ended w s r => next w s r
  | waits w => waits w

end Play

namespace Script

variable (script : Script η) {α β : Type}

def play : Process (State η) (Answer (η := η)) α → Playing → Play η α
  | .done s r, w => .ended w s r
  | .ask _ q resume, w =>
    match script.answer w q with
    | some (a, w') => play (resume a) w'
    | none => .waits w

theorem play_ask {s : State η} {q : Request η} {resume : Answer q → Process (State η) Answer α}
    {w w' : Playing} {a : Answer q} (h : script.answer w q = some (a, w')) :
    script.play (.ask s q resume) w = script.play (resume a) w' := by
  rw [play, h]

theorem play_bind (p : Process (State η) (Answer (η := η)) α)
    (next : State η → α → Process (State η) (Answer (η := η)) β) (w : Playing) :
    script.play (p.bind next) w =
      (script.play p w).bind fun w s r => script.play (next s r) w := by
  induction p generalizing w with
  | done s r => rfl
  | ask s q resume ih =>
    rw [Process.ask_bind, play, play]
    cases script.answer w q with
    | none => rfl
    | some answer => exact ih answer.1 answer.2

/-- So many stages of a session; none comes after a failure. -/
def perform (c : Plan) : Nat → Stage → State η → Playing → Play η (Except Failure Stage)
  | 0, next, s, w => .ended w s (.ok next)
  | n + 1, next, s, w =>
    (script.play (stage c next s) w).bind fun w s r =>
      match r with
      | .ok next => perform c n next s w
      | .error f => .ended w s (.error f)

/-- So many stages of a session from its beginning. -/
def session (c : Plan) (n : Nat) : Play η (Except Failure Stage) :=
  script.perform c n (.opening none 0) (State.initial c.scope) {}

/-! ## As runs -/

/-- Surroundings that follow the script. -/
def surroundings : Around η Playing where
  moves _ _ := False
  answers w _ q a w' := script.answer w q = some (a, w')

/-- There is an answer to everything, unless nothing more arrives. -/
theorem answer_eq_none {w : Playing} {q : Request η} (h : script.answer w q = none) :
    q = .nextSignal := by
  cases q with
  | nextSignal => rfl
  | _ => cases h

/-- Where a process gets to by itself, it gets to among surroundings that follow the script. -/
theorem play_runs (c : Plan) (p : Phase η) (w : Playing) :
    ∃ p', (script.play p w).At p' ∧
      Runs c script.surroundings (w, p) ((script.play p w).world, p') := by
  induction p generalizing w with
  | done s r => exact ⟨_, rfl, .refl⟩
  | ask s q resume ih =>
    rw [play]
    cases ha : script.answer w q with
    | none =>
      obtain rfl := script.answer_eq_none ha
      exact ⟨_, ⟨s, resume, rfl⟩, .refl⟩
    | some answer =>
      obtain ⟨p', here, run⟩ := ih answer.1 answer.2
      exact ⟨p', here, .head (.answer answer.1 ha) run⟩

/-- **What is performed is a run** among surroundings that follow the script. -/
theorem perform_runs (c : Plan) (n : Nat) (st : Stage) (s : State η) (w : Playing) :
    ∃ p, (script.perform c n st s w).At p ∧
      Runs c script.surroundings (w, .done s (.ok st)) ((script.perform c n st s w).world, p) := by
  induction n generalizing st s w with
  | zero => exact ⟨_, rfl, .refl⟩
  | succ n ih =>
    obtain ⟨p, here, run⟩ := script.play_runs c (stage c st s) w
    have begun : Runs c script.surroundings (w, .done s (.ok st)) _ := .head (.next w s st) run
    rw [perform]
    cases hp : script.play (stage c st s) w with
    | waits w' =>
      rw [hp] at here begun
      exact ⟨p, here, begun⟩
    | ended w' s' r =>
      rw [hp] at here begun
      obtain rfl : p = .done s' r := here
      cases r with
      | error f => exact ⟨_, rfl, begun⟩
      | ok next =>
        obtain ⟨p, here, onward⟩ := ih next s' w'
        exact ⟨p, here, Relation.ReflTransGen.trans begun onward⟩

end Script

end UnitWatch.Session
