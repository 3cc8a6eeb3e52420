import UnitWatch.Proofs.Session.Run
import UnitWatch.Wire.Manager

/-!
# Sessions over a bus

The connections of a session are `Wire.Manager`s, which carry out its requests by calls of a
message-bus library. Around both of them is the bus.

**Operations** (`Carries`). A request is carried out call by call, and the bus goes on before each
call and after the last one. What an operation ends with is what it is safe to end with
(`Safe.of_carries`).

**Arrivals.** What the bus hands over joins the arrivals of the connection between two operations.
No operation looks at arrivals, so this is as if it joined them while an operation is under way.
-/

namespace UnitWatch

/-- A process is carried out among others, from one world to another. -/
inductive Carries {σ Q ω α : Type} {A : Q → Type} (e : Environment σ A ω) :
    Process σ A α → ω → ω → σ → α → Prop
  | done (s : σ) (r : α) (w : ω) : Carries e (.done s r) w w s r
  | move {p : Process σ A α} {w w' w'' : ω} {s : σ} {r : α} (h : e.moves w w')
      (rest : Carries e p w' w'' s r) : Carries e p w w'' s r
  | answer {s s' : σ} {q : Q} {resume : A q → Process σ A α} {w w' w'' : ω} {r : α} (a : A q)
      (h : e.answers w s q a w') (rest : Carries e (resume a) w' w'' s' r) :
      Carries e (.ask s q resume) w w'' s' r

theorem Safe.of_carries {σ Q ω α : Type} {A : Q → Type} {e : Environment σ A ω}
    {J : ω → σ → Q → Prop} {post : ω → σ → α → Prop} {p : Process σ A α} {w w' : ω} {s : σ} {r : α}
    (run : Carries e p w w' s r) (h : Safe e J post p w) : post w' s r := by
  induction run with
  | done s r w => exact h w .refl
  | move step _ ih => exact ih (h.move step)
  | answer a ha _ ih => exact ih ((h _ .refl).2 a _ ha)

namespace Session.Runs

variable {η ω : Type} {c : Plan} {e : Around η ω} {goal : ω × Phase η → Prop} {w w' : ω}

/-- Some run leads to a goal if one does after an answer. -/
theorem exists_answer {s : State η} {q : Request η} {resume : Answer q → Phase η} (a : Answer q)
    (h : e.answers w s q a w') (rest : ∃ y, Runs c e (w', resume a) y ∧ goal y) :
    ∃ y, Runs c e (w, .ask s q resume) y ∧ goal y := by
  obtain ⟨y, run, hy⟩ := rest
  exact ⟨y, .head (.answer a h) run, hy⟩

theorem exists_next {s : State η} {st : Stage} (rest : ∃ y, Runs c e (w, stage c st s) y ∧ goal y) :
    ∃ y, Runs c e (w, .done s (.ok st)) y ∧ goal y := by
  obtain ⟨y, run, hy⟩ := rest
  exact ⟨y, .head (.next w s st) run, hy⟩

theorem exists_move {p : Phase η} (h : e.moves w w') (rest : ∃ y, Runs c e (w', p) y ∧ goal y) :
    ∃ y, Runs c e (w, p) y ∧ goal y := by
  obtain ⟨y, run, hy⟩ := rest
  exact ⟨y, .head (.move p h) run, hy⟩

end Session.Runs

namespace Wire

open Session (Signal Around)

/-- The failure of a call that the bus reports. -/
def IsCallFailure (f : Failure) : Prop :=
  ∃ call reason name, f = Session.callFailure call reason name

/-- A bus behind the library of a connection. -/
structure Bus (ω : Type) where
  library : Environment Manager Answer ω
  /-- How a signal is handed over to the connection. -/
  signals : ω → Signal → ω → Prop
  /-- How the connection is lost. -/
  loses : ω → ω → Prop

/-- A new connection to the same bus. -/
def Manager.renew (m : Manager) : Manager := { scope := m.scope, timeout := m.timeout }

namespace Manager

/-! ## The first connection to the system bus -/

def unconnected : Manager := { scope := .system, timeout := .seconds 1 }

def connected : Manager := { unconnected with bus := some 1 }

/-- The manager tells the connection of new and removed units. -/
def attached : Manager := { connected with unitMatches := [1, 2] }

end Manager

/-- A connection and the bus behind it. -/
structure Linked (ω : Type) where
  manager : Manager
  bus : ω

namespace Linked

variable {ω : Type}

/-- What may happen while a session waits. -/
inductive Moves (b : Bus ω) : Linked ω → Linked ω → Prop
  | bus {w w' : ω} (m : Manager) (h : b.library.moves w w') : Moves b ⟨m, w⟩ ⟨m, w'⟩
  | signalled {w w' : ω} {signal : Signal} (m : Manager) (h : b.signals w signal w') :
      Moves b ⟨m, w⟩ ⟨m.receive signal, w'⟩
  | lost {w w' : ω} (m : Manager) (h : b.loses w w') : Moves b ⟨m, w⟩ ⟨m.lose, w'⟩

/-- What a session's requests are answered. What is not for the connection is granted. -/
inductive Answers (b : Bus ω) : Linked ω → Session.State (Option MatchId) →
    (q : Session.Request (Option MatchId)) → Session.Answer q → Linked ω → Prop
  | opened (s : Session.State (Option MatchId)) (m : Manager) (w : ω) :
      Answers b ⟨m, w⟩ s .open (.ok () : Except Failure Unit) ⟨m.renew, w⟩
  | served (s : Session.State (Option MatchId)) {q : Session.Request (Option MatchId)}
      {p : Process Manager Answer (Session.Answer q)} {m m' : Manager} {w w' : ω}
      {a : Session.Answer q} (serves : m.serve q = some p) (run : Carries b.library p w w' m' a) :
      Answers b ⟨m, w⟩ s q a ⟨m', w'⟩
  | taken (s : Session.State (Option MatchId)) (event : Transition) (x : Linked ω) :
      Answers b x s (.emit event) (.ok () : Except Failure Unit) x
  | slept (s : Session.State (Option MatchId)) (delay : Span) (x : Linked ω) :
      Answers b x s (.sleep delay) (.ok () : Except Failure Unit) x
  | time (s : Session.State (Option MatchId)) (now : Microseconds) (x : Linked ω) :
      Answers b x s .clock now x
  | noted (s : Session.State (Option MatchId)) (n : Session.Notice) (x : Linked ω) :
      Answers b x s (.note n) () x

/-- What is around a session whose connections are made to a bus. -/
def around (b : Bus ω) : Around (Option MatchId) (Linked ω) := ⟨Moves b, Answers b⟩

end Linked

end Wire

end UnitWatch
