import UnitWatch.Failure

/-!
# Processes

A **process** is a computation that keeps a state and asks its surroundings. It is either done, with
a last state and a result, or it waits at a request: its state there can be observed, and it goes on
with any answer. Who answers, when, and what happens between two requests is not its business.

**Actions** are how processes are written. An action runs from a state, and ends with a value or with
a failure; either way the state survives. A failure ends the actions after it, up to the place where
it is caught (`Action.attempt`, `Action.onFailure`).
-/

namespace UnitWatch

/-- A computation with states `σ` that asks requests `q` and goes on with answers in `A q`. -/
inductive Process (σ : Type) {Q : Type} (A : Q → Type) (α : Type) where
  | done (state : σ) (result : α)
  | ask (state : σ) (q : Q) (resume : A q → Process σ A α)

namespace Process

variable {σ Q : Type} {A : Q → Type} {α β γ : Type}

/-- The state at the end or at the request. -/
def state : Process σ A α → σ
  | done s _ => s
  | ask s _ _ => s

/-- Goes on with a second process from where the first is done. -/
def bind (p : Process σ A α) (next : σ → α → Process σ A β) : Process σ A β :=
  match p with
  | done s a => next s a
  | ask s q resume => ask s q fun answer => (resume answer).bind next

@[simp] theorem done_bind (s : σ) (a : α) (next : σ → α → Process σ A β) :
    (done s a).bind next = next s a := rfl

@[simp] theorem ask_bind (s : σ) (q : Q) (resume : A q → Process σ A α)
    (next : σ → α → Process σ A β) :
    (ask s q resume).bind next = ask s q fun answer => (resume answer).bind next := rfl

theorem bind_assoc (p : Process σ A α) (f : σ → α → Process σ A β) (g : σ → β → Process σ A γ) :
    (p.bind f).bind g = p.bind fun s a => (f s a).bind g := by
  induction p with
  | done s a => rfl
  | ask s q resume ih => simp only [ask_bind, ih]

end Process

/-- A step of a process: from a state to a value or a failure. -/
def Action (σ : Type) {Q : Type} (A : Q → Type) (α : Type) : Type :=
  σ → Process σ A (Except Failure α)

namespace Action

variable {σ Q : Type} {A : Q → Type} {α β γ : Type}

protected def pure (a : α) : Action σ A α := fun s => .done s (.ok a)

protected def bind (x : Action σ A α) (f : α → Action σ A β) : Action σ A β := fun s =>
  (x s).bind fun s r =>
    match r with
    | .ok a => f a s
    | .error e => .done s (.error e)

instance : Monad (Action σ A) where
  pure := Action.pure
  bind := Action.bind

protected theorem bind_assoc (x : Action σ A α) (f : α → Action σ A β) (g : β → Action σ A γ) :
    x >>= f >>= g = x >>= fun a => f a >>= g := by
  funext s
  refine (Process.bind_assoc (x s) _ _).trans (congrArg (x s).bind ?_)
  funext s r
  cases r <;> rfl

/-- Ends with a failure. -/
def fail (e : Failure) : Action σ A α := fun s => .done s (.error e)

/-- Asks a request; the answer is the value, whatever it says. -/
def ask (q : Q) : Action σ A (A q) := fun s => .ask s q fun answer => .done s (.ok answer)

/-- Ends as a recorded outcome did. -/
def ofExcept : Except Failure α → Action σ A α
  | .ok a => Action.pure a
  | .error e => fail e

/-- The current state. -/
def get : Action σ A σ := fun s => .done s (.ok s)

/-- Changes the state. -/
def modify (f : σ → σ) : Action σ A Unit := fun s => .done (f s) (.ok ())

/-- Runs an action and records how it ends. -/
def attempt (x : Action σ A α) : Action σ A (Except Failure α) := fun s =>
  (x s).bind fun s r => .done s (.ok r)

/-- Runs an action; if it fails, runs another one before the failure goes on. A failure of the other
one goes on instead. -/
def onFailure (x : Action σ A α) (cleanup : Action σ A Unit) : Action σ A α := do
  match ← attempt x with
  | .ok a => return a
  | .error e => do
      cleanup
      fail e

/-- One action for each item of a list, in order. -/
def each {ι : Type} (f : ι → Action σ A Unit) : List ι → Action σ A Unit
  | [] => Action.pure ()
  | i :: rest => do
      f i
      each f rest

/-- The values of one action for each item of a list, in order. -/
def collect {ι : Type} (f : ι → Action σ A α) : List ι → Action σ A (List α)
  | [] => Action.pure []
  | i :: rest => do
      let a ← f i
      let as ← collect f rest
      return a :: as

end Action

end UnitWatch
