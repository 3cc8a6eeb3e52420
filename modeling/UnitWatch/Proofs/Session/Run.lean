import UnitWatch.Proofs.Interference
import UnitWatch.Proofs.Session.Steps

/-!
# Runs of a session

A run interleaves the steps of a session with the moves of the world around it: at every request the
world may move any number of times before it answers. A stage that is done is followed by the next.

**The rule for runs** (`Runs.holds`). If each stage is safe from the worlds in which it can start,
and leaves a world in which the next stage can start, then what the stages promise at their
requests holds at every request of every run.
-/

namespace UnitWatch.Session

/-- The world around sessions with subscriptions `η`. -/
abbrev Around (η ω : Type) : Type := Environment (State η) (Answer (η := η)) ω

/-- A plan to watch every unit. -/
def Plan.everything : Plan := ⟨.system, fun _ => true, 3, ⟨.seconds 1, .seconds 1⟩⟩

/-- The failure of a call. -/
def callFailure (call reason : String) (name : Option String) : Failure :=
  .fault (.bus (.call call reason name))

variable {η ω : Type}

/-- A connection is left with the next stage or a failure, or the session stays. -/
theorem closing_safe {e : Around η ω} {J : ω → State η → Request η → Prop}
    {P : ω → State η → Option Stage → Prop} {E : ω → State η → Failure → Prop}
    {post : ω → State η → Except Failure Stage → Prop} {x : Step η (Option Stage)} {s : State η}
    {w : ω} (h : Safe e J (Safe.Ends P E) (x s) w)
    (stays : ∀ w s, P w s none → Safe e J post (.done s (.ok .listening)) w)
    (leaves : ∀ w s next, P w s (some next) →
      Safe e J post ((do teardown; return next : Step η Stage) s) w)
    (fails : ∀ w s f, E w s f →
      Safe e J post ((do teardown; Action.fail f : Step η Stage) s) w) :
    Safe e J post (closing x s) w := by
  refine Safe.of_eq (closing_eq x s) (h.bind ?_)
  intro w s r hr
  match r, hr with
  | .ok none, hr => exact stays w s hr
  | .ok (some next), hr => exact leaves w s next hr
  | .error f, hr => exact fails w s f hr

/-- One step of a session and the world around it. -/
inductive Advances (c : Plan) (e : Around η ω) : ω × Phase η → ω × Phase η → Prop
  | move {w w' : ω} (p : Phase η) (h : e.moves w w') : Advances c e (w, p) (w', p)
  | answer {w w' : ω} {s : State η} {q : Request η}
      {resume : Answer q → Phase η} (a : Answer q) (h : e.answers w s q a w') :
      Advances c e (w, .ask s q resume) (w', resume a)
  | next (w : ω) (s : State η) (st : Stage) :
      Advances c e (w, .done s (.ok st)) (w, stage c st s)

/-- Any number of steps. -/
def Runs (c : Plan) (e : Around η ω) : ω × Phase η → ω × Phase η → Prop :=
  Relation.ReflTransGen (Advances c e)

/-- What a stage ends with: a next stage that can start, or a failure of which `F` holds. -/
def Hands (I : Stage → ω → State η → Prop) (F : ω → State η → Failure → Prop) (w : ω)
    (s : State η) : Except Failure Stage → Prop
  | .ok st => I st w s
  | .error f => F w s f

variable {c : Plan} {e : Around η ω} {J : ω → State η → Request η → Prop}
  {I : Stage → ω → State η → Prop} {F : ω → State η → Failure → Prop}

namespace Advances

theorem safe (stages : ∀ st w s, I st w s → Safe e J (Hands I F) (stage c st s) w)
    {x y : ω × Phase η} (step : Advances c e x y) (h : Safe e J (Hands I F) x.2 x.1) :
    Safe e J (Hands I F) y.2 y.1 := by
  cases step with
  | move p hm => exact h.move hm
  | answer a ha => exact (h _ .refl).2 a _ ha
  | next w s st => exact stages st w s (h w .refl)

end Advances

namespace Runs

theorem safe (stages : ∀ st w s, I st w s → Safe e J (Hands I F) (stage c st s) w)
    {x y : ω × Phase η} (run : Runs c e x y) (h : Safe e J (Hands I F) x.2 x.1) :
    Safe e J (Hands I F) y.2 y.1 := by
  induction run with
  | refl => exact h
  | tail _ step ih => exact step.safe stages ih

/-- **The rule for runs.** What stages promise at their requests holds at every request. -/
theorem holds (stages : ∀ st w s, I st w s → Safe e J (Hands I F) (stage c st s) w)
    {w₀ w : ω} {s₀ s : State η} {st : Stage} {q : Request η} {resume : Answer q → Phase η}
    (run : Runs c e (w₀, stage c st s₀) (w, .ask s q resume)) (h : I st w₀ s₀) : J w s q :=
  (run.safe stages (stages st w₀ s₀ h) w .refl).1

/-- A run that has ended has failed in a way that the stages allow. -/
theorem outcome (stages : ∀ st w s, I st w s → Safe e J (Hands I F) (stage c st s) w)
    {w₀ w : ω} {s₀ : State η} {st : Stage} {p : Phase η} {f : Failure}
    (run : Runs c e (w₀, stage c st s₀) (w, p)) (h : I st w₀ s₀) (hp : p.outcome? = some f) :
    F w p.state f := by
  have safe := run.safe stages (stages st w₀ s₀ h)
  match p, hp with
  | .done s (.error _), rfl => exact safe w .refl

end Runs

end UnitWatch.Session
