import UnitWatch.Proofs.Session.Resync

/-!
# Sessions on one connection

A session that is never refused anything it cannot do without stays on its connection: a stage opens
it, and all stages after that listen. What such a session keeps has to be proved for its parts: for
`start`, for the events after `start`, and for `listenOnce`.
-/

namespace UnitWatch.Session

open Safe (Succeeds)

variable {η ω : Type} {c : Plan} {e : Around η ω} {J : ω → State η → Request η → Prop}
  {ready begun going : ω → State η → Prop}

/-- What the parts of a session keep: `ready` until the connection starts, `begun` until the first
signal is waited for, and `going` from then on. -/
structure Unbroken (c : Plan) (e : Around η ω) (J : ω → State η → Request η → Prop)
    (ready begun going : ω → State η → Prop) : Prop where
  stable : ∀ s, e.Stable (begun · s)
  stays : ∀ s, e.Stable (going · s)
  goes : ∀ w s, begun w s → going w s
  opens : ∀ w s, ready w s → Safe e J (Succeeds fun w s' _ => ready w s') (demand (ask .open) s) w
  starts : ∀ w s, ready w s → Safe e J (Succeeds fun w s' _ => begun w s') (start c s) w
  looks : ∀ w s, begun w s → Safe e J (Succeeds fun w s' _ => s' = s ∧ begun w s) (ask .clock s) w
  emits : ∀ w s t, begun w s →
    Safe e J (Succeeds fun w s' _ => s' = s ∧ begun w s) (demand (ask (.emit t)) s) w
  notes : ∀ w s n, begun w s → Safe e J (Succeeds fun w s' _ => s' = s ∧ begun w s) (note n s) w
  listens : ∀ w s, going w s → Safe e J (Succeeds fun w s' _ => going w s') (listenOnce c s) w

namespace Unbroken

variable {w : ω} {s : State η}

/-- One event after the other. -/
theorem emitAll (h : Unbroken c e J ready begun going) (ts : List Transition) (hw : begun w s) :
    Safe e J (Succeeds fun w s' _ => s' = s ∧ begun w s)
      (Action.each (fun t => demand (ask (.emit t))) ts s) w := by
  refine Safe.eachSucceeds (I := fun _ w s' => s' = s ∧ begun w s) ?_ ?_ ts ⟨rfl, hw⟩
  · intro t _ w s' hs
    obtain ⟨rfl, hw⟩ := hs
    exact h.emits w s' t hw
  · intro w s' hs
    exact Safe.done (h.stable s) hs.2 fun w hw => ⟨hs.1, hw⟩

theorem openConnection (h : Unbroken c e J ready begun going) (snapshot : Option Snapshot)
    (attempt : Nat) (hw : ready w s) :
    Safe e J (Succeeds fun w s' next => next = none ∧ begun w s')
      (openConnection c snapshot attempt s) w := by
  refine (h.starts w s hw).attempt.seq ?_
  intro w s r hr
  cases r with
  | error _ => exact hr.elim
  | ok _ =>
    cases snapshot with
    | none => exact Safe.done (h.stable s) hr fun w hw => ⟨rfl, hw⟩
    | some snapshot =>
      show Safe e J _ ((resync s.registry snapshot >>= _) s) w
      refine Safe.seq (resync_safe (h.stable s) (h.looks · s) s.registry snapshot hr) ?_
      intro w s ts hs
      obtain ⟨rfl, hw, -⟩ := hs
      refine Safe.seq (h.emitAll ts hw) ?_
      intro w s _ hs
      obtain ⟨rfl, hw⟩ := hs
      refine Safe.seq (h.notes w s _ hw) ?_
      intro w s _ hs
      obtain ⟨rfl, hw⟩ := hs
      exact Safe.done (h.stable s) hw fun w hw => ⟨rfl, hw⟩

theorem listen (h : Unbroken c e J ready begun going) (hw : going w s) :
    Safe e J (Succeeds fun w s' next => next = none ∧ going w s') (listen c s) w := by
  refine (h.listens w s hw).attempt.seq ?_
  intro w s r hr
  cases r with
  | error _ => exact hr.elim
  | ok _ => exact Safe.done (h.stays s) hr fun w hw => ⟨rfl, hw⟩

/-- Where a stage can start. -/
def Ready (ready going : ω → State η → Prop) : Stage → ω → State η → Prop
  | .opening _ _ => ready
  | .listening => going

/-- **One connection.** Every stage ends with the session listening. -/
theorem stage (h : Unbroken c e J ready begun going) (st : Stage) (w : ω) (s : State η)
    (hw : Ready ready going st w s) :
    Safe e J (Hands (Ready ready going) fun _ _ _ => False) (stage c st s) w := by
  cases st with
  | opening snapshot attempt =>
    refine Safe.seq (h.opens w s hw) ?_
    intro w s _ hw
    refine Safe.seq (h.openConnection snapshot attempt hw).unfailing ?_
    intro w s next hs
    obtain ⟨rfl, hw⟩ := hs
    exact Safe.done (h.stable s) hw fun w hw => h.goes w s hw
  | listening =>
    refine Safe.seq (h.listen hw).unfailing ?_
    intro w s next hs
    obtain ⟨rfl, hw⟩ := hs
    exact Safe.done (h.stays s) hw fun w hw => hw

end Unbroken

end UnitWatch.Session
