import Mathlib.Logic.Function.Basic
import UnitWatch.Proofs.Session.Run

/-!
# A service manager behind one connection

The other end of a session's connection: a service manager that loads and unloads units and moves
them from state to state whenever it likes, and that tells the connection what it has been asked to
tell.

**What it keeps** (`ServiceManager`). For each loaded unit the states of its lifetime, the current
one first; the subscriptions that are live; and the signals that are queued at the connection.

**What it tells.** From `subscribeManager` on, every load and unload is queued in order. A change
of a unit is queued when there is a live subscription to the unit, whichever lifetime of the unit
that subscription was made in. States of the five carry a timestamp that grows within a lifetime;
other states carry none.

**What it answers.** Requests about one unit fail exactly when the unit is not loaded; all other
requests of the connection succeed.
-/

namespace UnitWatch.Session

open Function (update)

/-- Whether a raw state carries a timestamp exactly if its word is one of the five. -/
def IsStamped (x : RawState) : Prop := x.monotonic.isSome = x.report?.isSome

instance (x : RawState) : Decidable (IsStamped x) := inferInstanceAs (Decidable (_ = _))

/-- `x` is a later state than `y`, as far as timestamps tell. -/
def IsNewer (x y : RawState) : Prop :=
  ∀ t t', x.monotonic = some t → y.monotonic = some t' → t' < t

/-- A state that a unit has entered in its current lifetime. -/
structure Stay where
  state : RawState
  /-- Whether the change to this state was queued at the connection. -/
  signalled : Bool

/-- The states that a unit can have entered since it was loaded, the last one first: they are of the
unit, those of the five carry a timestamp and the others do not, and timestamps grow. -/
structure Lifetime (u : String) (past : List Stay) : Prop where
  named : ∀ y ∈ past, y.state.unit = u
  stamped : ∀ y ∈ past, IsStamped y.state
  increasing : past.Pairwise fun x y => IsNewer x.state y.state

namespace Lifetime

theorem nil (u : String) : Lifetime u [] := ⟨by simp, by simp, .nil⟩

theorem cons {x : RawState} {past : List Stay} (h : Lifetime x.unit past) (stamped : IsStamped x)
    (newer : ∀ y ∈ past, IsNewer x y.state) (signalled : Bool) :
    Lifetime x.unit (⟨x, signalled⟩ :: past) where
  named := List.forall_mem_cons.2 ⟨rfl, h.named⟩
  stamped := List.forall_mem_cons.2 ⟨stamped, h.stamped⟩
  increasing := List.pairwise_cons.2 ⟨newer, h.increasing⟩

end Lifetime

structure ServiceManager (η : Type) where
  /-- The states of a loaded unit since it was loaded, the current one first; nothing for a unit
  that is not loaded. -/
  history : String → List Stay
  /-- Whether the connection has asked for loads and unloads. -/
  announces : Bool
  /-- The units of the live subscriptions. -/
  live : η → Option String
  queue : List Signal

namespace ServiceManager

variable {η : Type}

/-- The queue after a load or an unload. -/
def announce (m : ServiceManager η) (s : Signal) : List Signal :=
  if m.announces then m.queue ++ [s] else m.queue

/-! ## What happens by itself -/

inductive Moves : ServiceManager η → ServiceManager η → Prop
  | load (m : ServiceManager η) (x : RawState) (absent : m.history x.unit = [])
      (stamped : IsStamped x) :
      Moves m { m with
        history := update m.history x.unit [⟨x, false⟩], queue := m.announce (.added x.unit) }
  | unload (m : ServiceManager η) (u : String) (loaded : m.history u ≠ []) :
      Moves m { m with history := update m.history u [], queue := m.announce (.removed u) }
  | changeHeard (m : ServiceManager η) (x : RawState) (loaded : m.history x.unit ≠ [])
      (stamped : IsStamped x) (newer : ∀ y ∈ m.history x.unit, IsNewer x y.state)
      (heard : ∃ h, m.live h = some x.unit) :
      Moves m { m with
        history := update m.history x.unit (⟨x, true⟩ :: m.history x.unit)
        queue := m.queue ++ [.changed x] }
  | changeUnheard (m : ServiceManager η) (x : RawState) (loaded : m.history x.unit ≠ [])
      (stamped : IsStamped x) (newer : ∀ y ∈ m.history x.unit, IsNewer x y.state)
      (unheard : ∀ h, m.live h ≠ some x.unit) :
      Moves m { m with history := update m.history x.unit (⟨x, false⟩ :: m.history x.unit) }
  /-- Something that the session does not know is signalled. -/
  | other (m : ServiceManager η) (kind : String) (announces : m.announces = true) :
      Moves m { m with queue := m.queue ++ [.other kind] }

/-! ## Histories -/

/-- Every history is the history of a lifetime. -/
def Sound (m : ServiceManager η) : Prop := ∀ u, Lifetime u (m.history u)

theorem Sound.update {m : ServiceManager η} (h : m.Sound) {u : String} {past : List Stay}
    (lifetime : Lifetime u past) (q : List Signal) :
    Sound { m with history := Function.update m.history u past, queue := q } := by
  intro v
  by_cases hv : v = u
  · subst hv
    simpa using lifetime
  · simpa [Function.update_of_ne hv] using h v

theorem Moves.sound {m m' : ServiceManager η} (h : Moves m m') (hm : m.Sound) : m'.Sound := by
  cases h with
  | load x absent stamped => exact hm.update (.cons (.nil _) stamped (by simp) false) _
  | unload u loaded => exact hm.update (.nil u) _
  | changeHeard x loaded stamped newer heard =>
    exact hm.update ((hm x.unit).cons stamped newer true) _
  | changeUnheard x loaded stamped newer unheard =>
    exact hm.update ((hm x.unit).cons stamped newer false) _
  | other kind announces => exact hm

/-! ## What it answers -/

variable [DecidableEq η]

inductive Answers : ServiceManager η → (q : Request η) → Answer q → ServiceManager η → Prop
  | opened (m) : Answers m .open (.ok () : Except Failure Unit) m
  | connected (m) : Answers m .connect (.ok () : Except Failure Unit) m
  | subscribedManager (m) :
      Answers m .subscribeManager (.ok () : Except Failure Unit) { m with announces := true }
  | listed (m) (units : List String) (nodup : units.Nodup)
      (loaded : ∀ u, u ∈ units ↔ m.history u ≠ []) :
      Answers m .listUnits (.ok units : Except Failure (List String)) m
  | subscribed (m) (u : String) (h : η) (loaded : m.history u ≠ []) (unused : m.live h = none) :
      Answers m (.subscribe u) (.ok h : Except Failure η)
        { m with live := update m.live h (some u) }
  | notSubscribed (m) (u call reason : String) (name : Option String) (absent : m.history u = []) :
      Answers m (.subscribe u) (.error (callFailure call reason name) : Except Failure η) m
  | fetched (m) (u : String) (x : Stay) (past : List Stay) (loaded : m.history u = x :: past) :
      Answers m (.fetch u) (.ok x.state : Except Failure RawState) m
  | notFetched (m) (u call reason : String) (name : Option String) (absent : m.history u = []) :
      Answers m (.fetch u) (.error (callFailure call reason name) : Except Failure RawState) m
  | unsubscribed (m) (h : η) :
      Answers m (.unsubscribe h) (.ok () : Except Failure Unit)
        { m with live := update m.live h none }
  | signalled (m) (s : Signal) (rest : List Signal) (first : m.queue = s :: rest) :
      Answers m .nextSignal (.ok s : Except Failure Signal) { m with queue := rest }
  | taken (m) (t : Transition) : Answers m (.emit t) (.ok () : Except Failure Unit) m
  | time (m) (now : Microseconds) : Answers m .clock now m
  | noted (m) (n : Notice) : Answers m (.note n) () m

/-! ## Around a session -/

/-- The manager as the surroundings of a session. -/
def around : Around η (ServiceManager η) where
  moves := Moves
  answers m _ q a m' := Answers m q a m'

end ServiceManager

end UnitWatch.Session
