import UnitWatch.Proofs.Session.Resync
import UnitWatch.Proofs.Session.Run

/-!
# A journal of connections

What happens to a session over all its connections, written down from outside: what arrives, what
the session is told, and what it yields. The surroundings answer what they like; only that the
connection is lost is said in one way, by `nextSignal`, after everything that arrived before the
loss.

Marks and legs are listed with the newest first.
-/

namespace UnitWatch.Session

/-- A failure that says that the connection is lost. -/
def IsLoss (f : Failure) : Prop := ∃ scope, f = .fault (.bus (.disconnected scope))

/-- What a session is told after its units have been discovered, and what it yields. -/
inductive Mark (η : Type) where
  /-- The connection has been started, with this registry. -/
  | discovered (registry : Registry η)
  | heard (signal : Signal)
  /-- The unit that was just said to be removed was tracked. -/
  | evicted (unit : String)
  | subscribed (unit : String) (subscription : η)
  | fetched (unit : String) (state : RawState)
  /-- The state of the unit could not be fetched, since it is none of the five. -/
  | unrecognized (unit : String)
  | yielded (event : Transition)

/-- The signal that a mark is of. -/
def Mark.heard? {η : Type} : Mark η → Option Signal
  | .heard s => some s
  | _ => none

/-- What happens on one connection. -/
structure Leg (η : Type) where
  arrived : List Arrival := []
  /-- How much of it the session has taken. -/
  taken : Nat := 0
  /-- What the session has discovered, if it has come so far. -/
  discovered : Option (Registry η) := none
  /-- The events between discovery and the first signal, in order. -/
  resynced : List Transition := []
  /-- What has happened since the first signal. -/
  log : List (Mark η) := []
  /-- What the session knew when the connection was lost. -/
  lost : Option Snapshot := none

structure Journal (η : Type) where
  current : Leg η
  past : List (Leg η)

namespace Leg

variable {η : Type}

/-- Everything that has happened since the discovery. -/
def marks (l : Leg η) : List (Mark η) :=
  l.log ++ l.resynced.reverse.map .yielded ++ l.discovered.toList.map .discovered

/-- The signals that the session has taken, in order. -/
def heard (l : Leg η) : List Signal :=
  l.log.reverse.filterMap Mark.heard?

/-- The marks of a signal, given the registry that it reaches. -/
def marksOf (registry : Registry η) (s : Signal) : List (Mark η) :=
  match s with
  | .removed u => if registry.contains u then [.evicted u, .heard s] else [.heard s]
  | _ => [.heard s]

def hear (l : Leg η) (registry : Registry η) (s : Signal) : Leg η :=
  { l with taken := l.taken + 1, log := marksOf registry s ++ l.log }

def lose (l : Leg η) (registry : Registry η) : Leg η :=
  { l with taken := l.taken + 1, lost := some registry.states }

def write (l : Leg η) (m : Mark η) : Leg η := { l with log := m :: l.log }

/-- Notes what the session is told. What it is told before its units are discovered is in what it
discovers. -/
def remember (l : Leg η) (m : Mark η) : Leg η :=
  match l.discovered with
  | some _ => l.write m
  | none => l

def yield (l : Leg η) (t : Transition) : Leg η :=
  match l.log with
  | [] => { l with resynced := l.resynced ++ [t] }
  | _ :: _ => l.write (.yielded t)

def note (l : Leg η) (registry : Registry η) : Notice → Leg η
  | .started _ _ => { l with discovered := some registry }
  | _ => l

end Leg

namespace Journal

variable {η : Type}

/-- The connections, the current one first. -/
def legs (w : Journal η) : List (Leg η) := w.current :: w.past

/-- Everything that has happened, the last thing first. -/
def history (w : Journal η) : List (Mark η) := w.legs.flatMap Leg.marks

/-! ## Around a session -/

/-- Something arrives at the current connection. -/
inductive Moves : Journal η → Journal η → Prop
  | arrive (w : Journal η) (a : Arrival) :
      Moves w { w with current := { w.current with arrived := w.current.arrived ++ [a] } }

inductive Answers : Journal η → State η → (q : Request η) → Answer q → Journal η → Prop
  | opened (w s) : Answers w s .open (.ok () : Except Failure Unit) ⟨{}, w.legs⟩
  | notOpened (w s) (f : Failure) : Answers w s .open (.error f : Except Failure Unit) w
  | connected (w s) (r : Except Failure Unit) : Answers w s .connect r w
  | subscribedManager (w s) (r : Except Failure Unit) : Answers w s .subscribeManager r w
  | listed (w s) (r : Except Failure (List String)) : Answers w s .listUnits r w
  | subscribed (w s) (u : String) (h : η) :
      Answers w s (.subscribe u) (.ok h : Except Failure η)
        { w with current := w.current.remember (.subscribed u h) }
  | notSubscribed (w s) (u : String) (f : Failure) (noLoss : ¬IsLoss f) :
      Answers w s (.subscribe u) (.error f : Except Failure η) w
  | fetched (w s) (u : String) (x : RawState) (unit : x.unit = u) :
      Answers w s (.fetch u) (.ok x : Except Failure RawState)
        { w with current := w.current.remember (.fetched u x) }
  | unrecognized (w s) (u word : String) :
      Answers w s (.fetch u)
        (.error (.fault (.unknownActiveState word)) : Except Failure RawState)
        { w with current := w.current.remember (.unrecognized u) }
  | notFetched (w s) (u : String) (f : Failure) (noLoss : ¬IsLoss f)
      (other : ∀ word, f ≠ .fault (.unknownActiveState word)) :
      Answers w s (.fetch u) (.error f : Except Failure RawState) w
  | unsubscribed (w s) (h : η) (r : Except Failure Unit) : Answers w s (.unsubscribe h) r w
  | signalled (w) (s : State η) (signal : Signal)
      (next : w.current.arrived[w.current.taken]? = some (.signal signal)) :
      Answers w s .nextSignal (.ok signal : Except Failure Signal)
        { w with current := w.current.hear s.registry signal }
  | lost (w) (s : State η) (scope : String)
      (next : w.current.arrived[w.current.taken]? = some .loss) :
      Answers w s .nextSignal
        (.error (.fault (.bus (.disconnected scope))) : Except Failure Signal)
        { w with current := w.current.lose s.registry }
  | interrupted (w s) (f : Failure) (noLoss : ¬IsLoss f) :
      Answers w s .nextSignal (.error f : Except Failure Signal) w
  | closed (w s) (r : Except Failure Unit) : Answers w s .close r w
  | taken (w s) (t : Transition) :
      Answers w s (.emit t) (.ok () : Except Failure Unit)
        { w with current := w.current.yield t }
  | notTaken (w s) (t : Transition) (f : Failure) (noLoss : ¬IsLoss f) :
      Answers w s (.emit t) (.error f : Except Failure Unit) w
  | slept (w s) (d : Span) (r : Except Failure Unit) : Answers w s (.sleep d) r w
  | time (w s) (now : Microseconds) : Answers w s .clock now w
  | noted (w) (s : State η) (n : Notice) :
      Answers w s (.note n) () { w with current := w.current.note s.registry n }

/-- Anything at all, as the surroundings of a session. -/
def around : Around η (Journal η) where
  moves := Moves
  answers := Answers

/-! ## Chains of events -/

/-- The state that the next event about a unit has to start from, if that is settled: the state that
the last event led to, unless the unit was evicted since, or was not settled when it was discovered
again. -/
def expected (u : String) : List (Mark η) → Option ActiveState
  | [] => none
  | .yielded t :: h => if t.unit.name = u then some t.current else expected u h
  | .evicted v :: h => if v = u then none else expected u h
  | .discovered r :: h => if (r.stateOf u).isSome then expected u h else none
  | _ :: h => expected u h

/-- Every event leads from one state to another, and from where the one before led to. -/
def Chained : List (Mark η) → Prop
  | [] => True
  | .yielded t :: h =>
    t.previous ≠ t.current ∧ (∀ x, expected t.unit.name h = some x → t.previous = x) ∧ Chained h
  | _ :: h => Chained h

theorem expected_between {u : String} {between older : List (Mark η)} {x : ActiveState}
    (h : expected u older = some x) (silent : ∀ t, .yielded t ∈ between → t.unit.name ≠ u)
    (stays : .evicted u ∉ between)
    (settled : ∀ r, .discovered r ∈ between → (r.stateOf u).isSome = true) :
    expected u (between ++ older) = some x := by
  induction between with
  | nil => exact h
  | cons m between ih =>
    have rest := ih (fun t ht => silent t (List.mem_cons_of_mem _ ht))
      (fun hm => stays (List.mem_cons_of_mem _ hm))
      fun r hr => settled r (List.mem_cons_of_mem _ hr)
    cases m with
    | yielded t => simpa [expected, silent t List.mem_cons_self] using rest
    | evicted v =>
      have hv : v ≠ u := by
        rintro rfl
        exact stays List.mem_cons_self
      simpa [expected, hv] using rest
    | discovered r => simpa [expected, settled r List.mem_cons_self] using rest
    | heard _ | subscribed _ _ | fetched _ _ | unrecognized _ => exact rest

/-! ## What is recorded -/

/-- What a signal makes of a registry, and the event that it brings. -/
def react (r : Registry η) (now : Microseconds) : Signal → Registry η × Option Transition
  | .changed x =>
    match x.report? with
    | some report => r.apply report now
    | none => (r, none)
  | .removed u => (r.evict u, none)
  | _ => (r, none)

/-- The registry after all that a session has been told since it discovered a registry. -/
def replay (r : Registry η) : List (Mark η) → Registry η
  | [] => r
  | .heard signal :: h => (react (replay r h) 0 signal).1
  | .fetched u x :: .subscribed _ k :: h => (replay r h).enroll u k x
  | .unrecognized u :: .subscribed _ k :: h => (replay r h).insertPending u k
  | _ :: h => replay r h

/-- What was known when a connection was last lost. -/
def lastLost : List (Leg η) → Option Snapshot
  | [] => none
  | l :: older => l.lost.or (lastLost older)

/-- The events that a discovery calls for: none on the first connection, and later the differences
from what was known before. -/
def CalledFor (basis : Option Snapshot) (r : Registry η) (ts : List Transition) : Prop :=
  match basis with
  | none => ts = []
  | some snapshot => IsResync r snapshot ts

/-- The events between discovery and the first signal are those that are called for. -/
def Resynced (basis : Option Snapshot) (l : Leg η) : Prop :=
  ∃ r, l.discovered = some r ∧ r.WellFormed ∧ CalledFor basis r l.resynced

/-- A loss comes after everything that arrived before it: all that has been handled, and what is
known is what came of it. -/
def LostLast (l : Leg η) : Prop :=
  ∀ snapshot, l.lost = some snapshot → ∃ r later, l.discovered = some r ∧
    l.arrived = l.heard.map .signal ++ .loss :: later ∧ snapshot = (replay r l.log).states

/-- On every connection, the events before the first signal are a resync with what was known when
the connection before was lost, and a loss comes last. -/
def Consistent : List (Leg η) → Prop
  | [] => True
  | l :: older =>
    ((l.log ≠ [] ∨ l.lost.isSome = true) → Resynced (lastLost older) l) ∧ LostLast l ∧
      Consistent older

theorem Chained.of_append {newer older : List (Mark η)} (h : Chained (newer ++ older)) :
    Chained older := by
  induction newer with
  | nil => exact h
  | cons m newer ih =>
    cases m with
    | yielded t => exact ih h.2.2
    | _ => exact ih h

theorem Chained.ne {t : Transition} {h : List (Mark η)} (chained : Chained h)
    (ht : .yielded t ∈ h) : t.previous ≠ t.current := by
  obtain ⟨newer, older, rfl⟩ := List.append_of_mem ht
  exact chained.of_append.1

/-- Two events about one unit, with no other one between them. -/
theorem Chained.link {newer between older : List (Mark η)} {t t' : Transition}
    (h : Chained (newer ++ .yielded t' :: (between ++ .yielded t :: older)))
    (same : t'.unit.name = t.unit.name)
    (silent : ∀ x, .yielded x ∈ between → x.unit.name ≠ t.unit.name)
    (stays : .evicted t.unit.name ∉ between)
    (settled : ∀ r, .discovered r ∈ between → (r.stateOf t.unit.name).isSome = true) :
    t'.previous = t.current := by
  have link := h.of_append.2.1
  rw [same] at link
  exact link _ (expected_between (by simp [expected]) silent stays settled)

end Journal

end UnitWatch.Session
