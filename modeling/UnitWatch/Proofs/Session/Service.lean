import Mathlib.Logic.Function.Basic
import UnitWatch.Proofs.Bus.Properties
import UnitWatch.Proofs.Session.Following
import UnitWatch.Proofs.Session.Linked

/-!
# A service manager on a bus

The other end of a connection that is made to a bus: a service manager that loads and unloads units
between any two calls, and signals that to whoever is subscribed at the moment.

**What it tells** (`Service.Moves`). A load or an unload is received if the connection is subscribed
to signals of its kind when it happens, and else is missed. Properties may change to anything. What
was received is handed over later, in order.

**What it answers** (`Service.Answers`). Calls about a unit fail exactly when the unit is not
loaded; no other call fails.

**What it told last.** Whether a load and an unload of a unit were received is kept for the last of
each. A unit whose last unload was received and whose load after that was not has come back between
the two subscriptions (`Service.Reloaded`).
-/

namespace UnitWatch

namespace Wire

open Function (update)
open Session (Signal fate fate_concat)

/-- A service manager on a bus, and what it has told one connection. -/
structure Service where
  loaded : String → Bool
  /-- The subscriptions of the connection. -/
  live : MatchId → Option Interest
  /-- The signals that were received and have not been handed over yet. -/
  inbox : List Signal
  /-- Whether the signal of the last load of a unit was received, and that of the last unload. -/
  loadHeard : String → Bool
  unloadHeard : String → Bool

/-- What a subscription hands over of a signal. -/
def Interest.received (i : Interest) (args : List Value) : List Signal :=
  match i.read args with
  | .ok (some signal) => [signal]
  | _ => []

theorem Interest.received_properties {unit path : String} {args : List Value} {signal : Signal}
    (h : signal ∈ (Interest.properties unit path).received args) (u : String) :
    signal.fateOf u = none := by
  unfold received at h
  split at h
  · next signal' hr =>
    rw [List.mem_singleton] at h
    subst h
    match args, hr with
    | [interface, changed, _], hr =>
      -- Only one branch of the reading yields a signal, and this is a change.
      unfold read readChange at hr
      dsimp only at hr
      split at hr
      · cases hr
      · split at hr
        · split at hr
          · cases hx : UnitProperties.rawState unit ‹_› with
            | ok x =>
              rw [hx] at hr
              cases hr
              rfl
            | error e =>
              rw [hx] at hr
              cases hr
          · cases hr
        · cases hr
        · cases hr
        · cases hr
  · cases h

namespace Service

def Hears (w : Service) (i : Interest) : Prop := ∃ k, w.live k = some i

/-- The object of each unit has its own path. -/
inductive Moves (path : String → String) : Service → Service → Prop
  | load (w : Service) (u : String) (absent : w.loaded u = false) (heard : w.Hears .added) :
      Moves path w { w with
        loaded := update w.loaded u true, loadHeard := update w.loadHeard u true
        inbox := w.inbox ++ Interest.added.received [.text u, .text (path u)] }
  | loadUnheard (w : Service) (u : String) (absent : w.loaded u = false)
      (unheard : ¬w.Hears .added) :
      Moves path w { w with
        loaded := update w.loaded u true, loadHeard := update w.loadHeard u false }
  | unload (w : Service) (u : String) (loaded : w.loaded u = true) (heard : w.Hears .removed) :
      Moves path w { w with
        loaded := update w.loaded u false, unloadHeard := update w.unloadHeard u true
        inbox := w.inbox ++ Interest.removed.received [.text u, .text (path u)] }
  | unloadUnheard (w : Service) (u : String) (loaded : w.loaded u = true)
      (unheard : ¬w.Hears .removed) :
      Moves path w { w with
        loaded := update w.loaded u false, unloadHeard := update w.unloadHeard u false }
  /-- Properties of an object change to anything. -/
  | change (w : Service) {unit object : String} (args : List Value)
      (heard : w.Hears (.properties unit object)) :
      Moves path w { w with
        inbox := w.inbox ++ (Interest.properties unit object).received args }

/-- What the library is answered: calls about a unit fail exactly when it is not loaded, and nothing
else fails. -/
inductive Answers (path : String → String) : Service → (q : Request) → Answer q → Service → Prop
  | installed (w) (p : Component) : Answers path w (.installed p) true w
  | loopRunning (w) (running : Bool) : Answers path w .loopRunning running w
  | loopStarted (w) : Answers path w .startLoop () w
  | opened (w) (scope : BusScope) (bus : BusId) :
      Answers path w (.openBus scope) (.ok bus : Except Error BusId) w
  | outlives (w) (bus : BusId) : Answers path w (.outlive bus) () w
  | reportsLoss (w) (bus : BusId) : Answers path w (.reportLoss bus) () w
  | named (w) (bus : BusId) (name : String) : Answers path w (.uniqueName bus) name w
  | subscribed (w) (bus : BusId) (timeout : Span) :
      Answers path w (.subscribe bus timeout) (.ok () : Except Error Unit) w
  | listed (w) (bus : BusId) (timeout : Span) (units : List String) (nodup : units.Nodup)
      (all : ∀ u, u ∈ units ↔ w.loaded u = true) :
      Answers path w (.listUnits bus timeout) (.ok units : Except Error (List String)) w
  | found (w) (bus : BusId) (u : String) (timeout : Span) (loaded : w.loaded u = true) :
      Answers path w (.findUnit bus u timeout) (.ok (path u) : Except Error String) w
  | notFound (w) (bus : BusId) (u : String) (timeout : Span) (name text : String)
      (absent : w.loaded u = false) :
      Answers path w (.findUnit bus u timeout)
        (.error (.reported name text) : Except Error String) w
  | read (w) (bus : BusId) (u : String) {object : String} (timeout : Span)
      (props : List (String × Value)) (here : path u = object) (loaded : w.loaded u = true)
      (readable : UnitProperties.Readable props) :
      Answers path w (.readProperties bus object timeout)
        (.ok props : Except Error (List (String × Value))) w
  | notRead (w) (bus : BusId) (object : String) (timeout : Span) (name text : String)
      (absent : ∀ u, path u = object → w.loaded u = false) :
      Answers path w (.readProperties bus object timeout)
        (.error (.reported name text) : Except Error (List (String × Value))) w
  | added (w) (bus : BusId) (i : Interest) (k : MatchId) (free : w.live k = none) :
      Answers path w (.addMatch bus i) (.ok k : Except Error MatchId)
        { w with live := update w.live k (some i) }
  | removed (w) (k : MatchId) :
      Answers path w (.removeMatch k) (.ok () : Except Error Unit)
        { w with live := update w.live k none }
  | noted (w) (n : Notice) : Answers path w (.note n) () w

/-- The service manager behind a connection that is not lost. -/
def bus (path : String → String) : Bus Service where
  library := ⟨Moves path, fun w _ q a w' => Answers path w q a w'⟩
  signals w signal w' := ∃ rest, w.inbox = signal :: rest ∧ w' = { w with inbox := rest }
  loses _ _ := False

/-- The last unload of a unit was signalled to the connection, and the load after it was not. -/
def Reloaded (w : Service) (u : String) : Prop := w.unloadHeard u = true ∧ w.loadHeard u = false

/-- A unit is loaded, and did not come back between the two subscriptions. -/
def Known (w : Service) (u : String) : Prop := w.loaded u = true ∧ ¬w.Reloaded u

/-! ## Subscriptions -/

/-- A handle that is not one of the subscriptions to units. -/
def Spares (w : Service) (subscription : Option MatchId) : Prop :=
  ∀ k, subscription = some k → w.live k ≠ some .removed ∧ w.live k ≠ some .added

theorem Hears.resubscribed {w : Service} {i : Interest} (h : w.Hears i) {k : MatchId}
    (other : w.live k ≠ some i) (x : Option Interest) :
    Hears { w with live := update w.live k x } i := by
  obtain ⟨k', hk⟩ := h
  have ne : k' ≠ k := by
    rintro rfl
    exact other hk
  exact ⟨k', (Function.update_of_ne ne x w.live).trans hk⟩

theorem Spares.resubscribed {w : Service} {subscription : Option MatchId}
    (h : w.Spares subscription) (k : MatchId) {x : Option Interest}
    (other : x ≠ some .removed ∧ x ≠ some .added) :
    Spares { w with live := update w.live k x } subscription := by
  intro k' hk
  by_cases same : k' = k
  · subst same
    simpa using other
  · simpa only [Function.update_of_ne same] using h k' hk

/-- Nothing has been subscribed to. -/
structure Fresh (w : Service) : Prop where
  live : ∀ k, w.live k = none
  inbox : w.inbox = []
  loadHeard : ∀ u, w.loadHeard u = false
  unloadHeard : ∀ u, w.unloadHeard u = false

/-! ## What happens to one unit -/

theorem fate_append_of_silent {u : String} {signals : List Signal}
    (silent : ∀ signal ∈ signals, signal.fateOf u = none) (q : List Signal) :
    fate u (q ++ signals) = fate u q := by
  induction signals generalizing q with
  | nil => rw [List.append_nil]
  | cons signal signals ih =>
    rw [List.forall_mem_cons] at silent
    rw [List.append_cons, ih silent.2, fate_concat, silent.1, Option.none_or]

/-- A move as one unit sees it. -/
inductive Fares (u : String) (w w' : Service) : Prop
  | stays (loaded : w'.loaded u = w.loaded u) (loadHeard : w'.loadHeard u = w.loadHeard u)
      (unloadHeard : w'.unloadHeard u = w.unloadHeard u) (fate : fate u w'.inbox = fate u w.inbox)
  | load (loaded : w'.loaded u = true) (heard : w'.loadHeard u = true)
      (fate : fate u w'.inbox = some true)
  | loadUnheard (unheard : ¬w.Hears .added) (absent : w.loaded u = false)
      (loaded : w'.loaded u = true) (missed : w'.loadHeard u = false)
      (unloadHeard : w'.unloadHeard u = w.unloadHeard u) (fate : fate u w'.inbox = fate u w.inbox)
  | unload (loaded : w'.loaded u = false) (heard : w'.unloadHeard u = true)
      (fate : fate u w'.inbox = some false)
  | unloadUnheard (unheard : ¬w.Hears .removed)

theorem Moves.fares {path : String → String} {w w' : Service} (h : Moves path w w') (u : String) :
    Fares u w w' := by
  cases h with
  | load v absent heard =>
    by_cases hv : u = v
    · subst hv
      refine .load (by simp) (by simp) ?_
      simp [Interest.received, Interest.read, fate_concat, Signal.fateOf, Value.display]
    · refine .stays (Function.update_of_ne hv _ _) (Function.update_of_ne hv _ _) rfl ?_
      simp [Interest.received, Interest.read, fate_concat, Signal.fateOf, Value.display, Ne.symm hv]
  | loadUnheard v absent unheard =>
    by_cases hv : u = v
    · subst hv
      exact .loadUnheard unheard absent (by simp) (by simp) rfl rfl
    · exact .stays (Function.update_of_ne hv _ _) (Function.update_of_ne hv _ _) rfl rfl
  | unload v loaded heard =>
    by_cases hv : u = v
    · subst hv
      refine .unload (by simp) (by simp) ?_
      simp [Interest.received, Interest.read, fate_concat, Signal.fateOf, Value.display]
    · refine .stays (Function.update_of_ne hv _ _) rfl (Function.update_of_ne hv _ _) ?_
      simp [Interest.received, Interest.read, fate_concat, Signal.fateOf, Value.display, Ne.symm hv]
  | unloadUnheard v loaded unheard => exact .unloadUnheard unheard
  | change args heard =>
    refine .stays rfl rfl rfl (fate_append_of_silent ?_ w.inbox)
    exact fun signal received => Interest.received_properties received u

theorem Moves.live_eq {path : String → String} {w w' : Service} (h : Moves path w w') :
    w'.live = w.live := by
  cases h <;> rfl

theorem Fresh.moves {path : String → String} {w w' : Service} (h : w.Fresh)
    (step : Moves path w w') : w'.Fresh := by
  have nobody (i : Interest) : ¬w.Hears i := fun ⟨k, hk⟩ => by simp [h.live k] at hk
  have keeps {heard : String → Bool} (none' : ∀ u, heard u = false) (v u : String) :
      update heard v false u = false := by
    by_cases hu : u = v
    · simp [hu]
    · rw [Function.update_of_ne hu]
      exact none' u
  cases step with
  | load u absent heard => exact absurd heard (nobody _)
  | unload u loaded heard => exact absurd heard (nobody _)
  | change args heard => exact absurd heard (nobody _)
  | loadUnheard u _ _ => exact ⟨h.live, h.inbox, keeps h.loadHeard u, h.unloadHeard⟩
  | unloadUnheard u _ _ => exact ⟨h.live, h.inbox, h.loadHeard, keeps h.unloadHeard u⟩

/-! ## Signals that were handed over -/

/-- The same, with signals that were handed over and not taken yet in front of the others. -/
def behind (w : Service) (handed : List Signal) : Service := { w with inbox := handed ++ w.inbox }

theorem fate_behind (w : Service) (signal : Signal) (u : String) :
    fate u (w.behind [signal]).inbox = (fate u w.inbox).or (signal.fateOf u) := rfl

theorem Moves.behind {path : String → String} {w w' : Service} (h : Moves path w w')
    (handed : List Signal) : Moves path (w.behind handed) (w'.behind handed) := by
  cases h with
  | load u absent heard =>
    simpa only [Service.behind, List.append_assoc] using Moves.load (w.behind handed) u absent heard
  | loadUnheard u absent unheard => exact .loadUnheard (w.behind handed) u absent unheard
  | unload u loaded heard =>
    simpa only [Service.behind, List.append_assoc] using
      Moves.unload (w.behind handed) u loaded heard
  | unloadUnheard u loaded unheard => exact .unloadUnheard (w.behind handed) u loaded unheard
  | change args heard =>
    have changed : Moves path _ _ := .change (w.behind handed) args heard
    simpa only [Service.behind, List.append_assoc] using changed

theorem Answers.behind {path : String → String} {w w' : Service} {q : Request} {a : Answer q}
    (h : Answers path w q a w') (handed : List Signal) :
    Answers path (w.behind handed) q a (w'.behind handed) := by
  cases h <;> constructor <;> assumption

/-- An operation does not look at what is to be handed over. -/
theorem carries_behind {path : String → String} {α : Type} {p : Process Manager Answer α}
    {w w' : Service} {m : Manager} {r : α} (h : Carries (bus path).library p w w' m r)
    (handed : List Signal) :
    Carries (bus path).library p (w.behind handed) (w'.behind handed) m r := by
  induction h with
  | done s r w => exact .done s r _
  | move step _ ih => exact .move (Moves.behind step handed) ih
  | answer a ha _ ih => exact .answer a (Answers.behind ha handed) ih

end Service

end Wire

end UnitWatch
