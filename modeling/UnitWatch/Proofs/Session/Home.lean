import UnitWatch.Proofs.Session.Resync
import UnitWatch.Proofs.Session.Run

/-!
# A session stays in its scope

Whatever a session is answered, it tracks units of its own scope only, and its events are about
them. What an action keeps is composed as the action is (`Keeps`).
-/

namespace UnitWatch.Session

variable {η : Type}

/-- The session tracks units of this scope. -/
structure Home (scope : BusScope) (r : Registry η) : Prop where
  wellFormed : r.WellFormed
  scope_eq : r.scope = scope

/-- Surroundings that answer anything. -/
def anything : Around η Unit where
  moves _ _ := False
  answers _ _ _ _ _ := True

/-- Events that are handed on are about the scope. -/
def AtHome (scope : BusScope) (_ : Unit) (_ : State η) : Request η → Prop
  | .emit t => t.unit.scope = scope
  | _ => True

/-- An action that stays in the scope, and has values with `P`. -/
def Keeps {α : Type} (scope : BusScope) (P : α → Prop) (x : Step η α) : Prop :=
  ∀ s, Home scope s.registry → Safe anything (AtHome scope)
    (fun _ s r => Home scope s.registry ∧ ∀ a, r = .ok a → P a) (x s) ()

variable {scope : BusScope}

namespace Home

variable {r : Registry η}

theorem initial (scope : BusScope) : Home scope (State.initial (η := η) scope).registry :=
  ⟨.empty scope, rfl⟩

theorem insert (h : Home scope r) (report : Report) (k : η) : Home scope (r.insert report k) :=
  ⟨h.wellFormed.insert report k, h.scope_eq⟩

theorem insertPending (h : Home scope r) (u : String) (k : η) :
    Home scope (r.insertPending u k) :=
  ⟨h.wellFormed.insertPending u k, h.scope_eq⟩

theorem evict (h : Home scope r) (u : String) : Home scope (r.evict u) :=
  ⟨h.wellFormed.evict u, h.scope_eq⟩

theorem drain (h : Home scope r) : Home scope r.drain := ⟨.drain r, h.scope_eq⟩

theorem scope_of_mem (h : Home scope r) {e : Entry η} (he : e ∈ r.entries) :
    e.unit.scope = scope := (h.wellFormed.scope e he).trans h.scope_eq

theorem apply (h : Home scope r) (report : Report) (now : Microseconds) :
    Home scope (r.apply report now).1 ∧
      ∀ t, (r.apply report now).2 = some t → t.unit.scope = scope := by
  refine ⟨⟨h.wellFormed.apply report now, (Registry.scope_apply r report now).trans h.scope_eq⟩, ?_⟩
  intro t ht
  cases he : r.get? report.unit with
  | none => simp [Registry.apply, he] at ht
  | some e =>
    rw [Registry.apply_of_get? now he] at ht
    rw [(Entry.states_of_update_eq_some ht).1]
    exact h.scope_of_mem (Registry.mem_of_get? he)

end Home

/-! ## Actions -/

namespace Keeps

variable {α β ι : Type} {P : α → Prop} {Q : β → Prop}

theorem done {s : State η} {r : Except Failure α} (h : Home scope s.registry)
    (hr : ∀ a, r = .ok a → P a) :
    Safe anything (AtHome scope) (fun _ s r => Home scope s.registry ∧ ∀ a, r = .ok a → P a)
      (.done s r) () :=
  fun _ _ => ⟨h, hr⟩

theorem pure {a : α} (h : P a) : Keeps scope P (Pure.pure a : Step η α) := fun _ hs =>
  done hs fun _ eq => by
    cases eq
    exact h

theorem fail (f : Failure) : Keeps scope P (Action.fail f : Step η α) := fun _ hs =>
  done hs (by simp)

theorem ofExcept (r : Except Failure α) :
    Keeps scope (fun _ => True) (Action.ofExcept r : Step η α) := by
  cases r with
  | ok a => exact pure trivial
  | error f => exact fail f

/-- A request that hands no event on. -/
theorem ask {q : Request η} (h : ∀ u s, AtHome scope u s q) :
    Keeps scope (fun _ => True) (Session.ask q) := fun s hs _ _ =>
  ⟨h _ s, fun _ _ _ => done hs fun _ _ => trivial⟩

theorem get : Keeps scope (fun s => Home scope s.registry) (Action.get : Step η (State η)) :=
  fun s hs => done hs fun a eq => by
    cases eq
    exact hs

theorem modify {f : State η → State η}
    (h : ∀ s, Home scope s.registry → Home scope (f s).registry) :
    Keeps scope (fun _ => True) (Action.modify f : Step η Unit) := fun s hs =>
  done (h s hs) fun _ _ => trivial

theorem bind {x : Step η α} {f : α → Step η β} (h : Keeps scope P x)
    (then' : ∀ a, P a → Keeps scope Q (f a)) : Keeps scope Q (x >>= f) := fun s hs =>
  (h s hs).bind fun _ s r hr => by
    cases r with
    | ok a => exact then' a (hr.2 a rfl) s hr.1
    | error f => exact done hr.1 (by simp)

theorem each {f : ι → Step η Unit} {is : List ι} (h : ∀ i ∈ is, Keeps scope (fun _ => True) (f i)) :
    Keeps scope (fun _ => True) (Action.each f is) := by
  induction is with
  | nil => exact pure trivial
  | cons i rest ih =>
    exact (h i List.mem_cons_self).bind fun _ _ => ih fun j hj => h j (List.mem_cons_of_mem _ hj)

theorem attempt {x : Step η α} (h : Keeps scope P x) :
    Keeps scope (fun r => ∀ a, r = .ok a → P a) (Action.attempt x) := fun s hs =>
  (h s hs).bind fun _ s r hr => done hr.1 fun _ eq => by
    cases eq
    exact hr.2

theorem onFailure {x : Step η α} {cleanup : Step η Unit} (h : Keeps scope P x)
    (hc : Keeps scope (fun _ => True) cleanup) : Keeps scope P (Action.onFailure x cleanup) :=
  h.attempt.bind fun r hr => by
    cases r with
    | ok a => exact pure (hr a rfl)
    | error f => exact hc.bind fun _ _ => fail f

theorem demand {x : Step η (Except Failure α)} (h : Keeps scope (fun _ => True) x) :
    Keeps scope (fun _ => True) (Session.demand x) :=
  h.bind fun r _ => ofExcept r

end Keeps

/-! ## The session -/

theorem note_keeps (n : Notice) : Keeps scope (fun _ => True) (note n : Step η Unit) :=
  Keeps.ask (q := .note n) fun _ _ => trivial

theorem release_keeps (k : η) : Keeps scope (fun _ => True) (release k) := by
  refine Keeps.bind (Keeps.ask fun _ _ => trivial) ?_
  intro r _
  split
  · exact .pure trivial
  · split
    · exact note_keeps _
    · exact .fail _
  · exact .fail _

theorem track_keeps (u : String) : Keeps scope (fun _ => True) (track u : Step η Unit) := by
  refine Keeps.bind (Keeps.ask fun _ _ => trivial) ?_
  intro r _
  split
  · exact note_keeps _
  · exact .fail _
  · next k =>
    refine Keeps.bind (Keeps.ask fun _ _ => trivial) ?_
    intro r _
    have pending (word : String) : Keeps scope (fun _ => True) (do
        modifyRegistry fun r => r.insertPending u k
        note (.stateUnrecognized u word) : Step η Unit) :=
      Keeps.bind (Keeps.modify fun s hs => hs.insertPending u k) fun _ _ => note_keeps _
    split
    · exact pending _
    · exact Keeps.bind (note_keeps _) fun _ _ => release_keeps k
    · exact .fail _
    · next raw =>
      split
      · exact pending _
      · next report _ =>
        exact Keeps.bind (Keeps.modify fun s hs => hs.insert report k) fun _ _ => note_keeps _

theorem start_keeps (c : Plan) : Keeps scope (fun _ => True) (start c : Step η Unit) := by
  refine Keeps.bind (Keeps.demand (Keeps.ask fun _ _ => trivial)) ?_
  intro _ _
  refine Keeps.bind (Keeps.modify fun s hs => hs) ?_
  intro _ _
  refine Keeps.bind (Keeps.demand (Keeps.ask fun _ _ => trivial)) ?_
  intro _ _
  refine Keeps.bind (Keeps.demand (Keeps.ask fun _ _ => trivial)) ?_
  intro units _
  refine Keeps.bind (Keeps.each fun u _ => track_keeps u) ?_
  intro _ _
  exact Keeps.bind Keeps.get fun s _ => note_keeps _

theorem emit_keeps {t : Transition} (h : t.unit.scope = scope) :
    Keeps scope (fun _ => True) (demand (ask (.emit t)) : Step η Unit) :=
  Keeps.demand (Keeps.ask (q := .emit t) fun _ _ => h)

/-- A resync yields events about the scope. -/
theorem resync_keeps {r : Registry η} (h : Home scope r) (snapshot : Snapshot) :
    Keeps scope (fun ts => ∀ t ∈ ts, t.unit.scope = scope) (resync r snapshot : Step η _) := by
  intro s hs
  have looks (w : Unit) : Safe anything (AtHome scope) (Safe.Succeeds fun _ s' _ => s' = s ∧ True)
      (ask .clock s) w := fun _ _ => ⟨trivial, fun _ _ _ _ _ => ⟨rfl, trivial⟩⟩
  refine (resync_safe (fun _ _ _ => id) (fun w _ => looks w) r snapshot trivial).weaken ?_
  intro _ s' result taken
  cases result with
  | error f => exact taken.elim
  | ok ts =>
    obtain ⟨rfl, -, known⟩ := taken
    refine ⟨hs, ?_⟩
    rintro _ ⟨⟩ t ht
    obtain ⟨e, he, unit, -⟩ := (isResync_of_differences h.wellFormed known).sound t ht
    rw [unit]
    exact h.scope_of_mem he

/-- A pause before the next connection. -/
theorem sleepThen_keeps (n : Notice) (delay : Span) (next : Stage) :
    Keeps scope (fun _ => True) (sleepThen n delay next : Step η (Option Stage)) := by
  refine Keeps.bind (note_keeps n) ?_
  intro _ _
  refine Keeps.bind (Keeps.demand (Keeps.ask fun _ _ => trivial)) ?_
  intro _ _
  exact .pure trivial

theorem interlude_keeps {basis : Option Snapshot} {s : State η}
    {p : Process (State η) (Answer (η := η)) (Except Failure (Option Stage))}
    (h : Interlude basis s p) (hs : Home scope s.registry) :
    Safe anything (AtHome scope) (fun _ s r => Home scope s.registry ∧ ∀ a, r = .ok a → True)
      p () := by
  cases h with
  | fails f => exact Keeps.fail f s hs
  | pauses _ delay attempt => exact sleepThen_keeps _ delay _ s hs

theorem retry_keeps (c : Plan) (basis : Option Snapshot) (attempt : Nat) (reason : String) :
    Keeps scope (fun _ => True) (retry c basis attempt reason : Step η (Option Stage)) :=
  fun s => interlude_keeps (retry_interlude c basis attempt reason s)

theorem recover_keeps (c : Plan) :
    Keeps scope (fun _ => True) (recover c : Step η (Option Stage)) :=
  fun s => interlude_keeps (recover_interlude c s)

theorem openConnection_keeps (c : Plan) (snapshot : Option Snapshot) (attempt : Nat) :
    Keeps scope (fun _ => True) (openConnection c snapshot attempt : Step η (Option Stage)) := by
  refine Keeps.bind (start_keeps c).attempt ?_
  intro r _
  split
  · exact .pure trivial
  · next snapshot _ =>
    refine Keeps.bind Keeps.get ?_
    intro s hs
    refine Keeps.bind (resync_keeps hs snapshot) ?_
    intro ts about
    refine Keeps.bind (Keeps.each fun t ht => emit_keeps (about t ht)) ?_
    intro _ _
    exact Keeps.bind (note_keeps _) fun _ _ => .pure trivial
  · split
    · exact retry_keeps c _ attempt _
    · exact .fail _
  · exact .fail _

theorem handleSignal_keeps (c : Plan) (signal : Signal) :
    Keeps scope (fun event => ∀ t, event = some t → t.unit.scope = scope)
      (handleSignal c signal : Step η (Option Transition)) := by
  have nothing : Keeps scope (fun event => ∀ t, event = some t → t.unit.scope = scope)
      (Pure.pure none : Step η (Option Transition)) := .pure (by simp)
  cases signal with
  | other kind => exact Keeps.bind (note_keeps _) fun _ _ => nothing
  | changed raw =>
    refine Keeps.bind Keeps.get ?_
    intro s hs
    split
    · exact nothing
    · simp only
      split
      · exact Keeps.bind (note_keeps _) fun _ _ => nothing
      · next report _ =>
        refine Keeps.bind (Keeps.ask fun _ _ => trivial) ?_
        intro now _
        -- The transition is about the unit of an entry, and these are at home.
        obtain ⟨home, about⟩ := hs.apply report now
        refine Keeps.bind (Keeps.modify fun _ _ => home) ?_
        intro _ _
        split
        · next t ht =>
          refine Keeps.bind (note_keeps _) fun _ _ => .pure ?_
          rintro _ ⟨⟩
          exact about t ht
        · exact nothing
  | added u =>
    refine Keeps.bind Keeps.get ?_
    intro s hs
    simp only
    split
    · exact Keeps.bind (track_keeps u) fun _ _ => nothing
    · exact nothing
  | removed u =>
    refine Keeps.bind Keeps.get ?_
    intro s hs
    simp only
    split
    · next e _ =>
      refine Keeps.bind (Keeps.modify fun s hs => hs.evict u) ?_
      intro _ _
      refine Keeps.bind (release_keeps e.subscription) ?_
      intro _ _
      exact Keeps.bind (note_keeps _) fun _ _ => nothing
    · exact nothing

theorem listenOnce_keeps (c : Plan) :
    Keeps scope (fun _ => True) (listenOnce c : Step η Unit) := by
  refine Keeps.bind (Keeps.demand (Keeps.ask fun _ _ => trivial)) ?_
  intro signal _
  refine Keeps.bind (handleSignal_keeps c signal) ?_
  intro event about
  split
  · next t => exact emit_keeps (about t rfl)
  · exact .pure trivial

theorem listen_keeps (c : Plan) :
    Keeps scope (fun _ => True) (listen c : Step η (Option Stage)) := by
  refine Keeps.bind (listenOnce_keeps c).attempt ?_
  intro r _
  split
  · exact .pure trivial
  · exact recover_keeps c
  · exact .fail _

theorem teardown_keeps : Keeps scope (fun _ => True) (teardown : Step η Unit) := by
  refine Keeps.bind Keeps.get ?_
  intro s _
  refine Keeps.bind (Keeps.modify fun s hs => hs.drain) ?_
  intro _ _
  refine Keeps.bind (Keeps.each fun e _ => release_keeps e.subscription) ?_
  intro _ _
  refine Keeps.bind (Keeps.modify (f := fun s => { s with connected := false }) fun s hs => hs) ?_
  intro _ _
  exact Keeps.demand (Keeps.ask fun _ _ => trivial)

theorem closing_keeps {x : Step η (Option Stage)} (h : Keeps scope (fun _ => True) x) :
    Keeps scope (fun _ => True) (closing x) := by
  refine Keeps.bind (Keeps.onFailure h teardown_keeps) ?_
  intro next _
  split
  · exact .pure trivial
  · exact Keeps.bind teardown_keeps fun _ _ => .pure trivial

/-- **A session stays in its scope**, whatever it is answered. -/
theorem stage_keeps (c : Plan) (st : Stage) :
    Keeps scope (fun _ => True) (stage c st : Step η Stage) := by
  cases st with
  | opening snapshot attempt =>
    rw [stage_opening]
    refine Keeps.bind (Keeps.demand (Keeps.ask fun _ _ => trivial)) ?_
    intro _ _
    exact closing_keeps (openConnection_keeps c snapshot attempt)
  | listening =>
    rw [stage_listening]
    exact closing_keeps (listen_keeps c)

end UnitWatch.Session
