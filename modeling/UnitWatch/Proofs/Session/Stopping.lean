import UnitWatch.Proofs.Session.Cancellation

/-!
# How a stopped session ends

A session that is stopped where it waits leaves its connection, and ends. While it leaves it only
gives subscriptions back, closes the connection and notes what happens; it yields nothing, and does
not start another stage. If nothing but bus faults happen on the way, it ends as stopped.

Inside of a connection a step that is stopped where it waits ends at once (`Prompt`). What a process
does that is stopped is said along its requests (`GivesWay`).
-/

namespace UnitWatch.Session

open Safe (Ends)
open Cancellation (Conduct)

variable {η : Type}

/-- What a session asks for on the way out of a connection. -/
def Request.Leaves : Request η → Prop
  | .unsubscribe _ | .close | .note _ => True
  | _ => False

/-- Any answers. -/
abbrev leaving : Around η (Trace η) := observed fun _ _ => True

abbrev OnTheWayOut (_ : Trace η) (_ : State η) (q : Request η) : Prop := q.Leaves

/-- Answers that are documented, or another stop. -/
def Civil (w : Trace η) : Prop := ∀ x ∈ w, Conduct x.request x.answer

/-- The session fails. It ends as stopped after civil answers. -/
abbrev Quits {α : Type} : Trace η → State η → Except Failure α → Prop :=
  Ends (fun _ _ _ => False) fun w _ f => Civil w → f = .cancelled

/-- Wherever the process waits and is stopped, it ends with `P`. -/
def GivesWay {β : Type} (P : Trace η → State η → β → Prop) :
    Process (State η) (Answer (η := η)) β → Prop
  | .done _ _ => True
  | .ask _ q resume =>
    (∀ a, cancelled? q = some a → Safe leaving OnTheWayOut P (resume a) []) ∧
      ∀ a, GivesWay P (resume a)

namespace GivesWay

variable {α β : Type} {P : Trace η → State η → α → Prop} {Q : Trace η → State η → β → Prop}

theorem weaken {P' : Trace η → State η → α → Prop} {p : Process (State η) (Answer (η := η)) α}
    (h : GivesWay P p) (imp : ∀ w s r, P w s r → P' w s r) : GivesWay P' p := by
  induction p with
  | done s r => trivial
  | ask s q resume ih =>
    refine ⟨?_, fun a => ih a (h.2 a)⟩
    intro a stopped
    exact (h.1 a stopped).weaken imp

theorem bind {p : Process (State η) (Answer (η := η)) α}
    {next : State η → α → Process (State η) (Answer (η := η)) β} (h : GivesWay P p)
    (stopped : ∀ w s r, P w s r → Safe leaving OnTheWayOut Q (next s r) w)
    (onward : ∀ s r, GivesWay Q (next s r)) : GivesWay Q (p.bind next) := by
  induction p with
  | done s r => exact onward s r
  | ask s q resume ih =>
    refine ⟨?_, fun a => ih a (h.2 a)⟩
    intro a ha
    exact (h.1 a ha).bind stopped

end GivesWay

/-! ## Steps that end at once -/

/-- A step that ends at once when it is stopped. -/
def Prompt {α : Type} (x : Step η α) : Prop :=
  ∀ s, GivesWay (fun _ _ r => r = .error .cancelled) (x s)

namespace Prompt

section

variable {α β ι : Type}

theorem pure (a : α) : Prompt (Pure.pure a : Step η α) := fun _ => trivial

theorem fail (f : Failure) : Prompt (Action.fail f : Step η α) := fun _ => trivial

theorem get : Prompt (Action.get : Step η (State η)) := fun _ => trivial

theorem modifyRegistry (f : Registry η → Registry η) :
    Prompt (Session.modifyRegistry f : Step η Unit) := fun _ => trivial

theorem ofExcept (r : Except Failure α) : Prompt (Action.ofExcept r : Step η α) := by
  cases r with
  | ok a => exact pure a
  | error f => exact fail f

theorem bind {x : Step η α} {f : α → Step η β} (h : Prompt x) (onward : ∀ a, Prompt (f a)) :
    Prompt (x >>= f) := by
  intro s
  refine (h s).bind ?_ ?_
  · rintro w s _ rfl
    exact done_observed rfl
  · intro s r
    cases r with
    | ok a => exact onward a s
    | error _ => trivial

/-- A request whose answer is looked at; a stop is passed on. -/
theorem answer {q : Request η} {f : Answer q → Step η β}
    (passes : ∀ a s, cancelled? q = some a → f a s = .done s (.error .cancelled))
    (onward : ∀ a, Prompt (f a)) : Prompt (ask q >>= f) := by
  refine fun s => ⟨?_, fun a => onward a s⟩
  intro a stopped
  refine Safe.of_eq (passes a s stopped) ?_
  exact done_observed rfl

/-- A step whose failure is looked at; a stop is passed on. -/
theorem attempt {x : Step η α} {f : Except Failure α → Step η β} (h : Prompt x)
    (passes : ∀ s, f (.error .cancelled) s = .done s (.error .cancelled))
    (onward : ∀ r, Prompt (f r)) : Prompt (Action.attempt x >>= f) := by
  intro s
  refine GivesWay.bind (P := fun _ _ r => r = .ok (.error .cancelled)) ?_ ?_ ?_
  · refine (h s).bind ?_ fun _ _ => trivial
    rintro w s _ rfl
    exact done_observed rfl
  · rintro w s _ rfl
    refine Safe.of_eq (passes s) ?_
    exact done_observed rfl
  · intro s r
    cases r with
    | ok a => exact onward a s
    | error _ => trivial

theorem note (n : Notice) : Prompt (Session.note n : Step η Unit) := by
  refine fun s => ⟨?_, fun _ => trivial⟩
  rintro _ ⟨⟩

theorem each {f : ι → Step η Unit} (h : ∀ i, Prompt (f i)) (is : List ι) :
    Prompt (Action.each f is) := by
  induction is with
  | nil => exact pure ()
  | cons i is ih => exact (h i).bind fun _ => ih

theorem collect {f : ι → Step η α} (h : ∀ i, Prompt (f i)) (is : List ι) :
    Prompt (Action.collect f is) := by
  induction is with
  | nil => exact pure []
  | cons i is ih => exact (h i).bind fun _ => ih.bind fun _ => pure _

end

/-! ### The steps of a session -/

variable {c : Plan} {s : State η}

theorem release (k : η) : Prompt (Session.release k) := by
  refine answer (by rintro _ _ ⟨⟩; rfl) fun a => ?_
  split
  · exact pure ()
  · split
    · exact note _
    · exact fail _
  · exact fail _

theorem track (unit : String) : Prompt (Session.track unit : Step η Unit) := by
  refine answer (by rintro _ _ ⟨⟩; rfl) fun a => ?_
  split
  · exact note _
  · exact fail _
  · refine answer (by rintro _ _ ⟨⟩; rfl) fun a => ?_
    split
    · exact (modifyRegistry _).bind fun _ => note _
    · exact (note _).bind fun _ => release _
    · exact fail _
    · split
      · exact (modifyRegistry _).bind fun _ => note _
      · exact (modifyRegistry _).bind fun _ => note _

theorem start (c : Plan) : Prompt (Session.start c : Step η Unit) := by
  have connect : Prompt (demand (ask .connect) : Step η Unit) :=
    answer (by rintro _ _ ⟨⟩; rfl) ofExcept
  have subscribe : Prompt (demand (ask .subscribeManager) : Step η Unit) :=
    answer (by rintro _ _ ⟨⟩; rfl) ofExcept
  have list : Prompt (demand (ask .listUnits) : Step η (List String)) :=
    answer (by rintro _ _ ⟨⟩; rfl) ofExcept
  refine connect.bind fun _ => bind (fun _ => trivial) fun _ => subscribe.bind fun _ => ?_
  refine list.bind fun units => (each track _).bind fun _ => get.bind fun s => note _

theorem emit (t : Transition) : Prompt (demand (ask (.emit t)) : Step η Unit) :=
  answer (by rintro _ _ ⟨⟩) ofExcept

theorem resync (r : Registry η) (snapshot : Snapshot) :
    Prompt (Session.resync r snapshot : Step η (List Transition)) :=
  collect (fun _ => answer (by rintro _ _ ⟨⟩) fun _ => pure _) _

theorem handleSignal (c : Plan) (signal : Signal) :
    Prompt (Session.handleSignal c signal : Step η (Option Transition)) := by
  cases signal with
  | changed raw =>
    refine get.bind fun s => ?_
    simp only
    split
    · exact pure _
    · split
      · exact (note _).bind fun _ => pure _
      · refine answer (by rintro _ _ ⟨⟩) fun now => (modifyRegistry _).bind fun _ => ?_
        split
        · exact (note _).bind fun _ => pure _
        · exact pure _
  | added unit =>
    refine get.bind fun s => ?_
    simp only
    split
    · exact (track unit).bind fun _ => pure _
    · exact pure _
  | removed unit =>
    refine get.bind fun s => ?_
    split
    · exact (modifyRegistry _).bind fun _ => (release _).bind fun _ => (note _).bind fun _ => pure _
    · exact pure _
  | other kind => exact (note _).bind fun _ => pure _

theorem listenOnce (c : Plan) : Prompt (Session.listenOnce c : Step η Unit) := by
  have next : Prompt (demand (ask .nextSignal) : Step η Signal) :=
    answer (by rintro _ _ ⟨⟩; rfl) ofExcept
  refine next.bind fun signal => (handleSignal c signal).bind fun event => ?_
  split
  · exact emit _
  · exact pure ()

theorem sleepThen (n : Notice) (delay : Span) (next : Stage) :
    Prompt (Session.sleepThen n delay next : Step η (Option Stage)) := by
  have sleep : Prompt (demand (ask (.sleep delay)) : Step η Unit) :=
    answer (by rintro _ _ ⟨⟩; rfl) ofExcept
  exact (note n).bind fun _ => sleep.bind fun _ => pure _

theorem interlude {basis : Option Snapshot}
    {p : Process (State η) (Answer (η := η)) (Except Failure (Option Stage))}
    (between : Interlude basis s p) : GivesWay (fun _ _ r => r = .error .cancelled) p := by
  cases between with
  | fails f => trivial
  | pauses _ delay attempt => exact sleepThen _ delay _ s

theorem openConnection (c : Plan) (snapshot : Option Snapshot) (attempt : Nat) :
    Prompt (Session.openConnection c snapshot attempt : Step η (Option Stage)) := by
  refine Prompt.attempt (start c) (fun s => ?_) fun r => ?_
  · cases snapshot <;> rfl
  · split
    · exact pure none
    · refine get.bind fun s => (resync _ _).bind fun ts => ?_
      exact (each emit ts).bind fun _ => (note _).bind fun _ => pure none
    · split
      · exact fun s => interlude (retry_interlude c snapshot attempt _ s)
      · exact fail _
    · exact fail _

theorem listen (c : Plan) : Prompt (Session.listen c : Step η (Option Stage)) := by
  refine Prompt.attempt (listenOnce c) (fun _ => rfl) fun r => ?_
  split
  · exact pure none
  · exact fun s => interlude (recover_interlude c s)
  · exact fail _

theorem teardown : Prompt (Session.teardown : Step η Unit) := by
  have close : Prompt (demand (ask .close) : Step η Unit) :=
    answer (by rintro _ _ ⟨⟩; rfl) ofExcept
  refine get.bind fun s => (modifyRegistry _).bind fun _ => ?_
  exact (each (fun e => release _) _).bind fun _ => bind (fun _ => trivial) fun _ => close

end Prompt

/-! ## The way out -/

/-- On the way out nothing but a stop, or an answer that is not civil, is a failure. -/
abbrev Closes : Trace η → State η → Except Failure Unit → Prop :=
  Ends (fun _ _ _ => True) fun w _ f => Civil w → f = .cancelled

variable {w : Trace η} {s : State η}

theorem release_quits (k : η) : Safe leaving OnTheWayOut Closes (release k s) w := by
  refine ask_observed trivial ?_
  intro a _
  rcases a with f | _
  · have civil (h : Civil (⟨.unsubscribe k, .error f⟩ :: w)) :
        Conduct (.unsubscribe k) (.error f : Except Failure Unit) := h _ List.mem_cons_self
    cases f with
    | fault f =>
      show Safe _ _ _ ((if f.isBusFault then _ else _ : Step η Unit) s) _
      -- A documented failure to release is one of the bus, and is noted.
      by_cases ofBus : f.isBusFault
      · rw [if_pos ofBus]
        exact ask_observed trivial fun _ _ => done_observed trivial
      · rw [if_neg ofBus]
        refine done_observed fun h => ?_
        rcases civil h with documented | stopped | cancelled
        · cases documented with
          | notUnsubscribed _ _ isBus => exact absurd isBus ofBus
        · cases stopped
        · cases cancelled
    | crash _ =>
      refine done_observed fun h => ?_
      rcases civil h with documented | stopped | cancelled
      · cases documented
      · cases stopped
      · cases cancelled
    | cancelled => exact done_observed fun _ => rfl
  · exact done_observed trivial

theorem teardown_quits : Safe leaving OnTheWayOut Closes (teardown s) w := by
  have released (es : List (Entry η)) (s : State η) :
      Safe leaving OnTheWayOut Closes (Action.each (fun e => release e.subscription) es s) w :=
    Safe.each (I := fun _ _ _ => True)
      (fun e _ w s _ => (release_quits e.subscription).weaken fun w s r hr => by
        cases r with
        | ok _ => trivial
        | error _ => exact hr)
      (fun _ _ _ => done_observed trivial) (fun _ _ _ _ => nofun) es trivial
  refine (released s.registry.entries _).andThen ?_ fun _ _ _ h => done_observed h
  intro w s _ _
  refine ask_observed trivial ?_
  intro a _
  cases a with
  | ok _ => exact done_observed trivial
  | error f =>
    refine done_observed fun h => ?_
    rcases h _ List.mem_cons_self with documented | stopped | cancelled
    · cases documented
    · cases stopped
    · cases cancelled
      rfl

/-- A connection that is left gives way: what is asked from then on is asked on the way out. -/
theorem closing_givesWay {x : Step η (Option Stage)} (h : Prompt x) (s : State η) :
    GivesWay Quits (closing x s) := by
  have way {α : Type} (next : Step η α) (prompt : Prompt next) (s : State η) :
      GivesWay Quits ((do teardown; next : Step η α) s) := by
    refine ((Prompt.teardown.bind fun _ => prompt) s).weaken ?_
    rintro w s _ rfl _
    rfl
  rw [closing_eq]
  refine (h s).bind ?_ ?_
  · rintro w s _ rfl
    refine (teardown_quits (w := w)).andThen ?_ ?_
    · intro w s _ _
      exact done_observed fun _ => rfl
    · intro w s f hf
      exact done_observed hf
  · intro s r
    match r with
    | .ok none => trivial
    | .ok (some next) => exact way _ (Prompt.pure next) s
    | .error f => exact way _ (Prompt.fail f) s

/-- **Every stage gives way** to a stop. -/
theorem stage_givesWay (c : Plan) (st : Stage) (s : State η) : GivesWay Quits (stage c st s) := by
  cases st with
  | listening => exact closing_givesWay (Prompt.listen c) s
  | opening snapshot attempt =>
    refine ⟨?_, ?_⟩
    · rintro _ ⟨⟩
    · intro a
      cases a with
      | ok _ => exact closing_givesWay (Prompt.openConnection c snapshot attempt) s
      | error f => trivial

/-! ## Phases -/

namespace GivesWay

variable {p : Phase η}

theorem cancel (h : GivesWay Quits p) : GivesWay Quits p.cancel := by
  unfold Phase.cancel
  split
  · next s q resume =>
    cases stopped : cancelled? q with
    | none => exact h
    | some answer => exact h.2 answer
  · exact h

/-- A phase that is stopped has ended as stopped, or goes on. -/
theorem outcome?_cancel (h : GivesWay Quits p) (alive : p.outcome? = none) :
    p.cancel.outcome? = none ∨ p.cancel.outcome? = some .cancelled := by
  cases p with
  | done s r => exact .inl alive
  | ask s q resume =>
    simp only [Phase.cancel]
    cases stopped : cancelled? q with
    | none => exact .inl rfl
    | some answer =>
      have quits := h.1 answer stopped
      cases left : resume answer with
      | ask _ _ _ =>
        left
        simp only [left]
        rfl
      | done s r =>
        rw [left] at quits
        -- The cancellation is answered at once, so nothing lies between it and the end.
        have ended : Quits [] s r := quits [] .refl
        cases r with
        | ok _ => exact ended.elim
        | error f =>
          right
          simp only [left, ended (by simp [Civil])]
          rfl

end GivesWay

end UnitWatch.Session
