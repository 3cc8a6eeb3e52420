import UnitWatch.Proofs.Session.Resync

/-!
# Traces

Everything that a session asks, with what it is answered, written down as it happens. What a
session did is read off its trace.

**Conduct.** Connections fail in their documented ways only (`Documented`): a connection is refused,
a call fails, a subscription is given back to a bus in trouble, a connection is lost while a signal
is waited for. What is fetched about a unit is about this unit. A session may be stopped as well,
while it waits for a signal, sleeps, or has an event taken (`Stopped`).

**Steps.** What a step keeps is composed as the step is (`Upholds`).

Traces have the newest exchange first.
-/

namespace UnitWatch.Session

open Safe (Succeeds Ends)

variable {η : Type}

/-- A request, and what it was answered. -/
structure Exchange (η : Type) where
  request : Request η
  answer : Answer request

abbrev Trace (η : Type) : Type := List (Exchange η)

/-- What connections may answer, and consumers that take every event. -/
inductive Documented : (q : Request η) → Answer q → Prop
  | opened : Documented .open (.ok () : Except Failure Unit)
  | connected : Documented .connect (.ok () : Except Failure Unit)
  | refused (scope reason : String) :
      Documented .connect (.error (.ofBus (.connection scope reason)) : Except Failure Unit)
  | subscribedManager : Documented .subscribeManager (.ok () : Except Failure Unit)
  | notSubscribedManager (call reason : String) (name : Option String) :
      Documented .subscribeManager (.error (callFailure call reason name) : Except Failure Unit)
  | listed (units : List String) :
      Documented .listUnits (.ok units : Except Failure (List String))
  | notListed (call reason : String) (name : Option String) :
      Documented .listUnits (.error (callFailure call reason name) : Except Failure (List String))
  | subscribed (unit : String) (subscription : η) :
      Documented (.subscribe unit) (.ok subscription : Except Failure η)
  | notSubscribed (unit call reason : String) (name : Option String) :
      Documented (.subscribe unit) (.error (callFailure call reason name) : Except Failure η)
  | fetched (state : RawState) :
      Documented (.fetch state.unit) (.ok state : Except Failure RawState)
  | notFetched (unit call reason : String) (name : Option String) :
      Documented (.fetch unit) (.error (callFailure call reason name) : Except Failure RawState)
  | unsubscribed (subscription : η) :
      Documented (.unsubscribe subscription) (.ok () : Except Failure Unit)
  | notUnsubscribed (subscription : η) (f : Fault) (ofBus : f.isBusFault = true) :
      Documented (.unsubscribe subscription) (.error (.fault f) : Except Failure Unit)
  | signalled (s : Signal) : Documented .nextSignal (.ok s : Except Failure Signal)
  | lost (scope : String) :
      Documented .nextSignal (.error (.ofBus (.disconnected scope)) : Except Failure Signal)
  | closed : Documented .close (.ok () : Except Failure Unit)
  | taken (event : Transition) : Documented (.emit event) (.ok () : Except Failure Unit)
  | slept (delay : Span) : Documented (.sleep delay) (.ok () : Except Failure Unit)
  | time (now : Microseconds) : Documented .clock now
  | noted (n : Notice) : Documented (.note n) ()

/-- What a session is told that is stopped where it waits for others. -/
inductive Stopped : (q : Request η) → Answer q → Prop
  | atSignal : Stopped .nextSignal (.error .cancelled : Except Failure Signal)
  | atSleep (delay : Span) : Stopped (.sleep delay) (.error .cancelled : Except Failure Unit)
  | atEvent (event : Transition) :
      Stopped (.emit event) (.error .cancelled : Except Failure Unit)

/-- Surroundings that answer as they are allowed to. -/
def observed (allowed : (q : Request η) → Answer q → Prop) : Around η (Trace η) where
  moves _ _ := False
  answers w _ q a w' := allowed q a ∧ w' = ⟨q, a⟩ :: w

section

variable {allowed : (q : Request η) → Answer q → Prop} {α : Type}
  {J : Trace η → State η → Request η → Prop} {post : Trace η → State η → α → Prop}
  {s : State η} {w : Trace η}

theorem drifts_observed {w' : Trace η} (h : (observed allowed).Drifts w w') : w' = w := by
  induction h with
  | refl => rfl
  | tail _ step _ => exact step.elim

theorem stable_observed {K : Trace η → Prop} : (observed allowed).Stable K :=
  fun _ _ step => step.elim

theorem ask_observed {q : Request η} {resume : Answer q → Process (State η) Answer α}
    (now : J w s q)
    (later : ∀ a, allowed q a → Safe (observed allowed) J post (resume a) (⟨q, a⟩ :: w)) :
    Safe (observed allowed) J post (.ask s q resume) w := by
  intro w' hd
  obtain rfl := drifts_observed hd
  refine ⟨now, ?_⟩
  rintro a _ ⟨ha, rfl⟩
  exact later a ha

theorem done_observed {r : α} (h : post w s r) : Safe (observed allowed) J post (.done s r) w := by
  intro w' hd
  obtain rfl := drifts_observed hd
  exact h

/-- A resync leaves the state as it is, and keeps what a look at the clock keeps. -/
theorem resync_observed {K : Trace η → Prop} (now : ∀ w, K w → J w s .clock)
    (kept : ∀ w time, K w → K (⟨.clock, time⟩ :: w)) (r : Registry η) (snapshot : Snapshot)
    (hw : K w) :
    Safe (observed allowed) J (Succeeds fun w s' ts => s' = s ∧ K w ∧
      ts.map Transition.difference = differences r snapshot) (resync r snapshot s) w := by
  refine resync_safe stable_observed (fun w hw => ?_) r snapshot hw
  exact ask_observed (now w hw) fun time _ => done_observed ⟨rfl, kept w time hw⟩

end

/-! ## Steps that keep an invariant -/

/-- A step that keeps `I`, and has values with `P`. Of its failures `E` holds. -/
def Upholds (allowed : (q : Request η) → Answer q → Prop)
    (J : Trace η → State η → Request η → Prop) (I : Trace η → State η → Prop)
    (E : Trace η → State η → Failure → Prop) {α : Type} (P : α → Prop) (x : Step η α) : Prop :=
  ∀ w s, I w s → Safe (observed allowed) J (Ends (fun w s a => I w s ∧ P a) E) (x s) w

namespace Upholds

variable {allowed : (q : Request η) → Answer q → Prop} {J : Trace η → State η → Request η → Prop}
  {I : Trace η → State η → Prop} {E : Trace η → State η → Failure → Prop} {α β ι : Type}
  {P : α → Prop} {Q : β → Prop}

theorem pure {a : α} (h : P a) : Upholds allowed J I E P (Pure.pure a : Step η α) :=
  fun _ _ hw => done_observed ⟨hw, h⟩

theorem fail {f : Failure} (h : ∀ w s, I w s → E w s f) :
    Upholds allowed J I E P (Action.fail f : Step η α) :=
  fun w s hw => done_observed (h w s hw)

theorem get : Upholds allowed J I E (fun _ => True) (Action.get : Step η (State η)) :=
  fun _ _ hw => done_observed ⟨hw, trivial⟩

theorem modify {f : State η → State η} (h : ∀ w s, I w s → I w (f s)) :
    Upholds allowed J I E (fun _ => True) (Action.modify f : Step η Unit) :=
  fun w s hw => done_observed ⟨h w s hw, trivial⟩

theorem ask {q : Request η} (now : ∀ w s, I w s → J w s q)
    (kept : ∀ w s a, allowed q a → I w s → I (⟨q, a⟩ :: w) s) :
    Upholds allowed J I E (allowed q) (Session.ask q) := by
  intro w s hw
  refine ask_observed (now w s hw) ?_
  intro a ha
  exact done_observed ⟨kept w s a ha hw, ha⟩

theorem bind {x : Step η α} {f : α → Step η β} (h : Upholds allowed J I E P x)
    (then' : ∀ a, P a → Upholds allowed J I E Q (f a)) : Upholds allowed J I E Q (x >>= f) := by
  intro w s hw
  refine (h w s hw).andThen ?_ fun _ _ _ failed => done_observed failed
  intro w s a hw
  exact then' a hw.2 w s hw.1

theorem imp {P' : α → Prop} {x : Step η α} (h : Upholds allowed J I E P x)
    (imp : ∀ a, P a → P' a) : Upholds allowed J I E P' x := by
  intro w s hw
  refine (h w s hw).weaken fun w s r hr => ?_
  cases r with
  | ok a => exact ⟨hr.1, imp a hr.2⟩
  | error _ => exact hr

/-- Failures are taken as values. -/
theorem attempt {x : Step η α} (h : Upholds allowed J I E P x)
    (kept : ∀ w s f, E w s f → I w s) :
    Upholds allowed J I E (fun _ => True) (Action.attempt x) := by
  intro w s hw
  refine (h w s hw).attempt.weaken fun w s r hr => ?_
  match r, hr with
  | .ok (.ok _), hr => exact ⟨hr.1, trivial⟩
  | .ok (.error f), hr => exact ⟨kept w s f hr, trivial⟩

theorem demand {x : Step η (Except Failure α)} {R : Except Failure α → Prop}
    (h : Upholds allowed J I E R x) (fails : ∀ w s f, I w s → E w s f) :
    Upholds allowed J I E (fun _ => True) (Session.demand x) := by
  refine h.bind ?_
  intro a _
  cases a with
  | ok a => exact pure trivial
  | error f => exact fail fun w s hw => fails w s f hw

theorem each {f : ι → Step η Unit} (h : ∀ i, Upholds allowed J I E (fun _ => True) (f i))
    (is : List ι) : Upholds allowed J I E (fun _ => True) (Action.each f is) := by
  induction is with
  | nil => exact pure trivial
  | cons i is ih => exact (h i).bind fun _ _ => ih

/-- A resync keeps what a look at the clock keeps. -/
theorem resync (now : ∀ w s, I w s → J w s .clock)
    (kept : ∀ w s time, I w s → I (⟨.clock, time⟩ :: w) s) (r : Registry η) (snapshot : Snapshot) :
    Upholds allowed J I E (fun ts => ts.map Transition.difference = differences r snapshot)
      (Session.resync r snapshot) := by
  intro w s hw
  refine (resync_observed (now · s) (kept · s) r snapshot hw).weaken ?_
  intro w s' result taken
  cases result with
  | error _ => exact taken.elim
  | ok ts =>
    obtain ⟨rfl, hw, known⟩ := taken
    exact ⟨hw, known⟩

/-- A step that does not fail. -/
theorem succeeds {x : Step η α} (h : Upholds allowed J I (fun _ _ _ => False) P x) {w : Trace η}
    {s : State η} (hw : I w s) :
    Safe (observed allowed) J (Succeeds fun w s a => I w s ∧ P a) (x s) w := by
  refine (h w s hw).weaken fun w s r hr => ?_
  cases r with
  | ok a => exact hr
  | error f => exact hr

end Upholds

/-! ## Runs step by step -/

/-- Some run leads to where `goal` holds. -/
def Reaches (c : Plan) (allowed : (q : Request η) → Answer q → Prop) (x : Trace η × Phase η)
    (goal : Trace η → Phase η → Prop) : Prop :=
  ∃ w p, Runs c (observed allowed) x (w, p) ∧ goal w p

namespace Reaches

variable {c : Plan} {allowed : (q : Request η) → Answer q → Prop} {s : State η} {w : Trace η}
  {goal : Trace η → Phase η → Prop}

theorem here {p : Phase η} (h : goal w p) : Reaches c allowed (w, p) goal :=
  ⟨w, p, .refl, h⟩

theorem answer {q : Request η} {resume : Answer q → Phase η} {a : Answer q} (ha : allowed q a)
    (h : Reaches c allowed (⟨q, a⟩ :: w, resume a) goal) :
    Reaches c allowed (w, .ask s q resume) goal := by
  obtain ⟨w', p, run, hp⟩ := h
  exact ⟨w', p, .head (.answer a ⟨ha, rfl⟩) run, hp⟩

theorem next {st : Stage} (h : Reaches c allowed (w, stage c st s) goal) :
    Reaches c allowed (w, .done s (.ok st)) goal := by
  obtain ⟨w', p, run, hp⟩ := h
  exact ⟨w', p, .head (.next w s st) run, hp⟩

theorem trans {mid : Trace η → Phase η → Prop} {x : Trace η × Phase η}
    (h : Reaches c allowed x mid) (onward : ∀ w p, mid w p → Reaches c allowed (w, p) goal) :
    Reaches c allowed x goal := by
  obtain ⟨w, p, run, hp⟩ := h
  obtain ⟨w', p', run', hp'⟩ := onward w p hp
  exact ⟨w', p', Relation.ReflTransGen.trans run run', hp'⟩

theorem of_eq {p p' : Phase η} (eq : p = p') (h : Reaches c allowed (w, p') goal) :
    Reaches c allowed (w, p) goal := eq ▸ h

end Reaches

end UnitWatch.Session
