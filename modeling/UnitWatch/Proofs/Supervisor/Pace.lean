import UnitWatch.Proofs.Session.Trace
import UnitWatch.Proofs.Supervisor.Daemon

/-!
# Lanes in time

When each of the two halves of a lane goes on, and where it gets to.

- The bus answers the session, and chooses the moments. A sleep ends when it is over. What needs
  nobody else is answered at once: events are taken, notices are noted, the wall clock is read.
- The worker takes up an event as soon as it is free and the event is there. A send ends when the
  notifier has replied, or at its limit.

What a bus does is a **script**. It may go by all the dealings that the session has had so far, so
every behaviour of a bus in a run is that of some script.

The session goes by its own past alone, and the worker by the session's events. Both halves are
deterministic (`Course.Goes`, `Desk.Goes`), so there is one place where they can be when an instant
is over (`eq_of_restsAt`).
-/

namespace UnitWatch.Supervisor

open Dispatch (Delivery Outcome)
open UnitWatch.Span (isInstant)

variable {η : Type}

/-! ## The end of an instant -/

section

variable {α : Type} {step : α → α → Prop} {since : α → Moment} {a b c : α} {t : Moment}

/-- Something has got where it is by a moment, and does not leave by then. -/
def RestsAt (step : α → α → Prop) (since : α → Moment) (t : Moment) (a : α) : Prop :=
  since a ≤ t ∧ ∀ b, step a b → t < since b

theorem since_le (forward : ∀ a b, step a b → since a ≤ since b)
    (run : Relation.ReflTransGen step a b) : since a ≤ since b := by
  induction run with
  | refl => exact le_rfl
  | tail _ last ih => exact ih.trans (forward _ _ last)

/-- What rests at a moment is not left by then. -/
theorem RestsAt.eq (forward : ∀ a b, step a b → since a ≤ since b) (rests : RestsAt step since t a)
    (run : Relation.ReflTransGen step a b) (early : since b ≤ t) : b = a := by
  rcases run.cases_head with same | ⟨c, first, rest⟩
  · exact same.symm
  · have late : t < since c := rests.2 c first
    exact absurd (late.trans_le ((since_le forward rest).trans early)) (lt_irrefl t)

/-- What goes on in one way only can rest at a moment in one place only. -/
theorem eq_of_restsAt (unique : Relator.RightUnique step)
    (forward : ∀ a b, step a b → since a ≤ since b) (toB : Relation.ReflTransGen step a b)
    (toC : Relation.ReflTransGen step a c) (restsB : RestsAt step since t b)
    (restsC : RestsAt step since t c) : b = c := by
  rcases Relation.ReflTransGen.total_of_right_unique unique toB toC with run | run
  · exact (restsB.eq forward run restsC.1).symm
  · exact restsC.eq forward run restsB.1

end

/-! ## Sessions -/

/-- A request of a session, with what the session kept there, the answer, and when it came. -/
structure Dealing (η : Type) extends Session.Exchange η where
  moment : Moment
  state : Session.State η

/-- The event that has been handed on. -/
def Dealing.yields (x : Dealing η) : List (Moment × Transition) :=
  (handed x.request x.answer).map fun event => (x.moment, event)

/-- What a bus answers to a request after some dealings, asked at a moment, and when. It may never
answer. -/
abbrev Script (η : Type) : Type :=
  List (Dealing η) → Moment → (q : Session.Request η) → Option (Moment × Session.Answer q)

/-- When a request is answered that was asked at a moment, and with what. A connection is made at
once or not at all. -/
def due (script : Script η) (wall : Moment → Microseconds) (past : List (Dealing η))
    (since : Moment) : (q : Session.Request η) → Option (Moment × Session.Answer q)
  | .emit _ => some (since, (.ok () : Except Failure Unit))
  | .note _ => some (since, ())
  | .clock => some (since, wall since)
  | .sleep d =>
    if isInstant d then some (since, (.ok () : Except Failure Unit))
    else (since.after d).map fun t => (max since t, (.ok () : Except Failure Unit))
  | .open => (script past since .open).map fun reply => (since, reply.2)
  | q => (script past since q).map fun reply => (max since reply.1, reply.2)

theorem le_due {script : Script η} {wall : Moment → Microseconds} {past : List (Dealing η)}
    {since t : Moment} {q : Session.Request η} {a : Session.Answer q}
    (h : due script wall past since q = some (t, a)) : since ≤ t := by
  cases q with
  | emit | note | clock =>
    cases h
    exact le_rfl
  | sleep d =>
    by_cases instant : isInstant d = true
    · rw [due, if_pos instant] at h
      cases h
      exact le_rfl
    · rw [due, if_neg instant] at h
      obtain ⟨u, -, same⟩ := Option.map_eq_some_iff.1 h
      cases same
      exact le_max_left _ _
  | «open» =>
    obtain ⟨reply, -, same⟩ := Option.map_eq_some_iff.1 h
    cases same
    exact le_rfl
  | _ =>
    obtain ⟨reply, -, same⟩ := Option.map_eq_some_iff.1 h
    cases same
    exact le_max_left _ _

/-- Since when a session has been where it is, and its dealings so far, oldest first. -/
structure Diary (η : Type) where
  since : Moment
  past : List (Dealing η) := []

/-- The events yielded so far, each with its moment. -/
def Diary.yields (d : Diary η) : List (Moment × Transition) := d.past.flatMap Dealing.yields

/-- A session in time. -/
structure Course (η : Type) extends Diary η where
  session : Task η

/-- Where a session gets to, when, and by which dealings. -/
structure Move (η : Type) where
  moment : Moment
  phase : Session.Phase η
  dealings : List (Dealing η) := []

/-- The events yielded on the way. -/
def Move.events (m : Move η) : List Transition :=
  (m.dealings.flatMap Dealing.yields).map Prod.snd

namespace Course

variable {plan : Session.Plan} {script : Script η} {wall : Moment → Microseconds} {c c' : Course η}
  {m : Move η}

/-- Where the session gets to next. -/
def move? (plan : Session.Plan) (script : Script η) (wall : Moment → Microseconds)
    (c : Course η) : Option (Move η) :=
  match c.session with
  | .absent => none
  | .created => some { moment := c.since, phase := Session.begin plan }
  | .running (.ask s q resume) =>
    (due script wall c.past c.since q).map fun (t, a) =>
      { moment := t, phase := resume a, dealings := [⟨⟨q, a⟩, t, s⟩] }
  | .running (.done s (.ok st)) => some { moment := c.since, phase := Session.stage plan st s }
  | .running (.done _ (.error _)) => none

def after (c : Course η) (m : Move η) : Course η where
  since := m.moment
  past := c.past ++ m.dealings
  session := .running m.phase

theorem yields_after (c : Course η) (m : Move η) :
    (c.after m).yields = c.yields ++ m.dealings.flatMap Dealing.yields :=
  List.flatMap_append

theorem since_le_moment (h : c.move? plan script wall = some m) : c.since ≤ m.moment := by
  unfold move? at h
  split at h
  · cases h
  · cases h
    exact le_rfl
  · obtain ⟨⟨t, a⟩, told, same⟩ := Option.map_eq_some_iff.1 h
    cases same
    exact le_due told
  · cases h
    exact le_rfl
  · cases h

/-- A session goes on as a session of a lane may. -/
theorem proceeds_of_move? {l : Lane η} (same : c.session = l.session)
    (h : c.move? l.config script wall = some m) : l.Proceeds m.phase m.events := by
  unfold move? at h
  rw [same] at h
  split at h
  · cases h
  · next created =>
    cases h
    exact .begins l created
  · next s q resume waits =>
    obtain ⟨⟨t, a⟩, told, eq⟩ := Option.map_eq_some_iff.1 h
    cases eq
    have events : handed q a = Move.events ⟨t, resume a, [⟨⟨q, a⟩, t, s⟩]⟩ := by
      simp [Move.events, Dealing.yields, Function.comp_def]
    rw [← events]
    exact .answered l s q resume a waits
  · next s st done =>
    cases h
    exact .continues l s st done
  · cases h

/-- The session gets from one place to another. -/
def Goes (plan : Session.Plan) (script : Script η) (wall : Moment → Microseconds)
    (c c' : Course η) : Prop :=
  ∃ m, c.move? plan script wall = some m ∧ c' = c.after m

theorem goes_unique : Relator.RightUnique (Goes plan script wall (η := η)) := by
  rintro c _ _ ⟨m, moves, rfl⟩ ⟨m', moves', rfl⟩
  rw [moves] at moves'
  cases moves'
  rfl

theorem Goes.since_le (h : Goes plan script wall c c') : c.since ≤ c'.since := by
  obtain ⟨m, moves, rfl⟩ := h
  exact since_le_moment moves

end Course

/-! ## Workers -/

/-- How a send may end that is not stopped from outside. -/
abbrev Reply : Type := { o : Outcome // o ≠ .failed .cancelled }

/-- What becomes of a send that begins at a moment, and when. It may hang for good. -/
abbrev Replies : Type := Delivery → Moment → Option (Moment × Reply)

/-- When and how a send ends: by itself, or given up at its limit. -/
def landing (replies : Replies) (now : Moment) (x : Delivery) : Option (Moment × Reply) :=
  match replies x now, now.after x.limit with
  | some (t, o), some limit => if t < limit then some (t, o) else some (limit, ⟨.overdue, by simp⟩)
  | some (t, o), none => some (t, o)
  | none, some limit => some (limit, ⟨.overdue, by simp⟩)
  | none, none => none

/-- Since when a worker has been where it is, and what it has done so far. -/
structure Ledger where
  since : Moment
  /-- How many events have been taken up. -/
  taken : Nat := 0
  /-- For a send in flight, when and how it ends, if it does. -/
  flight : Option (Option (Moment × Reply)) := none
  /-- The sends that have begun, each with its moment. -/
  sends : List (Moment × Delivery) := []

/-- A worker in time. -/
structure Desk extends Ledger where
  worker : Worker

namespace Desk

variable {settings : Settings} {timeout : Span} {replies : Replies}
  {yields more : List (Moment × Transition)} {k k' : Desk} {hs : List Happening}

/-- Where the worker gets to next with the events yielded so far, and what is seen of it. -/
def move? (settings : Settings) (timeout : Span) (replies : Replies)
    (yields : List (Moment × Transition)) (k : Desk) : Option (Desk × List Happening) :=
  match k.worker with
  | .absent | .ended => none
  | .idle => yields[k.taken]?.map fun (t, event) =>
    ({ k with
      worker := .busy event (Dispatch.dispatch settings timeout event ())
      taken := k.taken + 1
      since := max k.since t }, [])
  | .busy event (.ask _ (.note _) resume) =>
    some ({ k with worker := .busy event (resume ()) }, [])
  | .busy event (.ask _ (.send x) resume) =>
    match k.flight with
    | none =>
      if isInstant x.limit then some ({ k with worker := .busy event (resume .overdue) }, [])
      else some ({ k with
        flight := some (landing replies k.since x)
        sends := k.sends ++ [(k.since, x)] }, [.begun x])
    | some lands => lands.map fun (t, o) =>
      ({ k with
        worker := .busy event (resume o.1)
        flight := none
        since := max k.since t }, [.ended x o.1])
  | .busy _ (.done _ _) => some ({ k with worker := .idle }, [])

theorem since_le_of_move? (h : k.move? settings timeout replies yields = some (k', hs)) :
    k.since ≤ k'.since := by
  unfold move? at h
  split at h
  · cases h
  · cases h
  · obtain ⟨⟨t, event⟩, -, same⟩ := Option.map_eq_some_iff.1 h
    cases same
    exact le_max_left _ _
  · cases h
    exact le_rfl
  · split at h
    · split at h
      · cases h
        exact le_rfl
      · cases h
        exact le_rfl
    · obtain ⟨⟨t, o⟩, -, same⟩ := Option.map_eq_some_iff.1 h
      cases same
      exact le_max_left _ _
  · cases h
    exact le_rfl

/-- An idle worker takes up the next event; a busy one takes up none, and may begin a send. -/
theorem move?_cases (h : k.move? settings timeout replies yields = some (k', hs)) :
    (k.worker = .idle ∧ k.taken < yields.length ∧ k'.taken = k.taken + 1 ∧
        k'.sends = k.sends ∧ hs = []) ∨
      ((∃ event p, k.worker = .busy event p) ∧ k'.taken = k.taken ∧
        k'.sends.map Prod.snd = k.sends.map Prod.snd ++ hs.filterMap Happening.begun?) := by
  unfold move? at h
  split at h
  · cases h
  · cases h
  · next idle =>
    obtain ⟨entry, there, same⟩ := Option.map_eq_some_iff.1 h
    cases same
    exact .inl ⟨idle, (List.getElem?_eq_some_iff.1 there).1, rfl, rfl, rfl⟩
  · next event s n resume busy =>
    cases h
    exact .inr ⟨⟨_, _, busy⟩, rfl, by simp⟩
  · next event s x resume busy =>
    refine .inr ⟨⟨_, _, busy⟩, ?_⟩
    split at h
    · split at h
      · cases h
        exact ⟨rfl, by simp⟩
      · cases h
        exact ⟨rfl, by simp [Happening.begun?]⟩
    · obtain ⟨_, -, same⟩ := Option.map_eq_some_iff.1 h
      cases same
      exact ⟨rfl, by simp [Happening.begun?]⟩
  · next event s r busy =>
    cases h
    exact .inr ⟨⟨_, _, busy⟩, rfl, by simp⟩

/-- What is yielded later changes nothing. -/
theorem move?_append (h : k.move? settings timeout replies yields = some (k', hs)) :
    k.move? settings timeout replies (yields ++ more) = some (k', hs) := by
  unfold move? at h ⊢
  split at h
  · cases h
  · cases h
  · obtain ⟨entry, there, -⟩ := Option.map_eq_some_iff.1 h
    have inside := (List.getElem?_eq_some_iff.1 there).1
    simpa [List.getElem?_append_left inside] using h
  all_goals exact h

/-- The worker gets from one place to another. -/
def Goes (settings : Settings) (timeout : Span) (replies : Replies)
    (yields : List (Moment × Transition)) (k k' : Desk) : Prop :=
  ∃ hs, k.move? settings timeout replies yields = some (k', hs)

theorem goes_unique : Relator.RightUnique (Goes settings timeout replies yields) := by
  rintro k _ _ ⟨hs, moves⟩ ⟨hs', moves'⟩
  rw [moves] at moves'
  cases moves'
  rfl

theorem Goes.since_le (h : Goes settings timeout replies yields k k') : k.since ≤ k'.since := by
  obtain ⟨hs, moves⟩ := h
  exact since_le_of_move? moves

theorem Goes.later {yields' : List (Moment × Transition)}
    (h : Goes settings timeout replies yields k k') (more : yields <+: yields') :
    Goes settings timeout replies yields' k k' := by
  obtain ⟨hs, moves⟩ := h
  obtain ⟨_, rfl⟩ := more
  exact ⟨hs, move?_append moves⟩

end Desk

end UnitWatch.Supervisor
