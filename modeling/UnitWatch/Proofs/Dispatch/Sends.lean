import UnitWatch.Proofs.Interference
import UnitWatch.Proofs.Number.Binary64
import UnitWatch.Dispatch.Program

/-!
# The sends of a dispatch

An event calls for sends (`required`): rule by rule in declared order, and for each rule that is
about the event one send to each of its notifiers in listed order. A dispatch asks for exactly
these sends, one after the other, however each of them ends, and then it is done
(`dispatch_sends`). Each of them tells of the event (`notification_of_sent`).
-/

namespace UnitWatch.Dispatch

open Safe (Succeeds)
open UnitWatch.Span (isInstant)

/-- The sends that an event of a scope calls for. -/
def required (settings : Settings) (timeout : Span) (scope : BusScope) (t : Transition) :
    List Delivery :=
  settings.rules.flatMap fun rule =>
    if rule.scope = scope ∧ t.current ∈ rule.states ∧
        rule.expression.selects t.unit.name = true then
      rule.notifiers.map fun n => ⟨n, .ofTransition t, timeout⟩
    else []

/-- The sends of a dispatch are those that the event calls for in its scope. -/
theorem required_eq (settings : Settings) (timeout : Span) (t : Transition) :
    required settings timeout t.unit.scope t =
      (recipients settings t).map fun n => ⟨n, .ofTransition t, timeout⟩ := by
  unfold required recipients Settings.matchingRules Settings.rulesFor
  induction settings.rules with
  | nil => rfl
  | cons rule rules ih =>
    rw [List.flatMap_cons, ih]
    by_cases here : rule.scope = t.unit.scope
    · by_cases fires : rule.fires t.unit.name t.current = true
      · have fires' : t.current ∈ rule.states ∧ rule.expression.selects t.unit.name = true := by
          simpa [Rule.fires, Rule.selects] using fires
        simp [here, fires, fires']
      · have fires' : ¬(t.current ∈ rule.states ∧ rule.expression.selects t.unit.name = true) := by
          simpa [Rule.fires, Rule.selects] using fires
        simp [here, fires, fires']
    · simp [here]

/-! ## Limits -/

/-- A send that may take a while has a limit that is not over at once. -/
theorem limit_not_instant {d : Delivery} (h : isInstant d.timeout = false) :
    isInstant d.limit = false := by
  unfold Delivery.limit
  cases ht : d.timeout with
  | endless => rfl
  | seconds t =>
    have positive : 0 < t := by simpa [ht, isInstant] using h
    have one_le : (1 : Rat) ≤ t + grace := by
      unfold grace
      linarith
    simp only [Span.ofBinary]
    cases hr : (Binary64.ofRat (t + grace)).toRat? with
    | none => rfl
    | some r => simpa [isInstant] using Binary64.pos_of_toRat?_ofRat one_le hr

theorem timeout_of_required {settings : Settings} {timeout : Span} {scope : BusScope}
    {t : Transition} {d : Delivery} (h : d ∈ required settings timeout scope t) :
    d.timeout = timeout := by
  unfold required at h
  obtain ⟨rule, -, h⟩ := List.mem_flatMap.1 h
  split at h
  · obtain ⟨n, -, rfl⟩ := List.mem_map.1 h
    rfl
  · cases h

/-! ## What is left to send -/

/-- A send is taken off what is left; it ends in any way, but is not stopped from outside. -/
inductive Sends : List Delivery → (q : Request) → Answer q → List Delivery → Prop
  | sent (d : Delivery) (rest : List Delivery) (o : Outcome) (ended : o ≠ .failed .cancelled) :
      Sends (d :: rest) (.send d) o rest
  | noted (todo : List Delivery) (n : Notice) : Sends todo (.note n) () todo

/-- The sends that are left, as the surroundings of a dispatch. -/
def sending : Environment Unit Answer (List Delivery) where
  moves _ _ := False
  answers todo _ q a todo' := Sends todo q a todo'

/-- A send that is asked for is the first of those that are left. -/
def IsNext (todo : List Delivery) (_ : Unit) : Request → Prop
  | .send d => ∃ rest, todo = d :: rest
  | .note _ => True

variable {todo : List Delivery}

theorem stable_sending (P : List Delivery → Prop) : sending.Stable P := fun _ _ step => step.elim

/-- A note, and then the end. -/
theorem note_sends {α : Type} (n : Notice) (a : α) :
    Safe sending IsNext (Succeeds fun rest _ _ => rest = todo)
      ((note n >>= fun _ => Action.pure a) ()) todo := by
  refine Safe.ask (stable_sending (· = todo)) rfl (fun _ _ => trivial) ?_
  intro w a w' h ans
  cases ans
  exact Safe.done (stable_sending (· = todo)) h fun w h => h

theorem deliver_sends (timeout : Span) (notification : Notification) (n : Notifier) :
    Safe sending IsNext (Succeeds fun rest _ _ => rest = todo)
      (deliver timeout notification n ()) (⟨n, notification, timeout⟩ :: todo) := by
  refine Safe.ask (stable_sending (· = _ :: todo)) rfl (fun w h => ⟨todo, h⟩) ?_
  rintro w a w' rfl ans
  cases ans with
  | sent _ _ o ended =>
    cases a with
    | acknowledged => exact note_sends _ true
    | overdue => exact note_sends _ false
    | failed f =>
      -- The accounts of a failed send differ, but each is a note.
      have undelivered (f : Fault) : Safe sending IsNext (Succeeds fun rest _ _ => rest = todo)
          ((do
            if f.lineage.contains "NotificationError" then
              note (.undelivered n notification.unit f.message)
            else note (.broken n notification.unit f.message)
            return false : Step Bool) ()) todo := by
        split <;> exact note_sends _ false
      cases f with
      | fault fault =>
        have ends := undelivered fault
        cases fault with
        | notifierTimeout _ seconds => exact note_sends _ false
        | _ => exact ends
      | crash c => exact note_sends _ false
      | cancelled => exact absurd rfl ended

theorem deliverAll_sends (timeout : Span) (notification : Notification) (ns : List Notifier) :
    Safe sending IsNext (Succeeds fun rest _ _ => rest = [])
      (deliverAll timeout notification ns ()) (ns.map fun n => ⟨n, notification, timeout⟩) := by
  induction ns with
  | nil => exact Safe.done (stable_sending (· = [])) rfl fun w h => h
  | cons n ns ih =>
    refine (deliver_sends timeout notification n).seq ?_
    intro w s acknowledged h
    obtain rfl : w = _ := h
    refine ih.seq ?_
    intro w s others h
    exact Safe.done (stable_sending (· = [])) h fun w h => h

/-- **A dispatch sends what the event calls for**, in that order, and ends. -/
theorem dispatch_sends (settings : Settings) (timeout : Span) (t : Transition) :
    Safe sending IsNext (Succeeds fun rest _ _ => rest = []) (dispatch settings timeout t ())
      (required settings timeout t.unit.scope t) := by
  rw [required_eq]
  by_cases unmatched :
      (settings.matchingRules t.unit.scope t.unit.name t.current).isEmpty = true
  · have nothing : recipients settings t = [] := by
      rw [recipients, List.isEmpty_iff.1 unmatched]
      rfl
    simp only [dispatch, if_pos unmatched, nothing]
    exact note_sends _ 0
  · simp only [dispatch, if_neg unmatched]
    refine (deliverAll_sends timeout (.ofTransition t) (recipients settings t)).seq ?_
    intro w s delivered h
    obtain rfl : w = [] := h
    exact note_sends _ delivered

/-! ## What is sent -/

/-- The sends of a process, if the `k`-th one of all ends with `ends k`; there have been so many
before. -/
def sent {α : Type} (ends : Nat → Outcome) : Nat → Process Unit Answer α → List Delivery
  | _, .done _ _ => []
  | k, .ask _ (.send d) resume => d :: sent ends (k + 1) (resume (ends k))
  | k, .ask _ (.note _) resume => sent ends k (resume ())

/-- The sends for events that are dispatched one after the other. -/
def sentFor (settings : Settings) (timeout : Span) (ends : Nat → Outcome) :
    Nat → List Transition → List Delivery
  | _, [] => []
  | k, t :: ts =>
    let now := sent ends k (dispatch settings timeout t ())
    now ++ sentFor settings timeout ends (k + now.length) ts

theorem sent_of_safe {α : Type} {ends : Nat → Outcome} (ended : ∀ k, ends k ≠ .failed .cancelled)
    {p : Process Unit Answer (Except Failure α)} {k : Nat}
    (h : Safe sending IsNext (Succeeds fun rest _ _ => rest = []) p todo) :
    sent ends k p = todo := by
  induction p generalizing k todo with
  | done s r =>
    cases r with
    | ok a =>
      obtain rfl : todo = [] := h todo .refl
      rfl
    | error f => exact (h todo .refl).elim
  | ask s q resume ih =>
    obtain ⟨first, later⟩ := h todo .refl
    cases q with
    | note n => exact ih () (later () todo (.noted todo n))
    | send d =>
      obtain ⟨rest, rfl⟩ := first
      rw [sent, ih (ends k) (later _ rest (.sent d rest _ (ended k)))]

/-- What is sent for events is what they call for, one event after the other. -/
theorem sentFor_eq (settings : Settings) (timeout : Span) {ends : Nat → Outcome}
    (ended : ∀ k, ends k ≠ .failed .cancelled) (k : Nat) (ts : List Transition) :
    sentFor settings timeout ends k ts =
      ts.flatMap fun t => required settings timeout t.unit.scope t := by
  induction ts generalizing k with
  | nil => rfl
  | cons t ts ih =>
    rw [sentFor, ih, sent_of_safe ended (dispatch_sends settings timeout t), List.flatMap_cons]

/-- An event about a unit that nobody watches calls for nothing. -/
theorem required_of_not_watched {settings : Settings} {timeout : Span} {scope : BusScope}
    {t : Transition} (h : settings.watches scope t.unit.name = false) :
    required settings timeout scope t = [] := by
  unfold required
  rw [List.flatMap_eq_nil_iff]
  intro rule hr
  rw [if_neg]
  rintro ⟨here, -, selects⟩
  have watched : settings.watches scope t.unit.name = true := by
    rw [Settings.watches, List.any_eq_true]
    exact ⟨rule, List.mem_filter.2 ⟨hr, by simpa using here⟩, selects⟩
  rw [h] at watched
  cases watched

/-! ## What notifiers are told -/

/-- Surroundings that answer anything. -/
def anyhow : Environment Unit Answer Unit := ⟨fun _ _ => False, fun _ _ _ _ _ => True⟩

/-- Sends that tell a notification. -/
def Tells (notification : Notification) (_ _ : Unit) : Request → Prop
  | .send d => d.notification = notification
  | .note _ => True

/-- A step that tells nothing but the notification, however it is answered. -/
def Telling (notification : Notification) {α : Type} (x : Step α) : Prop :=
  Safe anyhow (Tells notification) (fun _ _ _ => True) (x ()) ()

namespace Telling

variable {notification : Notification} {α β : Type}

theorem stable : anyhow.Stable fun _ => True := fun _ _ _ _ => trivial

theorem pure (a : α) : Telling notification (Pure.pure a : Step α) :=
  Safe.done stable trivial fun _ _ => trivial

theorem fail (f : Failure) : Telling notification (Action.fail f : Step α) :=
  Safe.done stable trivial fun _ _ => trivial

theorem ask {q : Request} (h : Tells notification () () q) :
    Telling notification (Dispatch.ask q) := by
  refine Safe.ask stable trivial (fun _ _ => h) ?_
  intro _ _ _ _ _
  exact Safe.done stable trivial fun _ _ => trivial

theorem bind {x : Step α} {f : α → Step β} (h : Telling notification x)
    (then' : ∀ a, Telling notification (f a)) : Telling notification (x >>= f) :=
  Safe.andThen h (fun _ _ a _ => then' a) fun _ _ _ _ =>
    Safe.done stable trivial fun _ _ => trivial

theorem note (n : Notice) {f : Unit → Step α} (then' : Telling notification (f ())) :
    Telling notification (Dispatch.note n >>= f) :=
  (ask (q := .note n) trivial).bind fun _ => then'

theorem deliver (timeout : Span) (n : Notifier) :
    Telling notification (deliver timeout notification n) := by
  refine (ask (q := .send ⟨n, notification, timeout⟩) rfl).bind fun o => ?_
  split
  · exact note _ (pure _)
  · exact note _ (pure _)
  · exact note _ (pure _)
  · exact fail _
  · dsimp only
    split
    · exact note _ (pure _)
    · exact note _ (pure _)
  · exact note _ (pure _)

theorem deliverAll (timeout : Span) (ns : List Notifier) :
    Telling notification (deliverAll timeout notification ns) := by
  induction ns with
  | nil => exact pure _
  | cons n ns ih => exact (deliver timeout n).bind fun _ => ih.bind fun _ => pure _

theorem dispatch (settings : Settings) (timeout : Span) (t : Transition) :
    Telling (.ofTransition t) (dispatch settings timeout t) := by
  unfold Dispatch.dispatch
  dsimp only
  split
  · exact note _ (pure _)
  · exact (deliverAll timeout _).bind fun _ => note _ (pure _)

end Telling

theorem notification_of_safe {α : Type} {notification : Notification} {ends : Nat → Outcome}
    {p : Process Unit Answer α} (h : Safe anyhow (Tells notification) (fun _ _ _ => True) p ())
    {k : Nat} {d : Delivery} (hd : d ∈ sent ends k p) : d.notification = notification := by
  induction p generalizing k with
  | done s r => cases hd
  | ask s q resume ih =>
    obtain ⟨now, later⟩ := h () .refl
    cases q with
    | note n => exact ih () (later () () trivial) hd
    | send d' =>
      rcases List.mem_cons.1 hd with rfl | hd
      · exact now
      · exact ih _ (later _ () trivial) hd

/-- Whatever is sent for an event, however the sends end, tells of this event. -/
theorem notification_of_sent {settings : Settings} {timeout : Span} {ends : Nat → Outcome}
    {k : Nat} {t : Transition} {d : Delivery}
    (h : d ∈ sent ends k (Dispatch.dispatch settings timeout t ())) :
    d.notification = .ofTransition t :=
  notification_of_safe (Telling.dispatch settings timeout t) h

end UnitWatch.Dispatch
