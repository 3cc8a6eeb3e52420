import Mathlib.Data.NNRat.Defs
import UnitWatch.Proofs.Dispatch.Sends
import UnitWatch.Proofs.Number.Rounding
import UnitWatch.Proofs.Settings.Document

/-!
# A dispatch in time

What a dispatch does on a clock that runs exactly, whatever the notifiers do.

**Reactions.** To each send its notifier reacts in its own way (`Reaction`): the send ends by itself
after a while, acknowledged or with a failure, or it hangs for good. A send that has not ended at
its deadline is given up there. If it would end at that very moment, either may come first.

**The timeline** (`Carried`). The sends are those that the rules call for, label by label. Each one
starts when the one before is over, and the dispatch is over when the last one is. Each is followed
by one notice, which says how it ended (`Sending.account`). The result is the number of sends that
were acknowledged before their deadline.

**Main result** (`carried_in_time`). Every dispatch with settings of a document comes to its end,
and has such a timeline, unless a send lasts exactly as long as it may.
-/

namespace UnitWatch

/-- Whether a span is over first. -/
def Span.isShorter : Span → Span → Bool
  | .seconds p, .seconds q => p < q
  | .seconds _, .endless => true
  | .endless, _ => false

namespace Dispatch

open Safe (Succeeds)
open UnitWatch.Span (isInstant)

/-! ## Deadlines -/

/-- When a send is given up, counted from its start. -/
def deadline (timeout : Span) : Span := Delivery.limit ⟨default, default, timeout⟩

theorem limit_eq_deadline (d : Delivery) : d.limit = deadline d.timeout := rfl

/-- **A deadline is one second after the reply is due**, as the number format has it: exactly so if
the format has the number, and otherwise so close that no number of the format stands in between. -/
theorem deadline_eq {t : Rat} (positive : 0 < t) (exact : Binary64.IsExact t) :
    ∃ limit, deadline (.seconds t) = .seconds limit ∧
      (Binary64.IsExact (t + 1) → limit = t + 1) ∧
      ∀ d : ℚ≥0, Binary64.IsExact d → (d : Rat) ≠ limit →
        ((d : Rat) < limit ↔ (d : Rat) < t + 1) := by
  obtain ⟨limit, rounded⟩ := Binary64.exists_toRat?_add_one exact positive
  have late : 1 ≤ t + 1 := by linarith
  refine ⟨limit, ?_, ?_, ?_⟩
  · show Span.ofBinary (.ofRat (t + 1)) = _
    rw [Span.ofBinary, rounded]
  · intro exact'
    rw [exact'] at rounded
    exact (Option.some.inj rounded).symm
  · intro d exact' differs
    exact Binary64.lt_iff_of_exact exact' d.2 late rounded differs

/-! ## Reactions -/

/-- What becomes of a send that nobody gives up. It is not stopped from outside. -/
inductive Reaction where
  | ends (after : ℚ≥0) (outcome : Outcome) (alive : outcome ≠ .failed .cancelled)
  | hangs

namespace Reaction

theorem acknowledged_alive : Outcome.acknowledged ≠ .failed .cancelled := nofun

/-- How long the send lasts. -/
def span : Reaction → Span
  | ends d _ _ => .seconds d
  | hangs => .endless

/-- The send is acknowledged before its deadline. -/
def acknowledgesWithin (limit : Span) : Reaction → Bool
  | ends d .acknowledged _ => (Span.seconds d).isShorter limit
  | _ => false

/-- How a send goes that has a deadline: how long it takes, and how it ends. -/
inductive Lapses (limit : Span) : Reaction → Rat → Outcome → Prop
  | ends (d : ℚ≥0) (o : Outcome) (alive : o ≠ .failed .cancelled)
      (first : limit.isShorter (.seconds d) = false) : Lapses limit (.ends d o alive) d o
  | abandoned (r : Reaction) (l : Rat) (limited : limit = .seconds l)
      (first : r.span.isShorter limit = false) : Lapses limit r l .overdue

variable {limit : Span} {r : Reaction} {lapse : Rat} {o : Outcome}

theorem Lapses.alive (h : r.Lapses limit lapse o) : o ≠ .failed .cancelled := by
  cases h with
  | ends _ _ alive _ => exact alive
  | abandoned => simp

/-- A send goes on somehow, unless it hangs and has no deadline. -/
theorem exists_lapses (h : r.span ≠ limit) : ∃ lapse o, r.Lapses limit lapse o := by
  cases limit with
  | endless =>
    cases r with
    | ends d o alive => exact ⟨d, o, .ends d o alive rfl⟩
    | hangs => exact absurd rfl h
  | seconds l =>
    by_cases late : r.span.isShorter (.seconds l) = true
    · cases r with
      | ends d o alive =>
        refine ⟨d, o, .ends d o alive ?_⟩
        simp only [span, Span.isShorter, decide_eq_true_eq] at late
        simpa [Span.isShorter] using late.le
      | hangs => cases late
    · exact ⟨l, .overdue, .abandoned r l rfl (by simpa using late)⟩

/-- A send that is over before its deadline ends by itself. -/
theorem Lapses.of_isShorter (h : r.Lapses limit lapse o) (early : r.span.isShorter limit = true) :
    ∃ (d : ℚ≥0) (alive : o ≠ .failed .cancelled), r = .ends d o alive ∧ lapse = d := by
  cases h with
  | ends d _ alive _ => exact ⟨d, alive, rfl, rfl⟩
  | abandoned _ _ _ first =>
    rw [first] at early
    cases early

/-- One that lasts longer than its deadline is given up there. -/
theorem Lapses.of_not_isShorter (h : r.Lapses limit lapse o) (untied : r.span ≠ limit)
    (late : r.span.isShorter limit = false) : limit = .seconds lapse ∧ o = .overdue := by
  cases h with
  | abandoned _ _ limited _ => exact ⟨limited, rfl⟩
  | ends d _ alive first =>
    cases limit with
    | endless => cases late
    | seconds l =>
      have above : (d : Rat) ≤ l := by simpa [Span.isShorter] using first
      have below : l ≤ (d : Rat) := by simpa [span, Span.isShorter] using late
      exact absurd (congrArg Span.seconds (le_antisymm above below)) untied

/-- What is acknowledged was acknowledged before the deadline. -/
theorem Lapses.acknowledged_iff (h : r.Lapses limit lapse o) (untied : r.span ≠ limit) :
    o = .acknowledged ↔ r.acknowledgesWithin limit = true := by
  cases early : r.span.isShorter limit with
  | true =>
    obtain ⟨d, alive, rfl, -⟩ := h.of_isShorter early
    cases o <;> simp_all [acknowledgesWithin, span]
  | false =>
    obtain ⟨-, rfl⟩ := h.of_not_isShorter untied early
    refine iff_of_false (by simp) ?_
    cases r with
    | ends d o alive => cases o <;> simp_all [acknowledgesWithin, span]
    | hangs => simp [acknowledgesWithin]

end Reaction

/-! ## Timelines -/

/-- A send that is over. -/
structure Sending where
  delivery : Delivery
  start : Moment
  finish : Moment
  outcome : Outcome

namespace Sending

def isAcknowledged (x : Sending) : Bool :=
  match x.outcome with
  | .acknowledged => true
  | _ => false

/-- Whether a failure is one that notifying can be expected to have. -/
def isExpected : Failure → Bool
  | .fault f => f.lineage.contains "NotificationError"
  | _ => false

/-- The notice that a send calls for, by the way it ended. -/
def account (x : Sending) : Notice :=
  let n := x.delivery.notifier
  let unit := x.delivery.notification.unit
  match x.outcome with
  | .acknowledged => .sent n x.delivery.notification
  | .overdue => .timedOut n (.float x.delivery.timeout.toBinary) unit
  | .failed (.fault (.notifierTimeout _ seconds)) => .timedOut n seconds unit
  | .failed f => if isExpected f then .undelivered n unit f.message else .broken n unit f.message

/-- A send is accounted for under one of four names; it is said to be sent only if it was
acknowledged. -/
theorem event_account (x : Sending) :
    x.account.record.event ∈ ["notify_sent", "notify_timeout", "notify_failed", "notify_error"] ∧
      (x.account.record.event = "notify_sent" ↔ x.outcome = .acknowledged) := by
  unfold account
  dsimp only
  split
  · next h => simp [Notice.record, h]
  · next h => simp [Notice.record, h]
  · next h => simp [Notice.record, h]
  · next h => split <;> simp [Notice.record, h]

end Sending

/-- What is seen of a dispatch: a send, when it is over, and what is noted. -/
inductive Entry where
  | sent (x : Sending)
  | noted (n : Notice)

/-- A send and its notice. -/
def Sending.entries (x : Sending) : List Entry := [.sent x, .noted x.account]

structure Timeline where
  clock : Moment
  /-- How many sends there have been. -/
  begun : Nat := 0
  log : List Entry := []

namespace Timeline

def note (w : Timeline) (n : Notice) : Timeline := { w with log := w.log ++ [.noted n] }

/-- A send has begun, and is over after a while. -/
def send (w : Timeline) (d : Delivery) (lapse : Rat) (o : Outcome) : Timeline where
  clock := w.clock + lapse
  begun := w.begun + 1
  log := w.log ++ [.sent ⟨d, w.clock, w.clock + lapse, o⟩]

/-- How requests are answered in time; the `k`-th send of all meets the `k`-th reaction. -/
inductive Answers (reactions : Nat → Reaction) :
    Timeline → (q : Request) → Answer q → Timeline → Prop
  | noted (w : Timeline) (n : Notice) : Answers reactions w (.note n) () (w.note n)
  | sent (w : Timeline) (d : Delivery) (lapse : Rat) (o : Outcome)
      (lasting : isInstant d.limit = false)
      (lapses : (reactions w.begun).Lapses d.limit lapse o) :
      Answers reactions w (.send d) o (w.send d lapse o)
  /-- A send whose limit is over at once does not even begin. -/
  | skipped (w : Timeline) (d : Delivery) (instant : isInstant d.limit = true) :
      Answers reactions w (.send d) Outcome.overdue w

end Timeline

/-- Notifiers with their reactions, as the surroundings of a dispatch. Time passes in sends only. -/
def timed (reactions : Nat → Reaction) : Environment Unit Answer Timeline where
  moves _ _ := False
  answers w _ q a w' := Timeline.Answers reactions w q a w'

/-- One send after the other: each starts when the one before is over, and meets its reaction. -/
def Scheduled (reactions : Nat → Reaction) : Nat → Moment → List Sending → Moment → Prop
  | _, t, [], t' => t' = t
  | k, t, x :: xs, t' =>
    x.start = t ∧ (reactions k).Lapses x.delivery.limit (x.finish - x.start) x.outcome ∧
      Scheduled reactions (k + 1) x.finish xs t'

namespace Scheduled

variable {reactions : Nat → Reaction} {k : Nat} {t t' : Moment} {xs : List Sending}

theorem consecutive (h : Scheduled reactions k t xs t') :
    xs.map (·.start) ++ [t'] = t :: xs.map (·.finish) := by
  induction xs generalizing k t with
  | nil => simpa [Scheduled] using h
  | cons x xs ih =>
    obtain ⟨starts, -, rest⟩ := h
    simp [starts, ih rest]

theorem lapses (h : Scheduled reactions k t xs t') {i : Nat} {x : Sending} (hx : xs[i]? = some x) :
    (reactions (k + i)).Lapses x.delivery.limit (x.finish - x.start) x.outcome := by
  induction xs generalizing k t i with
  | nil => simp at hx
  | cons y ys ih =>
    obtain ⟨-, first, rest⟩ := h
    cases i with
    | zero =>
      obtain rfl : y = x := by simpa using hx
      exact first
    | succ i =>
      have later := ih rest (by simpa using hx)
      rwa [show k + 1 + i = k + (i + 1) by omega] at later

/-- The acknowledged sends are those that were acknowledged before their deadlines. -/
theorem countP (h : Scheduled reactions k t xs t') {limit : Span}
    (limited : ∀ x ∈ xs, x.delivery.limit = limit) (untied : ∀ k, (reactions k).span ≠ limit) :
    xs.countP (·.isAcknowledged) =
      (List.range' k xs.length).countP fun i => (reactions i).acknowledgesWithin limit := by
  induction xs generalizing k t with
  | nil => rfl
  | cons x xs ih =>
    obtain ⟨-, first, rest⟩ := h
    rw [List.forall_mem_cons] at limited
    rw [limited.1] at first
    have same : x.isAcknowledged = (reactions k).acknowledgesWithin limit := by
      rw [Bool.eq_iff_iff, ← first.acknowledged_iff (untied k)]
      unfold Sending.isAcknowledged
      split <;> simp_all
    rw [List.length_cons, List.range'_succ, List.countP_cons, List.countP_cons, same,
      ih rest limited.2]

end Scheduled

/-! ## Running a dispatch -/

/-- Something that can be answered. -/
def Answerable (reactions : Nat → Reaction) (w : Timeline) (_ : Unit) (q : Request) : Prop :=
  ∃ a w', Timeline.Answers reactions w q a w'

variable {reactions : Nat → Reaction} {timeout : Span}

theorem stable_timed (P : Timeline → Prop) : (timed reactions).Stable P := fun _ _ step => step.elim

/-- A note, and then the end. -/
theorem note_timed {α : Type} (n : Notice) (a : α) (w : Timeline) :
    Safe (timed reactions) (Answerable reactions) (Succeeds fun w' _ r => w' = w.note n ∧ r = a)
      ((note n >>= fun _ => Action.pure a) ()) w := by
  refine Safe.ask (stable_timed (· = w)) rfl (fun w _ => ⟨(), _, .noted w n⟩) ?_
  rintro w _ w' rfl ans
  cases ans
  exact Safe.done (stable_timed (· = w.note n)) rfl fun w' h => ⟨h, rfl⟩

/-- A delivery is over: it stands on the timeline with its notice. -/
def Delivered (reactions : Nat → Reaction) (d : Delivery) (w w' : Timeline)
    (acknowledged : Bool) : Prop :=
  ∃ x : Sending, x.delivery = d ∧ Scheduled reactions w.begun w.clock [x] w'.clock ∧
    w'.begun = w.begun + 1 ∧ w'.log = w.log ++ x.entries ∧ acknowledged = x.isAcknowledged

/-- A send that is over is noted by its account. -/
theorem account_timed {w : Timeline} {d : Delivery} {lapse : Rat} {o : Outcome}
    (lapses : (reactions w.begun).Lapses d.limit lapse o) {x : Sending}
    (hx : x = ⟨d, w.clock, w.clock + lapse, o⟩) {n : Notice} {acknowledged : Bool}
    (account : n = x.account) (counts : acknowledged = x.isAcknowledged) :
    Safe (timed reactions) (Answerable reactions)
      (Succeeds fun w' _ a => Delivered reactions d w w' a)
      ((note n >>= fun _ => Action.pure acknowledged) ()) (w.send d lapse o) := by
  refine (note_timed n acknowledged _).weaken fun w' _ r hr => hr.imp ?_
  rintro a ⟨rfl, rfl⟩
  subst hx
  refine ⟨⟨d, w.clock, w.clock + lapse, o⟩, rfl, ⟨rfl, ?_, rfl⟩, rfl, ?_, counts⟩
  · simpa using lapses
  · simp [Timeline.note, Timeline.send, Sending.entries, account]

/-- One send takes its time, and is noted. -/
theorem deliver_timed (notification : Notification) (n : Notifier)
    (lasting : isInstant timeout = false) (untied : ∀ k, (reactions k).span ≠ deadline timeout)
    (w : Timeline) :
    Safe (timed reactions) (Answerable reactions)
      (Succeeds fun w' _ a => Delivered reactions ⟨n, notification, timeout⟩ w w' a)
      (deliver timeout notification n ()) w := by
  have begins : isInstant (Delivery.limit ⟨n, notification, timeout⟩) = false :=
    limit_not_instant lasting
  refine Safe.ask (stable_timed (· = w)) rfl ?_ ?_
  · rintro w rfl
    obtain ⟨lapse, o, lapses⟩ := Reaction.exists_lapses (untied w.begun)
    exact ⟨o, _, .sent w _ lapse o begins lapses⟩
  rintro w o w' rfl ans
  cases ans with
  | skipped _ instant =>
    rw [begins] at instant
    cases instant
  | sent _ lapse _ _ lapses =>
    cases o with
    | acknowledged => exact account_timed lapses rfl rfl rfl
    | overdue => exact account_timed lapses rfl rfl rfl
    | failed f =>
      cases f with
      | fault f =>
        -- A timeout has an account of its own; any other error is told by its class.
        have unanswered (account : (⟨⟨n, notification, timeout⟩, w.clock, w.clock + lapse,
              .failed (.fault f)⟩ : Sending).account =
            if f.lineage.contains "NotificationError" then
              .undelivered n notification.unit f.message
            else .broken n notification.unit f.message) :
            Safe (timed reactions) (Answerable reactions)
              (Succeeds fun w' _ a => Delivered reactions ⟨n, notification, timeout⟩ w w' a)
              ((do
                if f.lineage.contains "NotificationError" then
                  note (.undelivered n notification.unit f.message)
                else note (.broken n notification.unit f.message)
                return false : Step Bool) ())
              (w.send ⟨n, notification, timeout⟩ lapse (.failed (.fault f))) := by
          split at account
          · next expected =>
            rw [if_pos expected]
            exact account_timed lapses rfl account.symm rfl
          · next unexpected =>
            rw [if_neg unexpected]
            exact account_timed lapses rfl account.symm rfl
        cases f with
        | notifierTimeout _ seconds => exact account_timed lapses rfl rfl rfl
        | _ => exact unanswered rfl
      | crash c => exact account_timed lapses rfl rfl rfl
      | cancelled => exact absurd rfl lapses.alive

theorem deliverAll_timed (notification : Notification) (lasting : isInstant timeout = false)
    (untied : ∀ k, (reactions k).span ≠ deadline timeout) (ns : List Notifier) (w : Timeline) :
    Safe (timed reactions) (Answerable reactions)
      (Succeeds fun w' _ count => ∃ xs : List Sending,
        xs.map (·.delivery) = ns.map (fun n => ⟨n, notification, timeout⟩) ∧
          Scheduled reactions w.begun w.clock xs w'.clock ∧
          w'.log = w.log ++ xs.flatMap Sending.entries ∧ count = xs.countP (·.isAcknowledged))
      (deliverAll timeout notification ns ()) w := by
  induction ns generalizing w with
  | nil =>
    refine Safe.done (stable_timed (· = w)) rfl ?_
    rintro _ rfl
    exact ⟨[], rfl, rfl, by simp, rfl⟩
  | cons n ns ih =>
    refine (deliver_timed notification n lasting untied w).seq ?_
    rintro w₁ _ acknowledged ⟨x, told, scheduled, begun, log, rfl⟩
    refine (ih w₁).seq ?_
    rintro w₂ _ others ⟨xs, tolds, rest, logs, rfl⟩
    refine Safe.done (stable_timed (· = w₂)) rfl ?_
    rintro _ rfl
    obtain ⟨starts, lapses, finish⟩ := scheduled
    refine ⟨x :: xs, by simp [told, tolds], ⟨starts, lapses, ?_⟩, by simp [logs, log], ?_⟩
    · rwa [← begun, ← finish]
    · rw [List.countP_cons, Nat.add_comm]

/-- What is noted when all is sent. -/
def closing (settings : Settings) (t : Transition) (delivered : Nat) : Notice :=
  let rules := settings.matchingRules t.unit.scope t.unit.name t.current
  if rules.isEmpty then .unmatched t.unit t.current
  else .dispatched t.unit t.current rules.length delivered

theorem dispatch_timed (settings : Settings) (t : Transition) (lasting : isInstant timeout = false)
    (untied : ∀ k, (reactions k).span ≠ deadline timeout) (w : Timeline) :
    Safe (timed reactions) (Answerable reactions)
      (Succeeds fun w' _ count => ∃ xs : List Sending,
        xs.map (·.delivery) = required settings timeout t.unit.scope t ∧
          Scheduled reactions w.begun w.clock xs w'.clock ∧
          w'.log = w.log ++ xs.flatMap Sending.entries ++ [.noted (closing settings t count)] ∧
          count = xs.countP (·.isAcknowledged))
      (dispatch settings timeout t ()) w := by
  rw [required_eq]
  by_cases unmatched :
      (settings.matchingRules t.unit.scope t.unit.name t.current).isEmpty = true
  · have nothing : recipients settings t = [] := by
      rw [recipients, List.isEmpty_iff.1 unmatched]
      rfl
    simp only [dispatch, if_pos unmatched, nothing]
    refine (note_timed _ 0 w).weaken fun w' _ r hr => hr.imp ?_
    rintro count ⟨rfl, rfl⟩
    exact ⟨[], rfl, rfl, by simp [Timeline.note, closing, unmatched], rfl⟩
  · simp only [dispatch, if_neg unmatched]
    refine (deliverAll_timed (.ofTransition t) lasting untied (recipients settings t) w).seq ?_
    rintro w₁ _ delivered ⟨xs, told, scheduled, log, counts⟩
    refine (note_timed _ delivered w₁).weaken fun w' _ r hr => hr.imp ?_
    rintro count ⟨rfl, rfl⟩
    exact ⟨xs, told, scheduled, by simp [Timeline.note, closing, unmatched, log], counts⟩

/-! ## Addresses -/

/-- The labels that an event calls for: of each rule that is about it, in declared order, all that
are listed. -/
def labels (settings : Settings) (t : Transition) : List String :=
  settings.rules.flatMap fun rule =>
    if rule.scope = t.unit.scope ∧ t.current ∈ rule.states ∧
        rule.expression.selects t.unit.name = true then
      rule.labels
    else []

/-- With settings of a document, every label has an address, and is sent to it. -/
theorem required_by_labels {v : Value} {settings : Settings}
    (read : Settings.ofDocument v = .ok settings) (timeout : Span) (t : Transition) :
    (required settings timeout t.unit.scope t).map some = (labels settings t).map fun label =>
      (settings.notifier? label).map fun n => ⟨n, .ofTransition t, timeout⟩ := by
  have named : ∀ rule ∈ settings.rules, ∀ n ∈ rule.notifiers,
      settings.notifier? n.label = some n := fun _ hr _ hn =>
    Settings.notifier?_of_ofDocument read hr hn
  unfold required labels
  rw [List.map_flatMap, List.map_flatMap]
  refine List.flatMap_congr fun rule hr => ?_
  split
  · rw [Rule.labels, List.map_map, List.map_map]
    refine List.map_congr_left fun n hn => ?_
    simp [named rule hr n hn]
  · rfl

/-! ## The result -/

/-- What has become of a dispatch that began at a moment, with its sends. -/
structure Carried (settings : Settings) (timeout : Span) (t : Transition)
    (reactions : Nat → Reaction) (now : Moment) (sends : List Sending)
    (result : Except Failure Nat) (w : Timeline) : Prop where
  /-- The sends are those that the rules call for, each to the address of its label. -/
  addressed : sends.map (fun x => some x.delivery) = (labels settings t).map fun label =>
    (settings.notifier? label).map fun n => ⟨n, .ofTransition t, timeout⟩
  /-- Each send starts when the one before is over, and the dispatch is over with the last one. -/
  consecutive : sends.map (·.start) ++ [w.clock] = now :: sends.map (·.finish)
  /-- A send that is over before its deadline ends by itself. -/
  early : ∀ k x, sends[k]? = some x → (reactions k).span.isShorter (deadline timeout) = true →
    ∃ (d : ℚ≥0) (alive : x.outcome ≠ .failed .cancelled),
      reactions k = .ends d x.outcome alive ∧ x.finish = x.start + (d : Rat)
  /-- Any other send is given up at its deadline. -/
  late : ∀ k x, sends[k]? = some x → (reactions k).span.isShorter (deadline timeout) = false →
    ∃ limit, deadline timeout = .seconds limit ∧ x.finish = x.start + limit ∧
      x.outcome = .overdue
  /-- The result is the number of sends that were acknowledged before their deadline. -/
  counted : result = .ok ((List.range sends.length).countP fun k =>
    (reactions k).acknowledgesWithin (deadline timeout))
  /-- Each send is followed by its notice, and there is one more at the end. -/
  noted : ∃ count, w.log = sends.flatMap Sending.entries ++ [.noted (closing settings t count)] ∧
    result = .ok count
  /-- Its notice goes by one of four names; by `notify_sent` only if the send was acknowledged. -/
  named : ∀ x ∈ sends,
    x.account.record.event ∈ ["notify_sent", "notify_timeout", "notify_failed", "notify_error"] ∧
      (x.account.record.event = "notify_sent" ↔ x.outcome = .acknowledged)

/-- **A dispatch in time.** With settings of a document, a dispatch comes to its end, whatever the
notifiers do, and its sends are carried out one after the other. A deadline is one second after the
reply is due. -/
theorem carried_in_time {v : Value} {settings : Settings}
    (read : Settings.ofDocument v = .ok settings) (t : Transition)
    (lasting : isInstant timeout = false) (untied : ∀ k, (reactions k).span ≠ deadline timeout)
    (now : Moment) :
    (∃ result w, Concludes (timed reactions) (dispatch settings timeout t ()) { clock := now } ()
      result w) ∧
    (∀ result w, Concludes (timed reactions) (dispatch settings timeout t ()) { clock := now } ()
      result w → ∃ sends, Carried settings timeout t reactions now sends result w) ∧
    ∀ seconds, timeout = .seconds seconds → Binary64.IsExact seconds →
      ∃ limit, deadline timeout = .seconds limit ∧
        (Binary64.IsExact (seconds + 1) → limit = seconds + 1) ∧
        ∀ d : ℚ≥0, Binary64.IsExact d → (d : Rat) ≠ limit →
          ((d : Rat) < limit ↔ (d : Rat) < seconds + 1) := by
  have safe := dispatch_timed settings t lasting untied { clock := now }
  refine ⟨?_, ?_, ?_⟩
  · obtain ⟨_, result, w, ends⟩ := safe.exists_concludes fun _ _ _ answerable => answerable
    exact ⟨result, w, ends⟩
  · intro result w ends
    have post := safe.post_of_concludes ends
    cases result with
    | error f => exact post.elim
    | ok count =>
      obtain ⟨sends, told, scheduled, log, counts⟩ := post
      -- Every send has the limit of the dispatch, so its lapse is one within the deadline.
      have limited : ∀ x ∈ sends, x.delivery.limit = deadline timeout := by
        intro x hx
        rw [limit_eq_deadline, timeout_of_required (told ▸ List.mem_map_of_mem hx)]
      have lapses (k : Nat) (x : Sending) (hx : sends[k]? = some x) :
          (reactions k).Lapses (deadline timeout) (x.finish - x.start) x.outcome := by
        have h := scheduled.lapses hx
        rwa [Nat.zero_add, limited x (List.mem_of_getElem? hx)] at h
      refine ⟨sends, ?_, scheduled.consecutive, ?_, ?_, ?_, ⟨count, by simpa using log, rfl⟩,
        fun x _ => x.event_account⟩
      · rw [← required_by_labels read, ← told, List.map_map]
        rfl
      · intro k x hx early
        obtain ⟨d, alive, reacts, lapse⟩ := (lapses k x hx).of_isShorter early
        exact ⟨d, alive, reacts, by linarith⟩
      · intro k x hx late
        obtain ⟨limit, overdue⟩ := (lapses k x hx).of_not_isShorter (untied k) late
        exact ⟨_, limit, (add_sub_cancel _ _).symm, overdue⟩
      · rw [counts, scheduled.countP limited untied, List.range_eq_range']
  · rintro seconds rfl exact
    exact deadline_eq (by simpa [isInstant] using lasting) exact

/-! ## Three sends -/

/-- Two rules about one unit. The first names a notifier twice, the second is about another
state. -/
def onCall : Value := .object
  [("version", .int 1),
   ("rules", .list [
     .object [("bus_type", .text "system"), ("active_states", .texts ["failed"]),
       ("expression", .text "web.service"), ("expression_type", .text "unit name"),
       ("notifiers", .texts ["pager", "mail", "pager"])],
     .object [("bus_type", .text "system"), ("active_states", .texts ["inactive"]),
       ("expression", .text ".service"), ("expression_type", .text "unit type"),
       ("notifiers", .texts ["mail"])]]),
   ("notifiers", .object [
     ("mail", .object [("bus_type", .text "session"), ("bus_name", .text "org.example.Mail")]),
     ("pager", .object [("bus_type", .text "system"), ("bus_name", .text "org.example.Pager")])])]

/-- The settings of the document. -/
def onCallSettings : Settings :=
  let mail : Notifier := ⟨"mail", .session, "org.example.Mail"⟩
  let pager : Notifier := ⟨"pager", .system, "org.example.Pager"⟩
  { rules := [⟨.system, [.failed], .unitName "web.service", [pager, mail, pager]⟩,
      ⟨.system, [.inactive], .unitType ".service", [mail]⟩]
    notifiers := [mail, pager] }

/-- The unit fails. -/
def outage : Transition := ⟨⟨.system, "web.service"⟩, .active, .failed, 0⟩

/-- The first send hangs, the second is acknowledged in half a second, and later ones crash after a
second. -/
def mixed : Nat → Reaction
  | 0 => .hangs
  | 1 => .ends (1 / 2) .acknowledged Reaction.acknowledged_alive
  | _ => .ends 1 (.failed (.crash (.runtime "no bus"))) (by simp)

/-- The send that hangs is given up after six seconds; the others are carried out all the same. -/
theorem carried_past_trouble :
    Settings.ofDocument onCall = .ok onCallSettings ∧ deadline (.seconds 5) = .seconds 6 ∧
      ∃ w, Concludes (timed mixed) (dispatch onCallSettings (.seconds 5) outage ())
        { clock := 0 } () (.ok 1) w ∧ w.clock = 15 / 2 := by
  have read : Settings.ofDocument onCall = .ok onCallSettings := rfl
  have limit : deadline (.seconds 5) = .seconds 6 := by
    obtain ⟨limit, same, exact, -⟩ := deadline_eq (t := 5) (by norm_num) (by decide +kernel)
    rw [same, exact (by decide +kernel)]
    norm_num
  have untied : ∀ k, (mixed k).span ≠ deadline (.seconds 5) := by
    rw [limit]
    rintro (_ | _ | k)
    · simp [mixed, Reaction.span]
    · simp only [mixed, Reaction.span, ne_eq, Span.seconds.injEq]
      norm_num
    · simp only [mixed, Reaction.span, ne_eq, Span.seconds.injEq]
      norm_num
  obtain ⟨⟨result, w, ends⟩, carried, -⟩ := carried_in_time read outage rfl untied 0
  obtain ⟨sends, h⟩ := carried result w ends
  have called : labels onCallSettings outage = ["pager", "mail", "pager"] := by decide +kernel
  -- Who is called, and how many of them answer.
  have three : sends.length = 3 := by
    calc sends.length = (labels onCallSettings outage).length := by
          rw [← List.length_map, h.addressed, List.length_map]
      _ = 3 := congrArg List.length called
  have one : (List.range 3).countP (fun k => (mixed k).acknowledgesWithin (.seconds 6)) = 1 := by
    decide +kernel
  have counted := h.counted
  rw [three, limit, one] at counted
  subst counted
  -- When each of the three ends, the next one begins.
  obtain ⟨a, b, c, rfl⟩ := List.length_eq_three.1 three
  obtain ⟨six, given, ha, -⟩ := h.late 0 a rfl (by rw [limit]; rfl)
  obtain ⟨half, _, reacts, hb⟩ := h.early 1 b rfl (by rw [limit]; decide +kernel)
  obtain ⟨one, _, reacts', hc⟩ := h.early 2 c rfl (by rw [limit]; decide +kernel)
  obtain rfl : 6 = six := Span.seconds.inj (limit.symm.trans given)
  obtain rfl : 1 / 2 = half := (Reaction.ends.inj reacts).1
  obtain rfl : 1 = one := (Reaction.ends.inj reacts').1
  have times : [a.start, b.start, c.start, w.clock] = [0, a.finish, b.finish, c.finish] :=
    h.consecutive
  simp only [List.cons.injEq] at times
  obtain ⟨hs, hs', hs'', clock, -⟩ := times
  refine ⟨read, limit, w, ends, ?_⟩
  rw [clock, hc, hs'', hb, hs', ha, hs]
  norm_num

end Dispatch

end UnitWatch
