import UnitWatch.Proofs.Session.Following
import UnitWatch.Proofs.Session.Replay
import UnitWatch.Proofs.Session.Unbroken

/-!
# The events of a unit are its history

One unit stays loaded while a connection watches it, and changes its state whenever it likes. The
events that the session yields for it are the changes of its history, from the state that was
fetched on; or from the subscription on, if the state that was fetched is none of the five.

**The chronicle** keeps the unit's states, the moments when it was subscribed to and its state was
fetched, the signals that are queued, and the events that signals have brought. Changes after the
subscription are queued in order; the state that is fetched is the current one. What happens to
other units is of no interest, and is left open.

**The invariant** (`Told`): the events so far, and those that the entry will make of the changes
that are still queued (`Entry.replay`), are together what the states call for.
-/

namespace UnitWatch.Session

structure Chronicle where
  /-- The states of the unit, the first one first. -/
  history : List RawState
  /-- How many states there were when the unit was subscribed to. -/
  subscribed : Option Nat
  /-- Which of the states was fetched. -/
  fetched : Option Nat
  queue : List Signal
  /-- Whether the session has begun to take signals. -/
  listening : Bool
  /-- The events about the unit that signals have brought. -/
  events : List Transition

/-- The recognised states among raw ones. -/
def reports (l : List RawState) : List Report := l.filterMap RawState.report?

theorem reports_append (l l' : List RawState) : reports (l ++ l') = reports l ++ reports l' :=
  List.filterMap_append

/-- The changes of a unit that are queued. -/
def queued (u : String) (q : List Signal) : List RawState := q.flatMap (Signal.changeOf u)

namespace Chronicle

/-- The states whose changes are events: from the one that was fetched on, if it is one of the five,
and otherwise those that were signalled since the subscription. -/
def baseline (w : Chronicle) : List RawState :=
  match w.subscribed, w.fetched with
  | some n, some k =>
    if ((w.history[k]?).bind RawState.report?).isSome then w.history.drop k else w.history.drop n
  | _, _ => []

/-! ## Around a session -/

inductive Moves (u : String) : Chronicle → Chronicle → Prop
  | change (w : Chronicle) (x : RawState) (unit : x.unit = u) (stamped : IsStamped x)
      (newer : ∀ y ∈ w.history, IsNewer x y) :
      Moves u w { w with
        history := w.history ++ [x]
        queue := if w.subscribed.isSome then w.queue ++ [.changed x] else w.queue }
  /-- A signal that is not about this unit, or that says that it is loaded. -/
  | signal (w : Chronicle) (s : Signal) (silent : s.changeOf u = []) (stays : s ≠ .removed u) :
      Moves u w { w with queue := w.queue ++ [s] }

inductive Answers {η : Type} (u : String) :
    Chronicle → (q : Request η) → Answer q → Chronicle → Prop
  | opened (w) : Answers u w .open (.ok () : Except Failure Unit) w
  | connected (w) : Answers u w .connect (.ok () : Except Failure Unit) w
  | subscribedManager (w) : Answers u w .subscribeManager (.ok () : Except Failure Unit) w
  | listed (w) (units : List String) (nodup : units.Nodup) (loaded : u ∈ units) :
      Answers u w .listUnits (.ok units : Except Failure (List String)) w
  | subscribed (w) (h : η) :
      Answers u w (.subscribe u) (.ok h : Except Failure η)
        { w with subscribed := some w.history.length }
  | fetched (w) (x : RawState) (last : w.history.getLast? = some x) :
      Answers u w (.fetch u) (.ok x : Except Failure RawState)
        { w with fetched := some (w.history.length - 1) }
  | subscribedOther (w) (v : String) (h : η) (other : v ≠ u) :
      Answers u w (.subscribe v) (.ok h : Except Failure η) w
  | notSubscribed (w) (v call reason : String) (name : Option String) (other : v ≠ u) :
      Answers u w (.subscribe v) (.error (callFailure call reason name) : Except Failure η) w
  | fetchedOther (w) (v : String) (x : RawState) (other : v ≠ u) (unit : x.unit = v) :
      Answers u w (.fetch v) (.ok x : Except Failure RawState) w
  | notFetched (w) (v call reason : String) (name : Option String) (other : v ≠ u) :
      Answers u w (.fetch v) (.error (callFailure call reason name) : Except Failure RawState) w
  | unsubscribed (w) (h : η) : Answers u w (.unsubscribe h) (.ok () : Except Failure Unit) w
  | notUnsubscribed (w) (h : η) (f : BusFault) :
      Answers u w (.unsubscribe h) (.error (.fault (.bus f)) : Except Failure Unit) w
  | signalled (w) (s : Signal) (rest : List Signal) (first : w.queue = s :: rest) :
      Answers u w .nextSignal (.ok s : Except Failure Signal)
        { w with queue := rest, listening := true }
  | taken (w) (t : Transition) :
      Answers u w (.emit t) (.ok () : Except Failure Unit)
        { w with events :=
          if w.listening ∧ t.unit.name = u then w.events ++ [t] else w.events }
  | time (w) (now : Microseconds) : Answers u w .clock now w
  | noted (w) (n : Notice) : Answers u w (.note n) () w

/-- A service manager, as far as one unit is concerned, as the surroundings of a session. -/
def around {η : Type} (u : String) : Around η Chronicle where
  moves := Moves u
  answers w _ q a w' := Answers u w q a w'

/-! ## The unit -/

/-- The unit is loaded and its history is a history. -/
structure Lives (u : String) (w : Chronicle) : Prop where
  loaded : w.history ≠ []
  named : ∀ x ∈ w.history, x.unit = u
  stamped : ∀ x ∈ w.history, IsStamped x
  increasing : w.history.Pairwise fun x y => IsNewer y x
  stays : .removed u ∉ w.queue

variable {u : String} {w w' : Chronicle}

theorem Lives.moves (h : Lives u w) (step : Moves u w w') : Lives u w' := by
  cases step with
  | change x unit stamped newer =>
    refine ⟨by simp, ?_, ?_, ?_, ?_⟩
    · exact List.forall_mem_append.2 ⟨h.named, by simpa using unit⟩
    · exact List.forall_mem_append.2 ⟨h.stamped, by simpa using stamped⟩
    · exact List.pairwise_append.2 ⟨h.increasing, by simp, by simpa using newer⟩
    · have stays := h.stays
      split <;> simpa using stays
  | signal s silent stays =>
    exact { h with stays := by simpa [h.stays] using Ne.symm stays }

/-- Reports of the history come in the order of their timestamps. -/
theorem Lives.ordered (h : Lives u w) {l : List RawState} (sub : l.Sublist w.history) :
    (reports l).Pairwise Report.Before := by
  refine List.pairwise_filterMap.2 ((h.increasing.sublist sub).imp_of_mem ?_)
  intro x y hx hy newer r hr r' hr'
  obtain ⟨t, ht⟩ := (h.stamped x (sub.subset hx)).monotonic hr
  obtain ⟨t', ht'⟩ := (h.stamped y (sub.subset hy)).monotonic hr'
  exact ⟨t, t', ht, ht', newer t' t (RawState.monotonic_of_report hr' ▸ ht')
    (RawState.monotonic_of_report hr ▸ ht)⟩

/-! ## The invariant -/

/-- The unit has not been subscribed to. -/
structure Unseen (u : String) (w : Chronicle) : Prop extends Lives u w where
  subscribed : w.subscribed = none
  fetched : w.fetched = none
  events : w.events = []
  queued : queued u w.queue = []

/-- The unit has been subscribed to: what is queued is what it has entered since. -/
structure Awaited (u : String) (w : Chronicle) : Prop extends Lives u w where
  place : ∃ n, w.subscribed = some n ∧ n ≤ w.history.length ∧
    queued u w.queue = w.history.drop n
  fetched : w.fetched = none
  events : w.events = []

/-- The unit has an entry. The events so far, those that the session has in its `hand`, and those
that the entry will make of what is queued are what the states call for. -/
structure Told {η : Type} (u : String) (scope : BusScope) (hand : List Transition) (e : Entry η)
    (w : Chronicle) : Prop extends Lives u w where
  place : ∃ n k, w.subscribed = some n ∧ w.fetched = some k ∧ n ≤ w.history.length ∧
    k < w.history.length
  unit : e.unit = ⟨scope, u⟩
  knows : (e.settle (reports (queued u w.queue))).Knows (reports w.baseline)
  pairs : (w.events ++ hand).map Transition.states ++ e.replay (reports (queued u w.queue)) =
    changes ((reports w.baseline).map (·.state))
  units : ∀ t ∈ w.events ++ hand, t.unit = ⟨scope, u⟩

theorem queued_concat (u : String) (q : List Signal) (s : Signal) :
    Session.queued u (q ++ [s]) = Session.queued u q ++ s.changeOf u := by
  simp [Session.queued]

/-- A state that is entered is one more to call for events. -/
theorem baseline_change {n k : Nat} (hn : w.subscribed = some n) (hk : w.fetched = some k)
    (ln : n ≤ w.history.length) (lk : k < w.history.length) (x : RawState) (q : List Signal) :
    baseline { w with history := w.history ++ [x], queue := q } = w.baseline ++ [x] := by
  simp only [baseline, hn, hk, List.getElem?_append_left lk]
  split
  · rw [List.drop_append_of_le_length (Nat.le_of_lt lk)]
  · rw [List.drop_append_of_le_length ln]

theorem baseline_sublist (w : Chronicle) : w.baseline.Sublist w.history := by
  unfold baseline
  split
  · split <;> exact List.drop_sublist _ _
  · exact List.nil_sublist _

theorem Unseen.moves (h : Unseen u w) (step : Moves u w w') : Unseen u w' := by
  have lives := h.toLives.moves step
  cases step with
  | change x unit stamped newer =>
    exact { lives with
      subscribed := h.subscribed
      fetched := h.fetched
      events := h.events
      queued := by simpa [h.subscribed] using h.queued }
  | signal s silent stays =>
    exact { lives with
      subscribed := h.subscribed
      fetched := h.fetched
      events := h.events
      queued := by rw [queued_concat, h.queued, silent, List.append_nil] }

theorem Awaited.moves (h : Awaited u w) (step : Moves u w w') : Awaited u w' := by
  have lives := h.toLives.moves step
  obtain ⟨n, hn, ln, hq⟩ := h.place
  cases step with
  | change x unit stamped newer =>
    refine { lives with fetched := h.fetched, events := h.events, place := ⟨n, hn, ?_, ?_⟩ }
    · simp only [List.length_append]
      omega
    · simp only [hn, Option.isSome_some, if_true]
      rw [queued_concat, hq, List.drop_append_of_le_length ln, Signal.changeOf, if_pos unit]
  | signal s silent stays =>
    refine { lives with fetched := h.fetched, events := h.events, place := ⟨n, hn, ln, ?_⟩ }
    rw [queued_concat, hq, silent, List.append_nil]

theorem Told.moves {η : Type} {scope : BusScope} {hand : List Transition} {e : Entry η}
    (h : Told u scope hand e w) (step : Moves u w w') : Told u scope hand e w' := by
  have lives := h.toLives.moves step
  obtain ⟨n, k, hn, hk, ln, lk⟩ := h.place
  cases step with
  | signal s silent stays =>
    refine { lives with
      place := h.place, unit := h.unit, knows := ?_, pairs := ?_, units := h.units }
    · rw [queued_concat, silent, List.append_nil]
      exact h.knows
    · rw [queued_concat, silent, List.append_nil]
      exact h.pairs
  | change x unit stamped newer =>
    have queue : (if w.subscribed.isSome then w.queue ++ [.changed x] else w.queue) =
        w.queue ++ [.changed x] := by rw [hn]; rfl
    rw [queue] at lives ⊢
    -- The change is queued last, and it is later than all that the entry is told before.
    have hq : Session.queued u (w.queue ++ [.changed x]) = Session.queued u w.queue ++ [x] := by
      rw [queued_concat, Signal.changeOf, if_pos unit]
    have hb := baseline_change hn hk ln lk x (w.queue ++ [.changed x])
    have order := lives.ordered (baseline_sublist _)
    rw [hb, reports_append] at order
    have later := h.knows.replay order
    refine { lives with
      place := ⟨n, k, hn, hk, ?_, ?_⟩
      unit := h.unit, knows := ?_, pairs := ?_, units := h.units }
    · simp only [List.length_append]
      omega
    · simp only [List.length_append]
      omega
    · rw [hq, hb, reports_append, reports_append, Entry.settle_append]
      exact later.1
    · rw [hq, hb, reports_append, reports_append, Entry.replay_append, later.2, ← h.pairs,
        List.append_assoc]

/-! ### From phase to phase -/

theorem Unseen.subscribe (h : Unseen u w) :
    Awaited u { w with subscribed := some w.history.length } :=
  { h.toLives with
    place := ⟨w.history.length, rfl, Nat.le_refl _, by
      rw [List.drop_length]
      exact h.queued⟩
    fetched := h.fetched
    events := h.events }

section

variable {η : Type} {scope : BusScope} {hand : List Transition} {e : Entry η} {x : RawState}

/-- What was entered before the state that was fetched is stale. -/
theorem Lives.stale (h : Lives u w) (last : w.history.getLast? = some x) {r : Report}
    (hr : x.report? = some r) (unit : UnitId) (k : η) :
    ∀ p ∈ reports w.history, (Entry.first unit k x).isStale p.monotonic = true := by
  intro p hp
  obtain ⟨y, hy, hyp⟩ := List.mem_filterMap.1 hp
  obtain ⟨init, hi⟩ := List.getLast?_eq_some_iff.1 last
  obtain ⟨t, ht⟩ := (h.stamped x (List.mem_of_getLast? last)).monotonic hr
  obtain ⟨t', ht'⟩ := (h.stamped y hy).monotonic hyp
  refine Entry.isStale_iff.2 ⟨t', t, ht', by simp [Entry.first, hr, ht], ?_⟩
  have increasing := h.increasing
  rw [hi] at increasing hy
  rcases List.mem_append.1 hy with hy | hy
  · have newer := (List.pairwise_append.1 increasing).2.2 y hy x (List.mem_singleton.2 rfl)
    exact Int.le_of_lt (newer t t' (RawState.monotonic_of_report hr ▸ ht)
      (RawState.monotonic_of_report hyp ▸ ht'))
  · rw [List.mem_singleton.1 hy, hr] at hyp
    cases hyp
    rw [ht] at ht'
    cases ht'
    exact Int.le_refl t

/-- The state that was fetched makes the entry. -/
theorem Awaited.fetch (h : Awaited u w) (last : w.history.getLast? = some x) (k : η) :
    Told u scope [] (Entry.first ⟨scope, u⟩ k x)
      { w with fetched := some (w.history.length - 1) } := by
  obtain ⟨n, hn, ln, hq⟩ := h.place
  have positive : 0 < w.history.length := List.length_pos_iff.2 h.loaded
  have found : w.history[w.history.length - 1]? = some x := by
    rw [← List.getLast?_eq_getElem?, last]
  cases hr : x.report? with
  | some r =>
    -- What is queued was reported before the fetch, so the entry will take none of it.
    have stale (p : Report) (hp : p ∈ reports (queued u w.queue)) :
        (Entry.first ⟨scope, u⟩ k x).isStale p.monotonic = true := by
      rw [hq] at hp
      exact h.stale last hr ⟨scope, u⟩ k p (((List.drop_sublist n _).filterMap _).subset hp)
    have lost := Entry.replay_of_stale stale
    have hb : reports (baseline { w with fetched := some (w.history.length - 1) }) = [r] := by
      obtain ⟨init, hi⟩ := List.getLast?_eq_some_iff.1 last
      simp only [baseline, hn, found, Option.bind_some, hr, Option.isSome_some, if_true]
      simp [hi, reports, hr]
    refine { h.toLives with
      place := ⟨n, w.history.length - 1, hn, rfl, ln, Nat.sub_lt positive Nat.one_pos⟩
      unit := rfl, knows := ?_, pairs := ?_, units := by simp [h.events] }
    · rw [lost.2, hb]
      exact ⟨by simp [Entry.first, hr], by simp [Entry.first, hr]⟩
    · rw [lost.1, hb, h.events]
      rfl
  | none =>
    have hb : baseline { w with fetched := some (w.history.length - 1) } = queued u w.queue := by
      simp only [baseline, hn, found, Option.bind_some, hr, hq]
      rfl
    -- A state that is no report leaves the entry pending, until what is queued settles it.
    have knows : (Entry.first ⟨scope, u⟩ k x).Knows [] :=
      ⟨by simp [Entry.first, hr], by simp [Entry.first, hr]⟩
    have order := h.ordered (hq ▸ List.drop_sublist n _ : (queued u w.queue).Sublist w.history)
    have order : ([] ++ reports (queued u w.queue)).Pairwise Report.Before := by simpa using order
    have later := knows.replay order
    refine { h.toLives with
      place := ⟨n, w.history.length - 1, hn, rfl, ln, Nat.sub_lt positive Nat.one_pos⟩
      unit := rfl, knows := ?_, pairs := ?_, units := by simp [h.events] }
    · rw [hb]
      exact later.1
    · rw [hb, h.events]
      exact later.2.symm

/-- A signal that tells no change of the unit is taken. -/
theorem Told.skip {s : Signal} (h : Told u scope hand e { w with queue := s :: w.queue })
    (silent : s.changeOf u = []) : Told u scope hand e w := by
  have hq : queued u (s :: w.queue) = queued u w.queue := by
    rw [queued, List.flatMap_cons, silent]
    rfl
  have knows := h.knows
  have pairs := h.pairs
  simp only [hq] at knows pairs
  exact ⟨{ h.toLives with stays := fun hr => h.stays (List.mem_cons_of_mem _ hr) },
    h.place, h.unit, knows, pairs, h.units⟩

/-- A change of the unit is taken. The entry may make an event of it. -/
theorem Told.heed {r : Report} (h : Told u scope [] e { w with queue := .changed x :: w.queue })
    (hx : x.unit = u) (hr : x.report? = some r) (now : Microseconds) :
    Told u scope (e.update r now).2.toList (e.update r now).1 w := by
  have hq : reports (queued u (.changed x :: w.queue)) = r :: reports (queued u w.queue) := by
    simp [queued, Signal.changeOf, hx, reports, hr]
  have knows := h.knows
  have pairs := h.pairs
  simp only [hq, Entry.settle, List.foldl_cons, Entry.replay] at knows pairs
  refine ⟨{ h.toLives with stays := fun hm => h.stays (List.mem_cons_of_mem _ hm) }, h.place,
    (e.update_unit r now).trans h.unit, ?_, ?_, ?_⟩
  · rw [Entry.update_fst_eq]
    exact knows
  · have event : (e.event? r).toList = (e.update r now).2.toList.map Transition.states := by
      rw [← e.states_of_update r now]
      cases (e.update r now).2 <;> rfl
    rw [List.append_nil, event, ← List.append_assoc] at pairs
    rw [List.map_append, Entry.update_fst_eq]
    exact pairs
  · intro t ht
    rcases List.mem_append.1 ht with ht | ht
    · exact h.units t (List.mem_append_left _ ht)
    · obtain ⟨-, s, -, -, rfl⟩ := Entry.update_snd_eq_some.1 (by simpa using ht)
      exact h.unit

/-- A change to none of the five states is taken. -/
theorem Told.ignore (h : Told u scope hand e { w with queue := .changed x :: w.queue })
    (hr : x.report? = none) : Told u scope hand e w := by
  have hq : reports (queued u (.changed x :: w.queue)) = reports (queued u w.queue) := by
    simp only [queued, List.flatMap_cons, Signal.changeOf]
    split <;> simp [reports, hr]
  have knows := h.knows
  have pairs := h.pairs
  simp only [hq] at knows pairs
  exact ⟨{ h.toLives with stays := fun hm => h.stays (List.mem_cons_of_mem _ hm) },
    h.place, h.unit, knows, pairs, h.units⟩

/-- The event that the session has in its hand is taken. -/
theorem Told.emit {t : Transition} (h : Told u scope [t] e w) :
    Told u scope [] e { w with events := w.events ++ [t] } :=
  { h.toLives with
    place := h.place, unit := h.unit, knows := h.knows
    pairs := by
      rw [List.append_nil]
      exact h.pairs
    units := by simpa using h.units }

end

theorem Moves.listening_eq (h : Moves u w w') : w'.listening = w.listening := by
  cases h <;> rfl

/-- A signal in front of the queue is in nobody's way. -/
theorem Moves.push (h : Moves u w w') (s : Signal) :
    Moves u { w with queue := s :: w.queue } { w' with queue := s :: w'.queue } := by
  cases h with
  | change x unit stamped newer =>
    have queue : s :: (if w.subscribed.isSome then w.queue ++ [.changed x] else w.queue) =
        if w.subscribed.isSome then s :: w.queue ++ [.changed x] else s :: w.queue := by
      split <;> rfl
    simp only [queue]
    exact .change { w with queue := s :: w.queue } x unit stamped newer
  | signal t silent stays => exact .signal _ t silent stays

/-! ## The session -/

/-- The unit's place in the registry agrees with the chronicle. -/
structure Agrees {η : Type} (u : String) (scope : BusScope) (b : Bool) (hand : List Transition)
    (w : Chronicle) (r : Registry η) : Prop where
  home : r.scope = scope
  listening : w.listening = b
  unseen : r.get? u = none → Unseen u w ∧ hand = []
  told : ∀ e, r.get? u = some e → Told u scope hand e w

/-- The event, if it is about the unit. -/
def about (u : String) (event : Option Transition) : List Transition :=
  event.toList.filter fun t => t.unit.name = u

/-- When no change of the unit is queued, its events are what its states call for. -/
def Recounted (u : String) (scope : BusScope) (w : Chronicle) : Prop :=
  queued u w.queue = [] →
    w.events.map Transition.states = changes ((reports w.baseline).map (·.state)) ∧
      ∀ t ∈ w.events, t.unit = ⟨scope, u⟩

/-- If the unit is watched, it has been subscribed to, and its state has been fetched. -/
def Tracked (c : Plan) (u : String) (w : Chronicle) : Prop :=
  c.watches u = true → w.subscribed.isSome = true ∧ w.fetched.isSome = true

theorem Tracked.moves {c : Plan} (h : Tracked c u w) (step : Moves u w w') : Tracked c u w' := by
  cases step <;> exact h

theorem Tracked.answers {η : Type} {c : Plan} {q : Request η} {a : Answer q} (h : Tracked c u w)
    (ans : Answers u w q a w') : Tracked c u w' := by
  cases ans with
  | subscribed k => exact fun watched => ⟨rfl, (h watched).2⟩
  | fetched x last => exact fun watched => ⟨(h watched).1, rfl⟩
  | _ => exact h

/-- The session waits for a signal. -/
def AtRest {η : Type} (c : Plan) (u : String) (scope : BusScope) (w : Chronicle) (_ : State η) :
    Request η → Prop
  | .nextSignal => Tracked c u w ∧ Recounted u scope w
  | _ => True

section

open Safe

variable {η : Type} {c : Plan} {u v : String} {scope : BusScope} {b : Bool} {hand : List Transition}
  {w w' : Chronicle} {r : Registry η} {s : State η}

namespace Agrees

theorem moves (h : Agrees u scope b hand w r) (step : Moves u w w') :
    Agrees u scope b hand w' r where
  home := h.home
  listening := step.listening_eq.trans h.listening
  unseen hr := (h.unseen hr).imp_left fun unseen => unseen.moves step
  told e he := (h.told e he).moves step

theorem stable (u : String) (scope : BusScope) (b : Bool) (hand : List Transition)
    (r : Registry η) : (around u : Around η Chronicle).Stable fun w => Agrees u scope b hand w r :=
  fun _ _ step h => h.moves step

theorem stable_held (u : String) (scope : BusScope) (b : Bool) (hand : List Transition)
    (r : Registry η) (s : Signal) : (around u : Around η Chronicle).Stable fun w =>
      Agrees u scope b hand { w with queue := s :: w.queue } r :=
  fun _ _ step h => h.moves (step.push s)

theorem stable_tracked (c : Plan) (u : String) (scope : BusScope) (b : Bool) (r : Registry η) :
    (around u : Around η Chronicle).Stable fun w => Agrees u scope b [] w r ∧ Tracked c u w :=
  fun _ _ step h => ⟨h.1.moves step, h.2.moves step⟩

theorem recounted (h : Agrees u scope b [] w r) : Recounted u scope w := by
  intro quiet
  cases he : r.get? u with
  | none =>
    have unseen := (h.unseen he).1
    simp [unseen.events, baseline, unseen.subscribed, reports, changes]
  | some e =>
    have told := h.told e he
    have pairs := told.pairs
    rw [quiet] at pairs
    refine ⟨?_, by simpa using told.units⟩
    rw [← pairs]
    simp [reports, Entry.replay]

theorem lives (h : Agrees u scope b hand w r) : Lives u w := by
  cases he : r.get? u with
  | none => exact (h.unseen he).1.toLives
  | some e => exact (h.told e he).toLives

theorem fetched (h : Agrees u scope b hand w r) (he : r.get? u ≠ none) :
    w.subscribed.isSome = true ∧ w.fetched.isSome = true := by
  obtain ⟨e, he⟩ := Option.ne_none_iff_exists'.1 he
  obtain ⟨n, k, hn, hk, -⟩ := (h.told e he).place
  simp [hn, hk]

/-- A signal that tells no change of the unit is taken. -/
theorem skip {signal : Signal}
    (h : Agrees u scope b hand { w with queue := signal :: w.queue } r)
    (silent : r.get? u ≠ none → signal.changeOf u = []) : Agrees u scope b hand w r := by
  refine ⟨h.home, h.listening, ?_, fun e he => (h.told e he).skip (silent (by simp [he]))⟩
  intro hr
  obtain ⟨unseen, rfl⟩ := h.unseen hr
  have nothing := unseen.queued
  rw [queued, List.flatMap_cons] at nothing
  exact ⟨{ h.lives with
    stays := fun hm => h.lives.stays (List.mem_cons_of_mem _ hm)
    subscribed := unseen.subscribed
    fetched := unseen.fetched
    events := unseen.events
    queued := (List.append_eq_nil_iff.1 nothing).2 }, rfl⟩

/-- The session takes signals from now on. -/
theorem listen (h : Agrees u scope b hand w r) :
    Agrees u scope true hand { w with listening := true } r where
  home := h.home
  listening := rfl
  unseen hr := (h.unseen hr).imp_left fun unseen => { unseen with }
  told e he := { h.told e he with }

/-- The event in hand is taken. -/
theorem emit {t : Transition} (h : Agrees u scope true (about u (some t)) w r) :
    Agrees u scope true []
      { w with events := if w.listening ∧ t.unit.name = u then w.events ++ [t] else w.events }
      r := by
  by_cases name : t.unit.name = u
  · rw [if_pos ⟨h.listening, name⟩]
    have hand : about u (some t) = [t] := by simp [about, name]
    rw [hand] at h
    exact ⟨h.home, h.listening, fun hr => absurd (h.unseen hr).2 (by simp),
      fun e he => (h.told e he).emit⟩
  · rw [if_neg fun hn => name hn.2]
    have hand : about u (some t) = [] := by simp [about, name]
    rw [hand] at h
    exact h

/-- Only the place of the unit itself matters. -/
theorem frame (h : Agrees u scope b hand w r) {r' : Registry η} (scope_eq : r'.scope = r.scope)
    (get?_eq : r'.get? u = r.get? u) : Agrees u scope b hand w r' :=
  ⟨scope_eq.trans h.home, h.listening, get?_eq ▸ h.unseen, get?_eq ▸ h.told⟩

/-- A change of some unit reaches its entry. -/
theorem applied {e : Entry η} {x : RawState} {report : Report}
    (h : Agrees u scope b [] { w with queue := .changed x :: w.queue } r)
    (he : r.get? x.unit = some e) (hx : x.report? = some report) (now : Microseconds) :
    Agrees u scope b (about u (e.update report now).2) w (r.apply report now).1 := by
  have unit := RawState.unit_of_report hx
  have get? := Registry.get?_apply now (unit.symm ▸ he) u
  by_cases hu : x.unit = u
  · rw [if_pos (by rw [unit, hu])] at get?
    have told := (h.told e (hu ▸ he)).heed hu hx now
    refine ⟨(r.scope_apply report now).trans h.home, h.listening, by simp [get?], ?_⟩
    intro e' he'
    rw [get?] at he'
    cases he'
    cases event : (e.update report now).2 with
    | none => simpa [about, event] using told
    | some t =>
      rw [event] at told
      have name : t.unit.name = u := by rw [told.units t (by simp)]
      simpa [about, name] using told
  · rw [if_neg (by rw [unit]; exact Ne.symm hu)] at get?
    -- The change of another unit makes no event of this one.
    have silent : about u (e.update report now).2 = [] := by
      cases event : (e.update report now).2 with
      | none => rfl
      | some t =>
        obtain ⟨-, s, -, -, rfl⟩ := Entry.update_snd_eq_some.1 event
        simp [about, Registry.name_of_get? he, hu]
    rw [silent]
    exact (h.skip fun _ => by simp [Signal.changeOf, hu]).frame (r.scope_apply report now) get?

end Agrees

theorem release_agrees (h : η) (t : Agrees u scope b hand w s.registry) :
    Safe (around u) (AtRest c u scope)
      (Succeeds fun w s' _ => s' = s ∧ Agrees u scope b hand w s.registry) (release h s) w := by
  refine Safe.ask (Agrees.stable _ _ _ _ _) t (fun _ _ => trivial) ?_
  intro w a w' t ans
  cases ans with
  | unsubscribed => exact Safe.done (Agrees.stable _ _ _ _ _) t fun w t => ⟨rfl, t⟩
  | notUnsubscribed =>
    refine Safe.ask (Agrees.stable _ _ _ _ _) t (fun _ _ => trivial) ?_
    intro w a w' t ans
    cases ans
    exact Safe.done (Agrees.stable _ _ _ _ _) t fun w t => ⟨rfl, t⟩

/-- Another unit is tracked, or not. -/
theorem track_other (other : v ≠ u) (t : Agrees u scope b hand w s.registry) :
    Safe (around u) (AtRest c u scope)
      (Succeeds fun w s' _ => Agrees u scope b hand w s'.registry ∧
        s'.registry.get? u = s.registry.get? u) (track v s) w := by
  refine Safe.ask (Agrees.stable _ _ _ _ _) t (fun _ _ => trivial) ?_
  intro w a w' t ans
  cases ans with
  | subscribed => exact absurd rfl other
  | notSubscribed =>
    refine Safe.ask (Agrees.stable _ _ _ _ _) t (fun _ _ => trivial) ?_
    intro w a w' t ans
    cases ans
    exact Safe.done (Agrees.stable _ _ _ _ _) t fun w t => ⟨t, rfl⟩
  | subscribedOther _ k =>
    refine Safe.ask (Agrees.stable _ _ _ _ _) t (fun _ _ => trivial) ?_
    intro w a w' t ans
    cases ans with
    | fetched => exact absurd rfl other
    | notFetched =>
      refine Safe.ask (Agrees.stable _ _ _ _ _) t (fun _ _ => trivial) ?_
      intro w a w' t ans
      cases ans
      refine (release_agrees k t).weaken fun w s' r hr => hr.imp ?_
      intro _ h
      obtain ⟨rfl, t⟩ := h
      exact ⟨t, rfl⟩
    | fetchedOther _ x _ unit =>
      refine Safe.of_eq (enroll_eq v k x s) ?_
      rw [Registry.enroll_eq_put s.registry k unit]
      have same : (s.registry.put (Entry.first ⟨s.registry.scope, v⟩ k x)).get? u =
          s.registry.get? u := Registry.get?_put_of_ne _ other.symm
      have t' : Agrees u scope b hand w
          (s.registry.put (Entry.first ⟨s.registry.scope, v⟩ k x)) := t.frame rfl same
      refine Safe.ask (Agrees.stable _ _ _ _ _) t' (fun _ _ => trivial) ?_
      intro w a w' t ans
      cases ans
      exact Safe.done (Agrees.stable _ _ _ _ _) t fun w t => ⟨t, same⟩

/-- The unit itself is tracked. -/
theorem track_self (t : Agrees u scope b hand w s.registry)
    (absent : s.registry.get? u = none) :
    Safe (around u) (AtRest c u scope)
      (Succeeds fun w s' _ => Agrees u scope b hand w s'.registry ∧ s'.registry.get? u ≠ none)
      (track u s) w := by
  obtain ⟨unseen, rfl⟩ := t.unseen absent
  -- Before the subscription nothing is heard of the unit; after it, the fetch is awaited.
  have stable₀ : (around u : Around η Chronicle).Stable fun w => Unseen u w ∧ w.listening = b :=
    fun _ _ step h => ⟨h.1.moves step, step.listening_eq.trans h.2⟩
  have stable₁ : (around u : Around η Chronicle).Stable fun w => Awaited u w ∧ w.listening = b :=
    fun _ _ step h => ⟨h.1.moves step, step.listening_eq.trans h.2⟩
  refine Safe.ask stable₀ ⟨unseen, t.listening⟩ (fun _ _ => trivial) ?_
  intro w a w' ⟨unseen, listening⟩ ans
  cases ans with
  | subscribedOther _ _ other | notSubscribed _ _ _ _ other => exact absurd rfl other
  | subscribed h =>
    refine Safe.ask stable₁ ⟨unseen.subscribe, listening⟩ (fun _ _ => trivial) ?_
    intro w a w' ⟨awaited, listening⟩ ans
    cases ans with
    | fetchedOther _ _ other | notFetched _ _ _ _ other => exact absurd rfl other
    | fetched x last =>
      refine Safe.of_eq (enroll_eq u h x s) ?_
      have named := awaited.named x (List.mem_of_getLast? last)
      rw [Registry.enroll_eq_put s.registry h named, t.home]
      have self : (s.registry.put (Entry.first ⟨scope, u⟩ h x)).get? u =
          some (Entry.first ⟨scope, u⟩ h x) := Registry.get?_put_self _ _
      have t' : Agrees u scope b [] { w with fetched := some (w.history.length - 1) }
          (s.registry.put (Entry.first ⟨scope, u⟩ h x)) := by
        refine ⟨t.home, listening, by simp [self], ?_⟩
        intro e he
        rw [self] at he
        cases he
        exact awaited.fetch last h
      refine Safe.ask (Agrees.stable _ _ _ _ _) t' (fun _ _ => trivial) ?_
      intro w a w' t ans
      cases ans
      exact Safe.done (Agrees.stable _ _ _ _ _) t fun w t => ⟨t, by simp [self]⟩

theorem track_agrees (t : Agrees u scope b [] w s.registry)
    (absent : v = u → s.registry.get? u = none) :
    Safe (around u) (AtRest c u scope)
      (Succeeds fun w s' _ => Agrees u scope b [] w s'.registry ∧
        (v = u → s'.registry.get? u ≠ none) ∧
        (v ≠ u → s'.registry.get? u = s.registry.get? u)) (track v s) w := by
  by_cases hv : v = u
  · subst hv
    exact (track_self t (absent rfl)).weaken fun w s' r hr =>
      hr.imp fun _ h => ⟨h.1, fun _ => h.2, fun other => absurd rfl other⟩
  · exact (track_other hv t).weaken fun w s' r hr =>
      hr.imp fun _ h => ⟨h.1, fun same => absurd same hv, fun _ => h.2⟩

/-- After `start`, a watched unit is tracked. -/
theorem start_agrees (t : Agrees u scope b [] w s.registry) (absent : s.registry.get? u = none) :
    Safe (around u) (AtRest c u scope)
      (Succeeds fun w s' _ => Agrees u scope b [] w s'.registry ∧
        Tracked c u w) (start c s) w := by
  refine Safe.ask (Agrees.stable _ _ _ _ _) t (fun _ _ => trivial) ?_
  intro w a w' t ans
  cases ans
  refine Safe.ask (Agrees.stable _ _ _ _ _) t (fun _ _ => trivial) ?_
  intro w a w' t ans
  cases ans
  refine Safe.ask (Agrees.stable _ _ _ _ _) t (fun _ _ => trivial) ?_
  intro w a w' t ans
  cases ans with
  | listed units nodup loaded =>
    have tracked : Safe (around u) (AtRest c u scope)
        (Succeeds fun w s' _ => Agrees u scope b [] w s'.registry ∧
          (c.watches u = true → s'.registry.get? u ≠ none))
        (Action.each track (units.filter c.watches) { s with connected := true }) w := by
      -- A unit is listed once, so it is absent up to its turn and tracked from then on.
      refine Safe.eachSucceeds (I := fun rest w s' => rest.Nodup ∧
          (u ∈ rest → s'.registry.get? u = none) ∧
          (c.watches u = true → u ∈ rest ∨ s'.registry.get? u ≠ none) ∧
          Agrees u scope b [] w s'.registry) ?_ ?_ _
        ⟨nodup.filter _, fun _ => absent,
          fun watched => .inl (List.mem_filter.2 ⟨loaded, watched⟩), t⟩
      · intro v rest w s' h
        obtain ⟨nodup, absent, todo, t⟩ := h
        obtain ⟨fresh, nodup⟩ := List.nodup_cons.1 nodup
        refine (track_agrees t fun hv => absent (hv ▸ List.mem_cons_self)).weaken
          fun w s'' r hr => hr.imp fun _ h => ?_
        obtain ⟨t, here, frame⟩ := h
        refine ⟨nodup, ?_, ?_, t⟩
        · intro hu
          rw [frame (by rintro rfl; exact fresh hu)]
          exact absent (List.mem_cons_of_mem _ hu)
        · intro watched
          by_cases hv : v = u
          · exact .inr (here hv)
          · rw [frame hv]
            exact (todo watched).imp_left fun hu => (List.mem_cons.1 hu).resolve_left (Ne.symm hv)
      · intro w s' h
        refine Safe.done (Agrees.stable _ _ _ _ _) h.2.2.2 fun w t => ⟨t, ?_⟩
        intro watched
        exact (h.2.2.1 watched).resolve_left List.not_mem_nil
    refine tracked.seq ?_
    intro w s' _ h
    obtain ⟨t, here⟩ := h
    refine Safe.ask (Agrees.stable _ _ _ _ _) t (fun _ _ => trivial) ?_
    intro w a w' t ans
    cases ans
    exact Safe.done (Agrees.stable _ _ _ _ _) t fun w t =>
      ⟨t, fun watched => t.fetched (here watched)⟩

theorem changed_agrees {x : RawState}
    (t : Agrees u scope b [] { w with queue := .changed x :: w.queue } s.registry) :
    Safe (around u) (AtRest c u scope)
      (Succeeds fun w s' event => Agrees u scope b (about u event) w s'.registry)
      (handleSignal c (.changed x) s) w := by
  cases he : s.registry.get? x.unit with
  | none =>
    have t := t.skip fun known => by
      rw [Signal.changeOf, if_neg]
      rintro rfl
      exact known he
    rw [handleSignal_changed_of_none he]
    exact Safe.done (Agrees.stable _ _ _ _ _) t fun w t => t
  | some e =>
    cases hx : x.report? with
    | none =>
      have t : Agrees u scope b [] w s.registry := by
        -- An unknown state is passed over, in this entry and in others.
        by_cases hu : x.unit = u
        · refine ⟨t.home, t.listening, ?_, fun e he => (t.told e he).ignore hx⟩
          intro absent
          rw [← hu, he] at absent
          cases absent
        · exact t.skip fun _ => by simp [Signal.changeOf, hu]
      rw [handleSignal_changed_of_unrecognized he hx]
      refine Safe.ask (Agrees.stable _ _ _ _ _) t (fun _ _ => trivial) ?_
      intro w a w' t ans
      cases ans
      exact Safe.done (Agrees.stable _ _ _ _ _) t fun w t => t
    | some report =>
      rw [handleSignal_changed he hx]
      refine Safe.ask (Agrees.stable_held _ _ _ _ _ _) t (fun _ _ => trivial) ?_
      intro w now w' t ans
      cases ans
      have t := t.applied he hx now
      cases event : (e.update report now).2 with
      | none =>
        rw [event] at t
        exact Safe.done (Agrees.stable _ _ _ _ _) t fun w t => t
      | some event' =>
        rw [event] at t
        refine Safe.ask (Agrees.stable _ _ _ _ _) t (fun _ _ => trivial) ?_
        intro w a w' t ans
        cases ans
        exact Safe.done (Agrees.stable _ _ _ _ _) t fun w t => t

theorem added_agrees {v : String}
    (t : Agrees u scope b [] { w with queue := .added v :: w.queue } s.registry) :
    Safe (around u) (AtRest c u scope)
      (Succeeds fun w s' event => Agrees u scope b (about u event) w s'.registry)
      (handleSignal c (.added v) s) w := by
  have t := t.skip fun _ => rfl
  cases he : s.registry.get? v with
  | some e =>
    rw [handleSignal_added_of_some he]
    exact Safe.done (Agrees.stable _ _ _ _ _) t fun w t => t
  | none =>
    cases watched : c.watches v with
    | false =>
      rw [handleSignal_added_of_not_watched watched]
      exact Safe.done (Agrees.stable _ _ _ _ _) t fun w t => t
    | true =>
      rw [handleSignal_added he watched]
      refine (track_agrees t fun hv => hv ▸ he).seq ?_
      intro w s' _ h
      exact Safe.done (Agrees.stable _ _ _ _ _) h.1 fun w t => t

theorem removed_agrees {v : String}
    (t : Agrees u scope b [] { w with queue := .removed v :: w.queue } s.registry) :
    Safe (around u) (AtRest c u scope)
      (Succeeds fun w s' event => Agrees u scope b (about u event) w s'.registry)
      (handleSignal c (.removed v) s) w := by
  -- The chronicle is about a unit that stays loaded.
  have other : u ≠ v := by
    rintro rfl
    exact t.lives.stays List.mem_cons_self
  have t := t.skip fun _ => rfl
  cases he : s.registry.get? v with
  | none =>
    rw [handleSignal_removed_of_none he]
    exact Safe.done (Agrees.stable _ _ _ _ _) t fun w t => t
  | some e =>
    have t : Agrees u scope b [] w (s.registry.evict v) :=
      t.frame rfl (by rw [Registry.get?_evict, if_neg other])
    rw [handleSignal_removed he]
    refine Safe.seq (release_agrees e.subscription t) ?_
    intro w s' _ h
    obtain ⟨rfl, t⟩ := h
    refine Safe.ask (Agrees.stable _ _ _ _ _) t (fun _ _ => trivial) ?_
    intro w a w' t ans
    cases ans
    exact Safe.done (Agrees.stable _ _ _ _ _) t fun w t => t

theorem handleSignal_agrees {signal : Signal}
    (t : Agrees u scope b [] { w with queue := signal :: w.queue } s.registry) :
    Safe (around u) (AtRest c u scope)
      (Succeeds fun w s' event => Agrees u scope b (about u event) w s'.registry)
      (handleSignal c signal s) w := by
  cases signal with
  | changed x => exact changed_agrees t
  | added v => exact added_agrees t
  | removed v => exact removed_agrees t
  | other kind =>
    have t := t.skip fun _ => rfl
    refine Safe.ask (Agrees.stable _ _ _ _ _) t (fun _ _ => trivial) ?_
    intro w a w' t ans
    cases ans
    exact Safe.done (Agrees.stable _ _ _ _ _) t fun w t => t

theorem keeping_tracked {α : Type} {P : Chronicle → State η → α → Prop} {x : Step η α}
    (h : Safe (around u) (AtRest c u scope) (Succeeds P) (x s) w) (tracked : Tracked c u w) :
    Safe (around u) (AtRest c u scope) (Succeeds fun w s' a => P w s' a ∧ Tracked c u w)
      (x s) w := by
  refine (h.keeping tracked (fun _ _ step h => h.moves step)
    fun _ _ _ _ _ ans h => h.answers ans).weaken ?_
  intro w s' r hr
  cases r with
  | ok a => exact hr
  | error _ => exact hr.1

theorem listenOnce_agrees (t : Agrees u scope b [] w s.registry) (tracked : Tracked c u w) :
    Safe (around u) (AtRest c u scope)
      (Succeeds fun w s' _ => Agrees u scope true [] w s'.registry ∧ Tracked c u w)
      (listenOnce c s) w := by
  refine Safe.ask (Agrees.stable_tracked _ _ _ _ _) ⟨t, tracked⟩
    (fun w h => ⟨h.2, h.1.recounted⟩) ?_
  intro w a w' h ans
  cases ans with
  | signalled signal rest first =>
    have held : Agrees u scope true []
        { w with queue := signal :: rest, listening := true } s.registry := first ▸ h.1.listen
    refine Safe.seq (keeping_tracked (handleSignal_agrees held) h.2) ?_
    intro w s' event h
    obtain ⟨t, tracked⟩ := h
    cases event with
    | none => exact Safe.done (Agrees.stable_tracked _ _ _ _ _) ⟨t, tracked⟩ fun w h => h
    | some event =>
      refine keeping_tracked (Safe.ask (Agrees.stable _ _ _ _ _) t (fun _ _ => trivial) ?_) tracked
      intro w a w' t ans
      cases ans
      exact Safe.done (Agrees.stable _ _ _ _ _) t.emit fun w t => t

/-- What a session keeps on its connection. -/
theorem agrees_unbroken (c : Plan) (u : String) (scope : BusScope) :
    Unbroken c (around u : Around η Chronicle) (AtRest c u scope)
      (fun w s => Agrees u scope false [] w s.registry ∧ s.registry.get? u = none)
      (fun w s => Agrees u scope false [] w s.registry ∧ Tracked c u w)
      fun w s => (∃ b, Agrees u scope b [] w s.registry) ∧ Tracked c u w where
  stable s := Agrees.stable_tracked c u scope false s.registry
  stays _ := fun _ _ step ⟨⟨b, h⟩, tracked⟩ => ⟨⟨b, h.moves step⟩, tracked.moves step⟩
  goes _ _ t := ⟨⟨false, t.1⟩, t.2⟩
  opens w s h := by
    refine Safe.ask (Agrees.stable _ _ _ _ _) h.1 (fun _ _ => trivial) ?_
    intro w a w' t ans
    cases ans
    exact Safe.done (Agrees.stable _ _ _ _ _) t fun w t => ⟨t, h.2⟩
  starts w s h := start_agrees h.1 h.2
  looks w s h := by
    refine Safe.ask (Agrees.stable_tracked c u scope false s.registry) h (fun _ _ => trivial) ?_
    intro w a w' h ans
    cases ans
    exact Safe.done (Agrees.stable_tracked c u scope false s.registry) h fun w h => ⟨rfl, h⟩
  emits w s event h := by
    refine Safe.ask (Agrees.stable_tracked c u scope false s.registry) h (fun _ _ => trivial) ?_
    intro w a w' h ans
    cases ans
    -- No signal has been taken yet, so this event is not one of a signal.
    rw [if_neg (by simp [h.1.listening])]
    exact Safe.done (Agrees.stable_tracked c u scope false s.registry) h fun w h => ⟨rfl, h⟩
  notes w s n h := by
    refine Safe.ask (Agrees.stable_tracked c u scope false s.registry) h (fun _ _ => trivial) ?_
    intro w a w' h ans
    cases ans
    exact Safe.done (Agrees.stable_tracked c u scope false s.registry) h fun w h => ⟨rfl, h⟩
  listens w s h := by
    obtain ⟨⟨b, t⟩, tracked⟩ := h
    exact (listenOnce_agrees t tracked).weaken fun w s' r hr =>
      hr.imp fun _ h => ⟨⟨true, h.1⟩, h.2⟩

end

/-- The unit is loaded, and the connection has not heard of it. -/
structure Fresh (u : String) (w : Chronicle) : Prop extends Unseen u w where
  silent : w.listening = false

/-- **The events of a unit are its history.** Whatever the unit does between the steps of the
session: the session does not fail, and when it waits for a signal and no change of the unit is
queued, the events that signals have brought for the unit are the changes of its states, from the
state that was fetched on if that is one of the five, and otherwise of those that were
signalled. -/
theorem events_eq_changes {η : Type} (c : Plan) (u : String) (snapshot : Option Snapshot)
    (attempt : Nat) {w₀ w : Chronicle} {s₀ : State η} {p : Phase η} (fresh : w₀.Fresh u)
    (empty : s₀.registry.entries = [])
    (run : Runs c (around u) (w₀, stage c (.opening snapshot attempt) s₀) (w, p)) :
    p.outcome? = none ∧ ∀ s resume, p = .ask s .nextSignal resume →
      (c.watches u = true → w.subscribed.isSome = true ∧ w.fetched.isSome = true) ∧
      (queued u w.queue = [] →
        w.events.map Transition.states = changes ((reports w.baseline).map (·.state)) ∧
          ∀ t ∈ w.events, t.unit = ⟨s₀.registry.scope, u⟩) := by
  have absent : s₀.registry.get? u = none := by simp [Registry.get?, empty]
  have t : Agrees u s₀.registry.scope false [] w₀ s₀.registry := by
    refine ⟨rfl, fresh.silent, fun _ => ⟨fresh.toUnseen, rfl⟩, ?_⟩
    intro e he
    rw [absent] at he
    cases he
  have unbroken := agrees_unbroken (η := η) c u s₀.registry.scope
  refine ⟨?_, ?_⟩
  · cases hp : p.outcome? with
    | none => rfl
    | some f => exact (run.outcome unbroken.stage ⟨t, absent⟩ hp).elim
  · rintro s resume rfl
    exact run.holds unbroken.stage ⟨t, absent⟩

/-! ## A unit that is reloading when its state is fetched -/

/-- A unit that nobody has asked for yet. -/
def dawn : Chronicle where
  history := [⟨"web", "active", some 3, none⟩]
  subscribed := none
  fetched := none
  queue := []
  listening := false
  events := []

theorem dawn_fresh : dawn.Fresh "web" := by
  refine ⟨⟨⟨by decide, ?_, ?_, by simp [dawn], by simp [dawn]⟩, rfl, rfl, rfl, rfl⟩, rfl⟩
  · simp [dawn]
  · intro x hx
    rw [List.mem_singleton.1 hx]
    decide

/-- The unit has failed and reloaded between the subscription and the fetch. -/
def noon : Chronicle where
  history := [⟨"web", "active", some 3, none⟩, ⟨"web", "failed", some 7, none⟩,
    ⟨"web", "reloading", none, none⟩]
  subscribed := some 1
  fetched := some 2
  queue := [.changed ⟨"web", "failed", some 7, none⟩, .changed ⟨"web", "reloading", none, none⟩]
  listening := false
  events := []

/-- The unit is active again, and every signal has been taken. -/
def dusk : Chronicle where
  history := noon.history ++ [⟨"web", "active", some 9, none⟩]
  subscribed := some 1
  fetched := some 2
  queue := []
  listening := true
  events := [⟨⟨.system, "web"⟩, .failed, .active, 0⟩]

/-- The session that watches the unit, when it knows it in a state. -/
def watching (state : Option ActiveState) (timestamp : Option Int) : State Nat :=
  ⟨⟨.system, [⟨⟨.system, "web"⟩, state, timestamp, 0⟩]⟩, true⟩

theorem dawn_to_noon : Runs Plan.everything (around "web")
    (dawn, stage .everything (.opening none 0) (State.initial .system))
    (noon, stage .everything .listening (watching none none)) := by
  refine .head (.answer _ (.opened _)) ?_
  refine .head (.answer _ (.connected _)) ?_
  refine .head (.answer _ (.subscribedManager _)) ?_
  refine .head (.answer _ (.listed _ ["web"] (by decide) (by decide))) ?_
  refine .head (.answer _ (.subscribed _ 0)) ?_
  refine .head (.move _ (.change _ ⟨"web", "failed", some 7, none⟩ rfl (by decide) ?_)) ?_
  · simp [dawn, IsNewer]
  refine .head (.move _ (.change _ ⟨"web", "reloading", none, none⟩ rfl (by decide) ?_)) ?_
  · simp [IsNewer]
  refine .head (.answer _ (.fetched _ _ rfl)) ?_
  refine .head (.answer _ (.noted _ _)) ?_
  refine .head (.answer _ (.noted _ _)) ?_
  exact .head (.next _ _ _) .refl

/-- The failure settles the entry, the word after it is none of the five, and the last change is an
event. -/
theorem noon_to_dusk : Runs Plan.everything (around "web")
    (noon, stage .everything .listening (watching none none))
    (dusk, stage .everything .listening (watching (some .active) (some 9))) := by
  refine .head (.answer _ (.signalled _ _ _ rfl)) ?_
  refine .head (.answer _ (.time _ 0)) ?_
  refine .head (.next _ _ _) ?_
  refine .head (.answer _ (.signalled _ _ _ rfl)) ?_
  refine .head (.answer _ (.noted _ _)) ?_
  refine .head (.next _ _ _) ?_
  refine .head (.move _ (.change _ ⟨"web", "active", some 9, none⟩ rfl (by decide) ?_)) ?_
  · simp [noon, IsNewer]
  refine .head (.answer _ (.signalled _ _ _ rfl)) ?_
  refine .head (.answer _ (.time _ 0)) ?_
  refine .head (.answer _ (.noted _ _)) ?_
  refine .head (.answer _ (.taken _ _)) ?_
  exact .head (.next _ _ _) .refl

/-- The first event starts from the failure, not from the state before the subscription. -/
theorem events_of_dusk :
    Runs Plan.everything (around "web")
        (dawn, stage .everything (.opening none 0) (State.initial .system))
        (dusk, stage .everything .listening (watching (some .active) (some 9))) ∧
      dusk.events.map Transition.states = changes [.failed, .active] := by
  have run := dawn_to_noon.trans noon_to_dusk
  refine ⟨run, ?_⟩
  have told := (events_eq_changes .everything "web" none 0 dawn_fresh rfl run).2 _ _ rfl
  exact (told.2 rfl).1

end Chronicle

end UnitWatch.Session
