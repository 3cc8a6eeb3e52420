import UnitWatch.Proofs.Session.Journal
import UnitWatch.Proofs.Session.Replay

/-!
# Where a session stands among its connections

What was said about a unit, and what the session knows of it, go together: what it says next starts
from where it stopped (`Agreed`). A signal, a resync and an event each keep that up.

**Standings.** Between connections what counts is what was known when the last one was lost
(`Parted`); a connection that is being started says nothing (`Starting`); after discovery the
session owes the events of a resync (`Resyncing`), and then it follows the signals (`Listening`).
Each standing says that all that was written down is in order (`InOrder`), none is undone by what
arrives, and each leads to the next.
-/

namespace UnitWatch.Session

variable {η : Type}

namespace Leg

variable {l : Leg η}

theorem marks_hear (l : Leg η) (r : Registry η) (s : Signal) :
    (l.hear r s).marks = marksOf r s ++ l.marks := by
  simp [hear, marks]

theorem yield_of_quiet (t : Transition) (quiet : l.log = []) :
    l.yield t = { l with resynced := l.resynced ++ [t] } := by
  simp only [yield, quiet]

theorem yield_of_busy (t : Transition) (busy : l.log ≠ []) :
    l.yield t = l.write (.yielded t) := by
  obtain ⟨m, log, hl⟩ := List.exists_cons_of_ne_nil busy
  simp only [yield, hl]

theorem marks_write (l : Leg η) (m : Mark η) : (l.write m).marks = [m] ++ l.marks := by
  simp [write, marks]

theorem marks_yield (l : Leg η) (t : Transition) : (l.yield t).marks = [.yielded t] ++ l.marks := by
  by_cases quiet : l.log = []
  · rw [yield_of_quiet t quiet]
    simp [marks, quiet]
  · rw [yield_of_busy t quiet, marks_write]

theorem marks_note {n m : Nat} (registry : Registry η) (blank : l.marks = []) :
    (l.note registry (.started n m)).marks = [.discovered registry] ++ l.marks := by
  have parts := blank
  simp only [marks, List.append_eq_nil_iff, List.map_eq_nil_iff, List.reverse_eq_nil_iff] at parts
  simp [note, marks, parts.1.1, parts.1.2, parts.2]

theorem heard_write {m : Mark η} (l : Leg η) (unheard : m.heard? = none) :
    (l.write m).heard = l.heard := by
  simp [heard, write, unheard]

theorem marksOf_ne_nil (r : Registry η) (s : Signal) : marksOf r s ≠ [] := by
  unfold marksOf
  split
  · split <;> simp
  · simp

theorem heard_hear (l : Leg η) (r : Registry η) (s : Signal) :
    (l.hear r s).heard = l.heard ++ [s] := by
  have marks : (marksOf r s).reverse.filterMap Mark.heard? = [s] := by
    unfold marksOf
    split
    · split <;> rfl
    · rfl
  simp only [heard, hear, List.reverse_append, List.filterMap_append, marks]

/-- Nothing has been discovered on a connection. -/
structure Blank (l : Leg η) : Prop where
  taken : l.taken = 0
  discovered : l.discovered = none
  resynced : l.resynced = []
  log : l.log = []
  lost : l.lost = none

theorem Blank.marks (h : l.Blank) : l.marks = [] := by
  simp [Leg.marks, h.discovered, h.resynced, h.log]

end Leg

namespace Journal

open Leg (marksOf)

/-! ## Replaying -/

theorem apply_fst_eq (r : Registry η) (report : Report) (now : Microseconds) :
    (r.apply report now).1 = (r.apply report 0).1 := by
  unfold Registry.apply
  split
  · next e he => simp only [Entry.update_fst_eq e report now]
  · rfl

theorem react_of_untracked {r : Registry η} {x : RawState} (now : Microseconds)
    (h : r.get? x.unit = none) : react r now (.changed x) = (r, none) := by
  cases hx : x.report? with
  | none => simp only [react, hx]
  | some report => simp only [react, hx, Registry.apply, RawState.unit_of_report hx, h]

theorem react_of_unrecognized (r : Registry η) {x : RawState} (now : Microseconds)
    (hx : x.report? = none) : react r now (.changed x) = (r, none) := by
  simp only [react, hx]

theorem react_of_recognized {r : Registry η} {x : RawState} {report : Report} {e : Entry η}
    (now : Microseconds) (h : r.get? x.unit = some e) (hx : x.report? = some report) :
    react r now (.changed x) = ((r.apply report now).1, (e.update report now).2) := by
  have h := RawState.unit_of_report hx ▸ h
  simp only [react, hx, Registry.apply_of_get? now h]

theorem react_fst_eq (r : Registry η) (now : Microseconds) (s : Signal) :
    (react r now s).1 = (react r 0 s).1 := by
  unfold react
  split
  · split
    · exact apply_fst_eq r _ now
    · rfl
  · rfl
  · rfl

theorem react_wellFormed {r : Registry η} (h : r.WellFormed) (now : Microseconds) (s : Signal) :
    (react r now s).1.WellFormed := by
  unfold react
  split
  · split
    · exact h.apply _ now
    · exact h
  · exact h.evict _
  · exact h

theorem replay_marksOf (r r' : Registry η) (s : Signal) (log : List (Mark η)) :
    replay r (marksOf r' s ++ log) = (react (replay r log) 0 s).1 := by
  unfold marksOf
  split
  · split <;> rfl
  · rfl

theorem chained_marksOf (r : Registry η) (s : Signal) (h : List (Mark η)) :
    Chained (marksOf r s ++ h) ↔ Chained h := by
  unfold marksOf
  split
  · split <;> rfl
  · rfl

/-! ## What the session believes -/

/-- What the session will say next about a unit starts from where it stopped. The events in its
`hand` are still to come. -/
structure Agreed (r : Registry η) (hand : List Transition) (h : List (Mark η)) : Prop where
  believed : ∀ u x, expected u h = some x →
    (∀ t ∈ hand, t.unit.name = u → t.previous = x) ∧
      ((∀ t ∈ hand, t.unit.name ≠ u) → r.stateOf u = some x)
  arrives : ∀ t ∈ hand, r.stateOf t.unit.name = some t.current ∧ t.previous ≠ t.current
  once : (hand.map (·.unit.name)).Nodup

/-- What was known when the last connection was lost says where chains of events go on. -/
def Carries (basis : Option Snapshot) (h : List (Mark η)) : Prop :=
  ∀ u x, expected u h = some x → ∃ snapshot, basis = some snapshot ∧ snapshot.lookup u = some x

variable {r : Registry η} {hand : List Transition} {h : List (Mark η)}

theorem Agreed.yield {t : Transition} (a : Agreed r (t :: hand) h) :
    Agreed r hand (.yielded t :: h) ∧ t.previous ≠ t.current ∧
      ∀ x, expected t.unit.name h = some x → t.previous = x := by
  have once := List.nodup_cons.1 a.once
  refine ⟨⟨?_, fun t' ht' => a.arrives t' (List.mem_cons_of_mem _ ht'), once.2⟩,
    (a.arrives t List.mem_cons_self).2,
    fun x hx => (a.believed _ x hx).1 t List.mem_cons_self rfl⟩
  intro u x hx
  by_cases hu : t.unit.name = u
  · rw [expected, if_pos hu] at hx
    cases hx
    refine ⟨?_, fun _ => hu ▸ (a.arrives t List.mem_cons_self).1⟩
    intro t' ht' same
    exact absurd (List.mem_map.2 ⟨t', ht', same.trans hu.symm⟩) once.1
  · rw [expected, if_neg hu] at hx
    obtain ⟨inHand, rest⟩ := a.believed u x hx
    refine ⟨fun t' ht' => inHand t' (List.mem_cons_of_mem _ ht'), fun others => rest ?_⟩
    exact List.forall_mem_cons.2 ⟨hu, others⟩

theorem Agreed.quiet (believed : ∀ u x, expected u h = some x → r.stateOf u = some x) :
    Agreed r [] h :=
  ⟨fun u x hx => ⟨by simp, fun _ => believed u x hx⟩, by simp, List.nodup_nil⟩

theorem Agreed.stateOf (a : Agreed r [] h) {u : String} {x : ActiveState}
    (hx : expected u h = some x) : r.stateOf u = some x :=
  (a.believed u x hx).2 (by simp)

/-- An entry for a unit that was not tracked leaves what is expected of the others. -/
theorem Agreed.put (a : Agreed r [] h) {e : Entry η} (fresh : r.get? e.unit.name = none)
    (u : String) (x : ActiveState) (hx : expected u h = some x) :
    (r.put e).stateOf u = some x := by
  have known := a.stateOf hx
  have other : u ≠ e.unit.name := by
    rintro rfl
    rw [Registry.stateOf, fresh] at known
    cases known
  rw [Registry.stateOf, Registry.get?_put_of_ne r other]
  exact known

/-- On the first connection nothing has been said yet. -/
theorem Agreed.first (carries : Carries none h) : Agreed r [] (.discovered r :: h) := by
  refine .quiet ?_
  intro u x hx
  rw [expected] at hx
  split at hx
  · obtain ⟨snapshot, known, -⟩ := carries u x hx
    cases known
  · cases hx

/-- On a later connection, a resync says what has become of what was known. -/
theorem Agreed.again {snapshot : Snapshot} (wellFormed : r.WellFormed)
    (carries : Carries (some snapshot) h) {ts : List Transition} (resync : IsResync r snapshot ts) :
    Agreed r ts (.discovered r :: h) := by
  refine ⟨?_, ?_, resync.once⟩
  · intro u x hx
    rw [expected] at hx
    split at hx
    · next settled =>
      obtain ⟨_, known, hs⟩ := carries u x hx
      cases known
      refine ⟨?_, ?_⟩
      · intro t ht hu
        obtain ⟨e, -, unit, hp, -⟩ := resync.sound t ht
        rw [← unit, hu, hs] at hp
        exact (Option.some.inj hp).symm
      · intro others
        obtain ⟨y, hy⟩ := Option.isSome_iff_exists.1 settled
        -- A unit that is not as it was has a difference, and so an event.
        by_contra differs
        rw [hy] at differs
        obtain ⟨e, he, hey⟩ := Option.bind_eq_some_iff.1 hy
        obtain ⟨t, ht, unit, -⟩ := resync.complete e (Registry.mem_of_get? he) x y
          (by rw [Registry.name_of_get? he, hs]) hey fun hxy => differs (hxy ▸ rfl)
        exact others t ht (by rw [unit, Registry.name_of_get? he])
    · cases hx
  · intro t ht
    obtain ⟨e, he, unit, -, hc, hne⟩ := resync.sound t ht
    rw [unit, Registry.stateOf_of_mem wellFormed he]
    exact ⟨hc, hne⟩

/-- Of a unit that is evicted nothing is expected any more. -/
theorem Agreed.evict (a : Agreed r [] h) (u : String) :
    Agreed (r.evict u) [] (marksOf r (.removed u) ++ h) := by
  refine .quiet ?_
  intro v x hx
  have known : v ≠ u ∧ expected v h = some x := by
    cases tracked : r.contains u with
    | true =>
      have hx : (if u = v then none else expected v h) = some x := by
        simpa [marksOf, tracked, expected] using hx
      split at hx
      · cases hx
      · next other => exact ⟨Ne.symm other, hx⟩
    | false =>
      have known : expected v h = some x := by simpa [marksOf, tracked, expected] using hx
      refine ⟨?_, known⟩
      rintro rfl
      have known := a.stateOf known
      rw [Registry.stateOf, Registry.get?_eq_none.2 tracked] at known
      cases known
  rw [Registry.stateOf_evict, if_neg known.1]
  exact a.stateOf known.2

/-- A report brings at most one event, which starts from what is known. -/
theorem Agreed.apply (a : Agreed r [] h) (report : Report) (now : Microseconds) :
    Agreed (r.apply report now).1 (r.apply report now).2.toList h := by
  cases he : r.get? report.unit with
  | none =>
    simp only [Registry.apply, he]
    exact a
  | some e =>
    have stateOf := Registry.stateOf_apply now he
    -- What is expected of the unit is what its entry knows.
    have before (y : ActiveState) (hy : expected report.unit h = some y) : e.state = some y := by
      have known := a.stateOf hy
      rwa [Registry.stateOf, he] at known
    rw [Registry.apply_of_get? now he] at stateOf ⊢
    cases event : (e.update report now).2 with
    | none =>
      refine .quiet ?_
      intro v y hy
      rw [stateOf]
      split
      · next hv => exact Entry.state_of_update_eq_none event (before y (hv ▸ hy))
      · exact a.stateOf hy
    | some t =>
      obtain ⟨unit, previous, current, differs⟩ := Entry.states_of_update_eq_some event
      have name : t.unit.name = report.unit := by rw [unit, Registry.name_of_get? he]
      refine ⟨?_, ?_, List.nodup_singleton _⟩
      · intro v y hy
        simp only [Option.toList_some, List.mem_singleton, forall_eq, name, stateOf]
        refine ⟨?_, ?_⟩
        · rintro rfl
          rw [before y hy] at previous
          exact (Option.some.inj previous).symm
        · intro other
          rw [if_neg (Ne.symm other)]
          exact a.stateOf hy
      · simp only [Option.toList_some, List.mem_singleton, forall_eq, name, stateOf, if_true]
        exact ⟨current, differs⟩

theorem Agreed.hear (a : Agreed r [] h) (now : Microseconds) (s : Signal) :
    Agreed (react r now s).1 (react r now s).2.toList (marksOf r s ++ h) := by
  cases s with
  | added u => exact ⟨a.believed, a.arrives, a.once⟩
  | other kind => exact ⟨a.believed, a.arrives, a.once⟩
  | removed u => exact a.evict u
  | changed x =>
    cases hx : x.report? with
    | none =>
      simp only [react, hx]
      exact ⟨a.believed, a.arrives, a.once⟩
    | some report =>
      simp only [react, hx]
      have applied := a.apply report now
      exact ⟨applied.believed, applied.arrives, applied.once⟩

/-! ## Where the session stands -/

/-- What was written down is in order. -/
structure InOrder (w : Journal η) : Prop where
  consistent : Consistent w.legs
  chained : Chained w.history

/-- Between two connections. -/
structure Parted (basis : Option Snapshot) (w : Journal η) : Prop extends InOrder w where
  known : lastLost w.legs = basis
  carries : Carries basis w.history

/-- While a connection is started. -/
structure Starting (basis : Option Snapshot) (w : Journal η) : Prop extends Parted basis w where
  blank : w.current.Blank

/-- After discovery, before the first signal. The events in `hand` are still to come. -/
structure Resyncing (basis : Option Snapshot) (r : Registry η) (hand : List Transition)
    (w : Journal η) : Prop extends InOrder w where
  known : lastLost w.past = basis
  taken : w.current.taken = 0
  discovered : w.current.discovered = some r
  log : w.current.log = []
  lost : w.current.lost = none
  wellFormed : r.WellFormed
  agreed : Agreed r hand w.history
  calledFor : CalledFor basis r (w.current.resynced ++ hand)

/-- Signals are handled. The registry is what was discovered, after all that was told since. -/
structure Listening (r : Registry η) (hand : List Transition) (w : Journal η) : Prop
    extends InOrder w where
  resynced : Resynced (lastLost w.past) w.current
  lost : w.current.lost = none
  replayed : ∃ r₀, w.current.discovered = some r₀ ∧ r = replay r₀ w.current.log
  counted : w.current.taken ≤ w.current.arrived.length
  taken : w.current.arrived.take w.current.taken = w.current.heard.map .signal
  busy : hand ≠ [] → w.current.log ≠ []
  wellFormed : r.WellFormed
  agreed : Agreed r hand w.history

variable {w w' : Journal η} {basis : Option Snapshot}

theorem Moves.history_eq (h : Moves w w') : w'.history = w.history := by
  cases h
  rfl

theorem InOrder.moves (h : InOrder w) (step : Moves w w') : InOrder w' := by
  refine ⟨?_, step.history_eq ▸ h.chained⟩
  cases step with
  | arrive a =>
    obtain ⟨resynced, lost, past⟩ := h.consistent
    refine ⟨resynced, ?_, past⟩
    intro snapshot hs
    obtain ⟨r, later, hr, arrived, known⟩ := lost snapshot hs
    exact ⟨r, later ++ [a], hr, by simp [arrived, Leg.heard], known⟩

theorem Parted.moves (h : Parted basis w) (step : Moves w w') : Parted basis w' := by
  refine ⟨h.toInOrder.moves step, ?_, step.history_eq ▸ h.carries⟩
  cases step
  exact h.known

theorem Starting.moves (h : Starting basis w) (step : Moves w w') : Starting basis w' := by
  refine ⟨h.toParted.moves step, ?_⟩
  cases step
  exact { h.blank with }

theorem Resyncing.moves (h : Resyncing basis r hand w) (step : Moves w w') :
    Resyncing basis r hand w' := by
  have inOrder := h.toInOrder.moves step
  cases step
  exact { h with toInOrder := inOrder }

theorem Listening.moves (h : Listening r hand w) (step : Moves w w') : Listening r hand w' := by
  have inOrder := h.toInOrder.moves step
  cases step with
  | arrive a =>
    refine { h with toInOrder := inOrder, counted := ?_, taken := ?_ }
    · simpa using Nat.le_succ_of_le h.counted
    · rw [List.take_append_of_le_length h.counted]
      exact h.taken

/-! ### From one to the next -/

theorem history_of_marks {l : Leg η} {ms : List (Mark η)} (h : l.marks = ms ++ w.current.marks) :
    ({ w with current := l } : Journal η).history = ms ++ w.history := by
  simp [history, legs, h]

/-- Something happens on the current connection. -/
theorem InOrder.current {l : Leg η} (h : InOrder w) (lost : l.lost = none)
    (resynced : l.log ≠ [] → Resynced (lastLost w.past) l)
    (chained : Chained ({ w with current := l } : Journal η).history) :
    InOrder { w with current := l } where
  consistent := by
    refine ⟨fun hl => resynced ?_, fun snapshot hs => ?_, h.consistent.2.2⟩
    · simpa [lost] using hl
    · rw [lost] at hs
      cases hs
  chained := chained

/-- A connection is opened. -/
theorem Parted.opened (h : Parted basis w) : Starting basis (⟨{}, w.legs⟩ : Journal η) where
  consistent := ⟨fun hl => by simp at hl, fun _ hl => by simp at hl, h.consistent⟩
  chained := h.chained
  known := h.known
  carries := h.carries
  blank := ⟨rfl, rfl, rfl, rfl, rfl⟩

theorem Starting.remember (h : Starting basis w) (m : Mark η) :
    w.current.remember m = w.current := by
  simp only [Leg.remember, h.blank.discovered]

/-- The units are discovered. -/
theorem Starting.discovered (h : Starting basis w) (wellFormed : r.WellFormed) (n m : Nat)
    {ts : List Transition} (calledFor : CalledFor basis r ts) :
    Resyncing basis r ts { w with current := w.current.note r (.started n m) } where
  toInOrder := by
    refine h.toInOrder.current h.blank.lost (fun busy => absurd h.blank.log busy) ?_
    rw [history_of_marks (Leg.marks_note r h.blank.marks)]
    exact h.chained
  known := by
    have known := h.known
    rwa [legs, lastLost, h.blank.lost, Option.none_or] at known
  taken := h.blank.taken
  discovered := rfl
  log := h.blank.log
  lost := h.blank.lost
  wellFormed := wellFormed
  agreed := by
    rw [history_of_marks (Leg.marks_note r h.blank.marks)]
    cases basis with
    | none =>
      obtain rfl : ts = [] := calledFor
      exact .first h.carries
    | some snapshot => exact .again wellFormed h.carries calledFor
  calledFor := by
    show CalledFor basis r (w.current.resynced ++ ts)
    rwa [h.blank.resynced]

/-- An event of a resync is yielded. -/
theorem Resyncing.yield {t : Transition} (h : Resyncing basis r (t :: hand) w) :
    Resyncing basis r hand { w with current := w.current.yield t } := by
  obtain ⟨agreed, differs, follows⟩ := h.agreed.yield
  have history := history_of_marks (Leg.marks_yield w.current t)
  rw [Leg.yield_of_quiet t h.log] at history ⊢
  have inOrder : InOrder (⟨{ w.current with resynced := w.current.resynced ++ [t] }, w.past⟩ :
      Journal η) := by
    refine h.toInOrder.current h.lost (fun busy => absurd h.log busy) ?_
    rw [history]
    exact ⟨differs, follows, h.chained⟩
  refine { h with toInOrder := inOrder, agreed := ?_, calledFor := ?_ }
  · rw [history]
    exact agreed
  · have calledFor := h.calledFor
    rwa [List.append_cons] at calledFor

/-- Nothing is due any more. -/
theorem Resyncing.listen (h : Resyncing basis r [] w) : Listening r [] w where
  toInOrder := h.toInOrder
  resynced := by
    rw [h.known]
    exact ⟨r, h.discovered, h.wellFormed, by simpa using h.calledFor⟩
  lost := h.lost
  replayed := ⟨r, h.discovered, by rw [h.log]; rfl⟩
  counted := by simp [h.taken]
  taken := by simp [h.taken, Leg.heard, h.log]
  busy := by simp
  wellFormed := h.wellFormed
  agreed := h.agreed

/-! ### While listening -/

/-- The session takes a signal. -/
theorem Listening.hear {s : Signal} (h : Listening r [] w)
    (next : w.current.arrived[w.current.taken]? = some (.signal s)) (now : Microseconds) :
    Listening (react r now s).1 (react r now s).2.toList
      { w with current := w.current.hear r s } where
  toInOrder := by
    refine h.toInOrder.current h.lost (fun _ => h.resynced) ?_
    rw [history_of_marks (Leg.marks_hear w.current r s)]
    exact (chained_marksOf r s w.history).2 h.chained
  resynced := h.resynced
  lost := h.lost
  replayed := by
    obtain ⟨r₀, hr, replayed⟩ := h.replayed
    refine ⟨r₀, hr, ?_⟩
    show _ = replay r₀ (marksOf r s ++ w.current.log)
    rw [replay_marksOf, react_fst_eq, ← replayed]
  counted := (List.getElem?_eq_some_iff.1 next).1
  taken := by
    rw [Leg.heard_hear, List.map_append, ← h.taken]
    show w.current.arrived.take (w.current.taken + 1) = _
    rw [List.take_add_one, next]
    rfl
  busy _ := by simp [Leg.hear, Leg.marksOf_ne_nil]
  wellFormed := react_wellFormed h.wellFormed now s
  agreed := by
    rw [history_of_marks (Leg.marks_hear w.current r s)]
    exact h.agreed.hear now s

/-- The event of a signal is yielded. -/
theorem Listening.yield {t : Transition} (h : Listening r (t :: hand) w) :
    Listening r hand { w with current := w.current.yield t } := by
  obtain ⟨agreed, differs, follows⟩ := h.agreed.yield
  have history := history_of_marks (Leg.marks_yield w.current t)
  rw [Leg.yield_of_busy t (h.busy (List.cons_ne_nil _ _))] at history ⊢
  have inOrder : InOrder { w with current := w.current.write (.yielded t) } := by
    refine h.toInOrder.current h.lost (fun _ => h.resynced) ?_
    rw [history]
    exact ⟨differs, follows, h.chained⟩
  refine { h with
    toInOrder := inOrder, busy := fun _ => List.cons_ne_nil _ _
    taken := h.taken.trans (congrArg _ (w.current.heard_write rfl).symm), agreed := ?_ }
  rw [history]
  exact agreed

theorem Listening.remember_eq (h : Listening r hand w) (m : Mark η) :
    w.current.remember m = w.current.write m := by
  obtain ⟨r₀, hr, -⟩ := h.replayed
  simp only [Leg.remember, hr]

/-- The session is told something that brings no event. -/
theorem Listening.remember {m : Mark η} {r' : Registry η} (h : Listening r [] w)
    (chained : Chained (m :: w.history) ↔ Chained w.history) (unheard : m.heard? = none)
    (replayed : ∀ r₀, r = replay r₀ w.current.log → r' = replay r₀ (m :: w.current.log))
    (wellFormed : r'.WellFormed) (agreed : Agreed r' [] (m :: w.history)) :
    Listening r' [] { w with current := w.current.remember m } := by
  obtain ⟨r₀, hr, known⟩ := h.replayed
  have history := history_of_marks (Leg.marks_write w.current m)
  rw [h.remember_eq]
  have inOrder : InOrder { w with current := w.current.write m } := by
    refine h.toInOrder.current h.lost (fun _ => h.resynced) ?_
    rw [history]
    exact chained.2 h.chained
  refine { h with
    toInOrder := inOrder, replayed := ⟨r₀, hr, replayed r₀ known⟩, busy := by simp
    taken := h.taken.trans (congrArg _ (w.current.heard_write unheard).symm)
    wellFormed := wellFormed, agreed := ?_ }
  rw [history]
  exact agreed

/-- A unit has been subscribed to. -/
theorem Listening.subscribed (h : Listening r [] w) (u : String) (k : η) :
    Listening r [] { w with current := w.current.remember (.subscribed u k) } :=
  h.remember Iff.rfl rfl (fun _ known => known) h.wellFormed
    ⟨h.agreed.believed, h.agreed.arrives, h.agreed.once⟩

/-- A unit that was not tracked has been subscribed to, and its state is fetched. -/
theorem Listening.fetched {u : String} {k : η} {x : RawState} {log : List (Mark η)}
    (h : Listening r [] w) (fresh : r.get? u = none) (unit : x.unit = u)
    (last : w.current.log = .subscribed u k :: log) :
    Listening (r.enroll u k x) [] { w with current := w.current.remember (.fetched u x) } := by
  refine h.remember Iff.rfl rfl ?_ (h.wellFormed.enroll k unit) ?_
  · intro r₀ known
    rw [known, last]
    rfl
  · rw [Registry.enroll_eq_put r k unit]
    exact .quiet (h.agreed.put fresh)

/-- A unit that was not tracked has been subscribed to, and its state is none of the five. -/
theorem Listening.unrecognized {u : String} {k : η} {log : List (Mark η)}
    (h : Listening r [] w) (fresh : r.get? u = none)
    (last : w.current.log = .subscribed u k :: log) :
    Listening (r.insertPending u k) []
      { w with current := w.current.remember (.unrecognized u) } := by
  refine h.remember Iff.rfl rfl ?_ (h.wellFormed.insertPending u k) (.quiet (h.agreed.put fresh))
  intro r₀ known
  rw [known, last]
  rfl

/-- The connection is lost. -/
theorem Listening.lose (h : Listening r [] w)
    (next : w.current.arrived[w.current.taken]? = some .loss) :
    Parted (some r.states) { w with current := w.current.lose r } where
  consistent := by
    refine ⟨fun _ => h.resynced, ?_, h.consistent.2.2⟩
    intro snapshot hs
    obtain ⟨r₀, hr, known⟩ := h.replayed
    refine ⟨r₀, w.current.arrived.drop (w.current.taken + 1), hr, ?_, ?_⟩
    · obtain ⟨lt, here⟩ := List.getElem?_eq_some_iff.1 next
      rw [show (w.current.lose r).heard = w.current.heard from rfl, ← h.taken, ← here,
        List.getElem_cons_drop]
      exact (List.take_append_drop ..).symm
    · cases hs
      rw [known]
      rfl
  chained := h.chained
  known := rfl
  carries u x hx := ⟨_, rfl, by rw [Registry.lookup_states h.wellFormed, h.agreed.stateOf hx]⟩

end Journal

end UnitWatch.Session
