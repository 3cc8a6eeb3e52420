import UnitWatch.Proofs.Session.Steps

/-!
# Registries without subscriptions

What a session knows about its units does not depend on the subscriptions through which it knows it:
every operation on a registry commutes with forgetting them. Nor does it depend on the clock, apart
from the times of those events for which the bus said none (`Transition.clockless`).
-/

namespace UnitWatch

variable {η θ : Type}

/-! ## Entries -/

namespace Entry

/-- The entry without its subscription. -/
def forget (e : Entry η) : Entry Unit := ⟨e.unit, e.state, e.timestamp, ()⟩

theorem forget_update (e : Entry η) (report : Report) (now : Microseconds) :
    e.forget.update report now = ((e.update report now).1.forget, (e.update report now).2) := by
  unfold update forget
  by_cases stale : e.isStale report.monotonic = true
  · have stale' : isStale ⟨e.unit, e.state, e.timestamp, ()⟩ report.monotonic = true := stale
    rw [if_pos stale, if_pos stale']
  · have fresh : ¬isStale ⟨e.unit, e.state, e.timestamp, ()⟩ report.monotonic = true := stale
    rw [if_neg stale, if_neg fresh]
    cases e.state with
    | none => rfl
    | some s => by_cases same : report.state = s <;> simp [same]

end Entry

/-- Whether the bus said when a state was entered. -/
def RawState.isDated (x : RawState) : Bool := x.realtime.any (· ≠ 0)

/-- An event as far as it does not depend on the clock, if the bus said its time or did not. -/
def Transition.clockless (dated : Bool) (t : Transition) : Transition :=
  if dated then t else { t with time := 0 }

@[simp] theorem Transition.unit_clockless (dated : Bool) (t : Transition) :
    (t.clockless dated).unit = t.unit := by
  cases dated <;> rfl

theorem Transition.clockless_eventTime (x : RawState) (unit : UnitId)
    (previous current : ActiveState) (now now' : Microseconds) :
    clockless x.isDated ⟨unit, previous, current, Entry.eventTime x.realtime now⟩ =
      clockless x.isDated ⟨unit, previous, current, Entry.eventTime x.realtime now'⟩ := by
  unfold clockless RawState.isDated Entry.eventTime
  cases x.realtime with
  | none => rfl
  | some r => by_cases zero : r = 0 <;> simp [zero]

/-- What the clock shows makes no difference to the entry, nor to an event that is dated. -/
theorem Entry.update_clockless (e : Entry η) {x : RawState} {report : Report}
    (h : x.report? = some report) (now now' : Microseconds) :
    (e.update report now).1 = (e.update report now').1 ∧
      (e.update report now).2.map (Transition.clockless x.isDated) =
        (e.update report now').2.map (Transition.clockless x.isDated) := by
  obtain ⟨word, -, rfl⟩ := Option.map_eq_some_iff.1 h
  unfold update
  split
  · exact ⟨rfl, rfl⟩
  · cases e.state with
    | none => exact ⟨rfl, rfl⟩
    | some previous =>
      by_cases same : word = previous
      · simp [same]
      · simpa [same] using Transition.clockless_eventTime x e.unit previous word now now'

/-! ## Registries -/

namespace Registry

/-- The registry without the subscriptions. -/
def forget (r : Registry η) : Registry Unit := ⟨r.scope, r.entries.map Entry.forget⟩

theorem get?_forget (r : Registry η) (u : String) :
    r.forget.get? u = (r.get? u).map Entry.forget := by
  unfold get? forget
  rw [List.find?_map]
  rfl

theorem contains_forget (r : Registry η) (u : String) : r.forget.contains u = r.contains u := by
  rw [contains_eq, contains_eq, get?_forget, Option.isSome_map]

theorem forget_put (r : Registry η) (e : Entry η) :
    (r.put e).forget = r.forget.put e.forget := by
  have known : r.forget.contains e.forget.unit.name = r.contains e.unit.name :=
    contains_forget r e.unit.name
  unfold put
  rw [known]
  unfold forget
  by_cases here : r.contains e.unit.name = true
  · simp only [if_pos here, List.map_map]
    congr 1
    refine List.map_congr_left fun old _ => ?_
    exact apply_ite Entry.forget _ _ _
  · simp only [if_neg here, List.map_append, List.map_singleton]

theorem forget_evict (r : Registry η) (u : String) : (r.evict u).forget = r.forget.evict u := by
  unfold evict forget
  rw [List.filter_map]
  rfl

theorem forget_enroll (r : Registry η) (u : String) (k : η) {x : RawState} (hx : x.unit = u) :
    (r.enroll u k x).forget = r.forget.enroll u () x := by
  rw [enroll_eq_put r k hx, enroll_eq_put r.forget () hx, forget_put]
  rfl

theorem forget_apply (r : Registry η) (report : Report) (now : Microseconds) :
    r.forget.apply report now = ((r.apply report now).1.forget, (r.apply report now).2) := by
  unfold apply
  rw [get?_forget]
  cases r.get? report.unit with
  | none => rfl
  | some e =>
    show (r.forget.put (e.forget.update report now).1, (e.forget.update report now).2) = _
    rw [Entry.forget_update]
    exact Prod.ext (forget_put r _).symm rfl

/-- Neither subscriptions nor the clock make a difference to the registry, nor to an event that is
dated. -/
theorem apply_clockless {r : Registry η} {r' : Registry θ} (same : r.forget = r'.forget)
    {x : RawState} {report : Report} (h : x.report? = some report) (now now' : Microseconds) :
    (r.apply report now).1.forget = (r'.apply report now').1.forget ∧
      (r.apply report now).2.map (Transition.clockless x.isDated) =
        (r'.apply report now').2.map (Transition.clockless x.isDated) := by
  have forgotten : r.forget.apply report now = r'.forget.apply report now := by rw [same]
  rw [forget_apply, forget_apply, Prod.mk.injEq] at forgotten
  rw [forgotten.1, forgotten.2]
  unfold apply
  cases r'.get? report.unit with
  | none => exact ⟨rfl, rfl⟩
  | some e =>
    obtain ⟨entry, event⟩ := e.update_clockless h now now'
    exact ⟨congrArg (fun e => (r'.put e).forget) entry, event⟩

theorem states_forget (r : Registry η) : r.forget.states = r.states := by
  unfold states forget
  rw [List.filterMap_map]
  rfl

end Registry

namespace Session

theorem differences_forget (r : Registry η) (snapshot : Snapshot) :
    differences r.forget snapshot = differences r snapshot := by
  unfold differences Registry.forget
  rw [List.filterMap_map]
  rfl

/-- The state without the subscriptions. -/
def State.forget (s : State η) : State Unit := ⟨s.registry.forget, s.connected⟩

end Session

end UnitWatch
