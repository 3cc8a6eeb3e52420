import UnitWatch.Bus.Properties

/-!
# What can be read from a table of properties

A table of properties is data from the bus, and can be anything. A raw state can be read from it if
it has a state, and if the times that belong to that state are integers or absent (`Readable`). What
is read is that state and those times (`rawState_eq_ok`).
-/

namespace UnitWatch.UnitProperties

/-- A timestamp is absent, or it stands for an integer. -/
def Converts : Option Value → Prop
  | none | some .null => True
  | some v => ∃ n, integer v = .ok n

/-- A table that a state can be read from: it has one, and the times that belong to a state which is
one of the five are no other values than integers. -/
def Readable (props : List (String × Value)) : Prop :=
  ∃ v, Value.field? props stateKey = some v ∧ ∀ s, ActiveState.ofWord? v.display = some s →
    Converts (Value.field? props s.monotonicKey) ∧ Converts (Value.field? props s.realtimeKey)

theorem timestamp_converts {props : List (String × Value)} {key : String} :
    (∃ t, timestamp props key = .ok t) ↔ Converts (Value.field? props key) := by
  unfold timestamp
  split
  · next h => simp [h, Converts]
  · next h => simp [h, Converts]
  · next v notNull h =>
    have converts : Converts (some v) ↔ ∃ n, integer v = .ok n := by
      cases v <;> first | exact Iff.rfl | exact absurd rfl notNull
    rw [h, converts]
    cases integer v with
    | ok n => simp [Except.map]
    | error e => simp [Except.map]

theorem timestamps_eq_ok {word : String} {props : List (String × Value)} {m r : Option Int} :
    timestamps word props = .ok (m, r) ↔
      match ActiveState.ofWord? word with
      | none => m = none ∧ r = none
      | some s =>
        timestamp props s.monotonicKey = .ok m ∧ timestamp props s.realtimeKey = .ok r := by
  unfold timestamps
  cases ActiveState.ofWord? word with
  | none => simp [eq_comm]
  | some s =>
    dsimp only
    cases timestamp props s.monotonicKey with
    | error e => simp [bind, Except.bind]
    | ok m' => cases timestamp props s.realtimeKey <;> simp [bind, Except.bind]

/-- What a table tells is the state's word, and the times that belong to the state. -/
theorem rawState_eq_ok {unit : String} {props : List (String × Value)} {x : RawState} :
    rawState unit props = .ok x ↔ x.unit = unit ∧
      ∃ v, Value.field? props stateKey = some v ∧ x.state = v.display ∧
        timestamps v.display props = .ok (x.monotonic, x.realtime) := by
  obtain ⟨u, word, m, r⟩ := x
  unfold rawState
  cases Value.field? props stateKey with
  | none => simp
  | some v =>
    cases h : timestamps v.display props with
    | error e => simp [bind, Except.bind, h]
    | ok t =>
      obtain ⟨m', r'⟩ := t
      simp [bind, Except.bind, h, eq_comm]

/-- A state can be read from a table if and only if it is readable. -/
theorem readable_iff {unit : String} {props : List (String × Value)} :
    Readable props ↔ ∃ x, rawState unit props = .ok x := by
  constructor
  · rintro ⟨v, hv, times⟩
    obtain ⟨m, r, read⟩ : ∃ m r, timestamps v.display props = .ok (m, r) := by
      simp only [timestamps_eq_ok]
      cases hs : ActiveState.ofWord? v.display with
      | none => exact ⟨none, none, rfl, rfl⟩
      | some s =>
        obtain ⟨m, hm⟩ := timestamp_converts.mpr (times s hs).1
        obtain ⟨r, hr⟩ := timestamp_converts.mpr (times s hs).2
        exact ⟨m, r, hm, hr⟩
    exact ⟨⟨unit, v.display, m, r⟩, rawState_eq_ok.mpr ⟨rfl, v, hv, rfl, read⟩⟩
  · rintro ⟨x, read⟩
    obtain ⟨-, v, hv, -, times⟩ := rawState_eq_ok.mp read
    refine ⟨v, hv, fun s hs => ?_⟩
    rw [timestamps_eq_ok, hs] at times
    exact ⟨timestamp_converts.mp ⟨_, times.1⟩, timestamp_converts.mp ⟨_, times.2⟩⟩

theorem unit_of_rawState {unit : String} {props : List (String × Value)} {x : RawState}
    (h : rawState unit props = .ok x) : x.unit = unit := (rawState_eq_ok.mp h).1

end UnitWatch.UnitProperties
