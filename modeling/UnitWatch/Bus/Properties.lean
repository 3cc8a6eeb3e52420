import UnitWatch.Event
import UnitWatch.Failure
import UnitWatch.Number.IntegerText

/-!
# Unit properties

A unit's properties come as a table of values. A **raw state** is read from it: the state's word, and
the times when that state was last entered, which stand under keys that depend on the state. A state
that is not one of the five has no times.
-/

namespace UnitWatch.UnitProperties

/-- The property that holds the state's word. -/
def stateKey : String := "ActiveState"

/-- The integer that a property value stands for: the integer part of a number, or what a text
spells. -/
def integer (v : Value) : Except Crash Int :=
  match v with
  | .int n => .ok n
  | .bool b => .ok (if b then 1 else 0)
  | .float .nan => .error .integerOfNan
  | .float (.infinite _) => .error .integerOfInfinite
  | .float x => .ok (x.trunc?.getD 0)
  | .text s =>
      match IntegerText.read? s.toList with
      | some n => .ok n
      | none => .error (.notAnInteger s)
  | _ => .error .wrongType

/-- A timestamp property; one that is absent or `null` is none. -/
def timestamp (props : List (String × Value)) (key : String) : Except Crash (Option Int) :=
  match Value.field? props key with
  | none | some .null => .ok none
  | some v => (integer v).map some

/-- When the state with this word was last entered: since boot, and by the wall clock. -/
def timestamps (word : String) (props : List (String × Value)) :
    Except Crash (Option Int × Option Int) :=
  match ActiveState.ofWord? word with
  | none => .ok (none, none)
  | some s => do
      let monotonic ← timestamp props s.monotonicKey
      let realtime ← timestamp props s.realtimeKey
      .ok (monotonic, realtime)

/-- The raw state that a unit's properties tell. -/
def rawState (unit : String) (props : List (String × Value)) : Except Crash RawState :=
  match Value.field? props stateKey with
  | none => .error (.missingKey stateKey)
  | some v => do
      let (monotonic, realtime) ← timestamps v.display props
      .ok ⟨unit, v.display, monotonic, realtime⟩

end UnitWatch.UnitProperties
