/-!
# Active states

The five states of a unit that rules can name. The service manager reports states as words; a word
outside the five is no `ActiveState`, and what to do about it is left to the caller.
-/

namespace UnitWatch

inductive ActiveState where
  | activating | active | deactivating | failed | inactive
  deriving DecidableEq, Repr, Inhabited

namespace ActiveState

def all : List ActiveState := [activating, active, deactivating, failed, inactive]

/-- The word for a state. -/
def word : ActiveState → String
  | activating => "activating"
  | active => "active"
  | deactivating => "deactivating"
  | failed => "failed"
  | inactive => "inactive"

/-- The state with this word. -/
def ofWord? (s : String) : Option ActiveState := all.find? (·.word == s)

/-- The unit property that holds when this state was last entered, by the wall clock. A failed unit
is inactive, so both states share a property. -/
def realtimeKey : ActiveState → String
  | activating => "InactiveExitTimestamp"
  | active => "ActiveEnterTimestamp"
  | deactivating => "ActiveExitTimestamp"
  | failed | inactive => "InactiveEnterTimestamp"

/-- The unit property that holds when this state was last entered, since boot. -/
def monotonicKey (s : ActiveState) : String := s.realtimeKey ++ "Monotonic"

theorem ofWord?_word (s : ActiveState) : ofWord? s.word = some s := by cases s <;> decide

theorem ofWord?_eq_some_iff {w : String} {s : ActiveState} : ofWord? w = some s ↔ w = s.word := by
  constructor
  · intro h
    have found := List.find?_some (p := fun t : ActiveState => t.word == w) h
    exact (eq_of_beq found).symm
  · rintro rfl
    exact ofWord?_word s

end ActiveState

end UnitWatch
