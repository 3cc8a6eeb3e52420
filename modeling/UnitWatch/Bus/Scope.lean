/-!
# Bus scopes

The two message buses that units and notifiers live on.
-/

namespace UnitWatch

inductive BusScope where
  | session | system
  deriving DecidableEq, Repr, Inhabited

namespace BusScope

/-- The scopes in the order in which they are listed. -/
def all : List BusScope := [session, system]

def word : BusScope → String
  | session => "session"
  | system => "system"

/-- The scope with this word. -/
def ofWord? (s : String) : Option BusScope := all.find? (·.word == s)

end BusScope

end UnitWatch
