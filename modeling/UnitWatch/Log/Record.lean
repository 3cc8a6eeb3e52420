import UnitWatch.Value

/-!
# Log records

A record is a level, the name of what happened, and data about it under names.

**Scope.** Work done for one bus scope says so: `Record.inScope` adds the scope, unless the record
already names one.
-/

namespace UnitWatch.Log

inductive Level where
  | debug | info | warning | error | critical
  /-- An error together with the failure that caused it. -/
  | exception
  deriving DecidableEq, Repr, Inhabited

def Level.word : Level → String
  | .debug => "debug"
  | .info => "info"
  | .warning => "warning"
  | .error => "error"
  | .critical => "critical"
  | .exception => "exception"

structure Record where
  level : Level
  event : String
  fields : List (String × Value)
  deriving Inhabited

/-- The fields of a record with the scope that the current work is bound to, if there is one. -/
def withScope (scope : Option String) (fields : List (String × Value)) : List (String × Value) :=
  match scope with
  | some s => if fields.any (·.1 == "bus_scope") then fields else fields ++ [("bus_scope", .text s)]
  | none => fields

def Record.inScope (scope : Option String) (r : Record) : Record :=
  { r with fields := withScope scope r.fields }

/-- The scope that work is bound to after a sequence of bindings; `none` binds nothing. -/
def boundScope (bindings : List (Option String)) : Option String :=
  bindings.foldl (fun bound b => b.orElse fun _ => bound) none

end UnitWatch.Log
