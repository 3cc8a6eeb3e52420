import UnitWatch.Host.Path
import UnitWatch.Log.Record

/-!
# Logging options

How much is logged, in which form, and to which file beside the standard error stream.
-/

namespace UnitWatch.Log

/-- The least severity that is logged. -/
inductive Threshold where
  | debug | info | warning | error | critical
  deriving DecidableEq, Repr, Inhabited

namespace Threshold

def all : List Threshold := [debug, info, warning, error, critical]

def word : Threshold → String
  | debug => "debug"
  | info => "info"
  | warning => "warning"
  | error => "error"
  | critical => "critical"

/-- The threshold with this word. -/
def ofWord? (s : String) : Option Threshold := all.find? (·.word == s)

end Threshold

inductive Format where
  | json | console
  deriving DecidableEq, Repr, Inhabited

namespace Format

def all : List Format := [json, console]

def word : Format → String
  | json => "json"
  | console => "console"

end Format

structure Options where
  level : Threshold := .info
  format : Format := .console
  file : Option Path := none
  deriving DecidableEq, Inhabited

end UnitWatch.Log
