import UnitWatch.Check.Scalar
import UnitWatch.Log.Options

/-!
# Configuration of the daemon

How the daemon itself works: logging, calls to buses, reconnecting, notifying, and where the settings
are. Every option has a default, and fields that are no options are passed over. `Config.check` reads
the options from named values and reports all findings.
-/

namespace UnitWatch

open Check

/-- How buses are dealt with; times are in seconds. -/
structure BusOptions where
  callTimeout : Binary64 := .ofInt 1
  /-- How many failed reconnects in a row are tolerated. -/
  attempts : Int := 5
  backoff : Binary64 := .ofInt 1
  backoffMax : Binary64 := .ofInt 30
  deriving DecidableEq, Inhabited

structure Config where
  logging : Log.Options := {}
  bus : BusOptions := {}
  /-- How many seconds a notifier may take. -/
  notifyTimeout : Binary64 := .ofInt 5
  settingsPath : Option Path := none
  deriving DecidableEq, Inhabited

namespace Config

/-! ## Names -/

def loggingFields : List String := ["level", "format", "file"]

def busFields : List String :=
  ["call_timeout_seconds", "reconnect_attempts", "reconnect_backoff_seconds",
   "reconnect_backoff_max_seconds"]

def notifyFields : List String := ["timeout_seconds"]

/-- The groups of options with the options in them. -/
def groups : List (String × List String) :=
  [("logging", loggingFields), ("bus", busFields), ("notify", notifyFields)]

/-- The option that stands in no group. -/
def settingsField : String := "settings_path"

def fieldNames : List String := groups.map (·.1) ++ [settingsField]

/-! ## Checks -/

/-- A path, or nothing. -/
def checkPath : Checker (Option Path)
  | .null => .valid none
  | .text s => .valid (some (Path.ofText s))
  | .brokenText _ => .reject .brokenText
  | _ => .reject .notPath

def loggingParts (fs : List (String × Value)) :
    Result (Log.Threshold × Log.Format × Option Path) :=
  let level := optional fs "level" (oneOf Log.Threshold.all Log.Threshold.word) .info
  let format := optional fs "format" (oneOf Log.Format.all Log.Format.word) .console
  let file := optional fs "file" checkPath none
  level.both (format.both file)

def checkLogging : Checker Log.Options := description "LoggingConfig" loggingParts
  fun (level, format, file) => .valid ⟨level, format, file⟩

/-- The greatest delay must not be less than the first. -/
def checkDelays (o : BusOptions) : Result BusOptions :=
  if o.backoffMax.lt o.backoff then
    .reject (.rejected "reconnect_backoff_max_seconds must be >= reconnect_backoff_seconds")
  else .valid o

def busParts (fs : List (String × Value)) : Result (Binary64 × Int × Binary64 × Binary64) :=
  let d : BusOptions := {}
  let timeout := optional fs "call_timeout_seconds" (above 0) d.callTimeout
  let attempts := optional fs "reconnect_attempts" (between 0 100) d.attempts
  let delay := optional fs "reconnect_backoff_seconds" (above 0) d.backoff
  let longest := optional fs "reconnect_backoff_max_seconds" (above 0) d.backoffMax
  timeout.both (attempts.both (delay.both longest))

def checkBus : Checker BusOptions := description "BusConfig" busParts
  fun (timeout, attempts, delay, longest) => checkDelays ⟨timeout, attempts, delay, longest⟩

def checkNotify : Checker Binary64 := description "NotifyConfig"
  (fun fs => optional fs "timeout_seconds" (above 0) (.ofInt 5)) .valid

/-- The configuration that named values describe. -/
def check (fs : List (String × Value)) : Result Config :=
  let logging := optional fs "logging" checkLogging {}
  let bus := optional fs "bus" checkBus {}
  let notify := optional fs "notify" checkNotify (.ofInt 5)
  let path := optional fs settingsField checkPath none
  (logging.both (bus.both (notify.both path))).map fun (logging, bus, notify, path) =>
    ⟨logging, bus, notify, path⟩

end Config

end UnitWatch
