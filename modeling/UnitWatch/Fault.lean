import UnitWatch.Value

/-!
# Faults

Everything the daemon reports as an error of its own. A fault is a cause with the data that belongs
to it; its **message** and its **context** (the same data under names, for structured logs) are
functions of the cause.

**Families.** Faults form families: settings, units, buses, notifications, and one above them all.
`Fault.lineage` lists the names of a fault and of the families it belongs to, narrowest first.
-/

namespace UnitWatch

/-- A fault of a bus. -/
inductive BusFault where
  | connection (scope reason : String)
  | call (call reason : String) (errorName : Option String)
  | disconnected (scope : String)
  deriving DecidableEq, Inhabited

namespace BusFault

def message : BusFault → String
  | connection scope reason => "Failed to connect to " ++ scope ++ " D-Bus bus: " ++ reason
  | call c reason _ => "Failed to call " ++ c ++ ": " ++ reason
  | disconnected scope => "Lost connection to " ++ scope ++ " D-Bus bus"

def context : BusFault → List (String × Value)
  | connection scope reason => [("bus_scope", .text scope), ("reason", .text reason)]
  | call c reason errorName =>
      [("call", .text c), ("reason", .text reason), ("error_name", .ofText? errorName)]
  | disconnected scope => [("bus_scope", .text scope)]

end BusFault

/-- The families of faults; a general fault has nothing but its family, a text and a context. -/
inductive Fault.Family where
  | any | settings | unit | bus | notification
  deriving DecidableEq, Inhabited

inductive Fault where
  | general (family : Fault.Family) (message : String) (context : List (String × Value))
  | settingsNotFound (searched : List String)
  | settingsUnreadable (path reason : String)
  | settingsInvalid (message : String) (errors : List Value)
  | unknownActiveState (value : String)
  | bus (fault : BusFault)
  | sessionFailed (scope reason : String) (attempts : Int)
  | notifierDelivery (notifier reason : String)
  | notifierTimeout (notifier : String) (timeout : Value)
  deriving Inhabited

namespace Fault

/-! ## Names -/

def Family.names : Family → List String
  | any => ["KilljoyError"]
  | settings => ["SettingsError", "KilljoyError"]
  | unit => ["UnitError", "KilljoyError"]
  | bus => ["BusError", "KilljoyError"]
  | notification => ["NotificationError", "KilljoyError"]

/-- The names of a fault and of the families it belongs to, narrowest first. -/
def lineage : Fault → List String
  | general family _ _ => family.names
  | settingsNotFound _ => "SettingsNotFoundError" :: Family.settings.names
  | settingsUnreadable _ _ => "SettingsParseError" :: Family.settings.names
  | settingsInvalid _ _ => "SettingsValidationError" :: Family.settings.names
  | unknownActiveState _ => "UnknownActiveStateError" :: Family.unit.names
  | bus (.connection _ _) => "BusConnectionError" :: Family.bus.names
  | bus (.call _ _ _) => "BusCallError" :: Family.bus.names
  | bus (.disconnected _) => "BusDisconnectedError" :: Family.bus.names
  | sessionFailed _ _ _ => "SessionFailedError" :: Family.bus.names
  | notifierDelivery _ _ => "NotifierDeliveryError" :: Family.notification.names
  | notifierTimeout _ _ => "NotifierTimeoutError" :: Family.notification.names

def name (f : Fault) : String := f.lineage.headD ""

/-- Whether the fault is about a value that was not accepted. -/
def isValueFault : Fault → Bool
  | unknownActiveState _ => true
  | _ => false

/-- Whether the fault belongs to the family of buses. -/
def isBusFault : Fault → Bool
  | general .bus _ _ | bus _ | sessionFailed _ _ _ => true
  | _ => false

/-! ## Texts and data -/

/-- Seconds with one decimal. -/
def tenths : Value → String
  | .int n => (Binary64.ofInt n).fixedPlaces 1
  | .bool b => (Binary64.ofInt (if b then 1 else 0)).fixedPlaces 1
  | .float x => x.fixedPlaces 1
  | v => v.display

def message : Fault → String
  | general _ m _ => m
  | settingsNotFound searched =>
      "Failed to find a settings file in $XDG_CONFIG_HOME or $XDG_CONFIG_DIRS. Searched: "
        ++ ", ".intercalate searched
  | settingsUnreadable path reason => "Failed to read settings file '" ++ path ++ "': " ++ reason
  | settingsInvalid m _ => m
  | unknownActiveState value => "Found invalid active state: " ++ value
  | bus f => f.message
  | sessionFailed scope reason _ => "Monitoring of " ++ scope ++ " bus stopped: " ++ reason
  | notifierDelivery notifier reason =>
      "Error occurred when contacting notifier '" ++ notifier ++ "': " ++ reason
  | notifierTimeout notifier timeout =>
      "Notifier '" ++ notifier ++ "' did not reply within " ++ tenths timeout ++ "s"

/-- The data of a fault under names. -/
def context : Fault → List (String × Value)
  | general _ _ c => c
  | settingsNotFound searched => [("searched", .texts searched)]
  | settingsUnreadable path reason => [("path", .text path), ("reason", .text reason)]
  | settingsInvalid _ errors => [("validation_errors", .list errors)]
  | unknownActiveState value => [("value", .text value)]
  | bus f => f.context
  | sessionFailed scope reason attempts =>
      [("bus_scope", .text scope), ("reason", .text reason), ("attempts", .int attempts)]
  | notifierDelivery notifier reason => [("notifier", .text notifier), ("reason", .text reason)]
  | notifierTimeout notifier timeout => [("notifier", .text notifier), ("timeout", timeout)]

/-- The data that a handler can ask a fault for: its context, under the handler's names. -/
def attributes : Fault → List (String × Value)
  | general _ _ _ => []
  | settingsInvalid _ errors => [("errors", .list errors)]
  | f => f.context

/-- How a fault shows itself: its name, and in brackets its message and its context. -/
def literal (f : Fault) : String :=
  f.name ++ "(" ++ Text.quoted f.message ++ ", context=" ++ (Value.object f.context).literal ++ ")"

end Fault

end UnitWatch
