import UnitWatch.Failure
import UnitWatch.Json.Writer
import UnitWatch.Log.Options

/-!
# Log lines

An **entry** is a record together with the logger that it came through and the scope that the work
was bound to. It is written as a JSON object, or as a line for people:

- the time, the level in brackets, what happened, the logger in brackets, and the other fields sorted
  by name. A text is quoted there if it could be misread.

**Severity.** An entry is logged if it is as severe as the logger demands. The logger of the event
loop and those below it are never asked for less than a warning.
-/

namespace UnitWatch.Log

structure Entry where
  logger : String
  record : Record
  scope : Option String := none
  deriving Inhabited

/-! ## Severity -/

def Level.severity : Level → Nat
  | .debug => 10
  | .info => 20
  | .warning => 30
  | .error | .exception => 40
  | .critical => 50

/-- The words for severities, in capitals. -/
def severities : List (String × Nat) :=
  [("CRITICAL", 50), ("FATAL", 50), ("ERROR", 40), ("WARNING", 30), ("WARN", 30), ("INFO", 20),
   ("DEBUG", 10), ("NOTSET", 0)]

/-- The severity that a word stands for, in letters of any case. -/
def severity (word : String) : Except Crash Nat :=
  match severities.lookup word.toUpper with
  | some n => .ok n
  | none => .error (.unknownLevel word.toUpper)

/-- Whether a logger is the event loop's, or one below it. -/
def isLoopLogger (logger : String) : Bool := logger == "asyncio" || logger.startsWith "asyncio."

/-- Whether an entry is logged where a severity is demanded. -/
def Entry.isEnabled (least : Nat) (e : Entry) : Bool :=
  (if isLoopLogger e.logger then Level.warning.severity else least) ≤ e.record.level.severity

/-! ## Writing -/

/-- The word for a level in a line; a failure behind an error does not show. -/
def Level.label : Level → String
  | .exception => "error"
  | l => l.word

/-- All that an entry tells, at a time. -/
def Entry.fields (e : Entry) (time : String) : List (String × Value) :=
  let fs := withScope e.scope (Value.put e.record.fields "event" (.text e.record.event))
  let fs := Value.put fs "level" (.text e.record.level.label)
  let fs := Value.put fs "logger" (.text e.logger)
  Value.put fs "timestamp" (.text time)

/-- Blanks behind a text up to a width. -/
def pad (width : Nat) (s : String) : String :=
  s ++ String.ofList (List.replicate (width - s.length) ' ')

/-- Whether a text could be misread when it stands for itself. -/
def needsQuotes (s : String) : Bool := s.toList.any fun c => " \t=\r\n\"'".toList.contains c

/-- A field for people. -/
def showField (f : String × Value) : String :=
  f.1 ++ "=" ++ match f.2 with
    | .text s => if needsQuotes s then Text.quoted s else s
    | v => v.literal

/-- The fields that have a place of their own in a line. -/
def placedFields : List String := ["event", "level", "logger", "timestamp"]

def Entry.consoleLine (e : Entry) (time : String) : String :=
  let others := (e.fields time).filter fun f => !placedFields.contains f.1
  let sorted := others.mergeSort fun f g => !(g.1 < f.1)
  " ".intercalate
    ([time, "[" ++ pad 9 e.record.level.label ++ "]", pad 30 e.record.event, "[" ++ e.logger ++ "]"]
      ++ sorted.map showField)

def Entry.render (e : Entry) (format : Format) (time : String) : String :=
  match format with
  | .json => Json.write (.object (e.fields time))
  | .console => e.consoleLine time

end UnitWatch.Log
