import UnitWatch.Command.Arguments
import UnitWatch.Command.Markup
import UnitWatch.Config.Load
import UnitWatch.Log.Line
import UnitWatch.Settings.Load
import UnitWatch.Simulation.Scene

/-!
# Commands

What each command does on a host, and what it leaves behind: an exit code, what it has written, and
why it broke off if it did.

**Buses.** No message-bus library belongs to this program, so no bus can be reached: every session
fails when it connects, and `run` ends as the supervisor does then. All of that happens at once.
-/

namespace UnitWatch.Command

/-- What is written to the standard error stream: log entries and texts. -/
inductive Message where
  | entry (e : Log.Entry)
  | text (s : String)
  deriving Inhabited

/-- Why a command broke off. -/
inductive Breakdown where
  | config (e : Config.LoadError)
  | failure (f : Failure)
  deriving Inhabited

structure Outcome where
  exitCode : Int := 0
  output : List String := []
  messages : List Message := []
  /-- How log entries are written, and the file to which they are added beside. -/
  format : Log.Format := .console
  logFile : Option Path := none
  breakdown : Option Breakdown := none
  deriving Inhabited

def version : String := "0.1.0"

def usage : String :=
  "Usage: killjoy [--version] run | settings load-path | settings validate [PATH]"

/-! ## Settings -/

/-- An outcome of a command that could not get the settings. -/
def Outcome.ofFailure (o : Outcome) (e : Failure) : Outcome :=
  match e with
  | .fault f =>
      { o with exitCode := 1, messages := o.messages ++ [.text (Markup.showError f.message)] }
  | e => { o with exitCode := 1, breakdown := some (.failure e) }

def loadPath (h : Host) : Outcome :=
  match Settings.find h with
  | .ok p => { output := [p.display] }
  | .error e => Outcome.ofFailure {} e

/-- A line about settings that are valid. -/
def summary (s : Settings) : String :=
  let scopes := if s.scopes.isEmpty then "none" else ", ".intercalate (s.scopes.map BusScope.word)
  "Settings are valid: " ++ toString s.rules.length ++ " rule(s), " ++ toString s.notifiers.length
    ++ " notifier(s), bus scopes: " ++ scopes

def validate (h : Host) (path : Option Path) : Outcome :=
  match Settings.load h path with
  | .ok s => { output := [summary s] }
  | .error e => Outcome.ofFailure {} e

/-! ## Running -/

/-- The logging options with those of the command line in place of the configured ones. -/
def overrideLogging (o : Log.Options) (options : RunOptions) : Check.Result Log.Options :=
  let given (name : String) : Option String → List (String × Value)
    | some s => [(name, .text (Text.toLower s))]
    | none => []
  let fields := Config.mergeFields
    [("level", .text o.level.word), ("format", .text o.format.word),
     ("file", .ofText? (o.file.map Path.display))]
    (given "level" options.logLevel ++ given "format" options.logFormat)
  Config.checkLogging (.object fields)

/-- The configuration that a run has. -/
def configure (h : Host) (options : RunOptions) : Except Config.LoadError Config := do
  let c ← Config.load h options.config
  match overrideLogging c.logging options with
  | .valid logging => .ok { c with logging }
  | .invalid f fs => .error (.invalid (f :: fs))
  | .broken c => .error (.crash c)

/-- Why a connection fails where no message-bus library is installed. -/
def noLibrary : String := "dbus-python is not installed. Run: pip install 'killjoy[dbus]'"

/-- The scene of a run: no bus can be reached. -/
def scene (s : Settings) (c : Config) : Simulation.Scene where
  state := .make s (.ofBinary c.notifyTimeout) c.bus.attempts
    ⟨.ofBinary c.bus.backoff, .ofBinary c.bus.backoffMax⟩
  outsides := BusScope.all.map fun scope =>
    ⟨scope, ⟨{ scope, connectFailures := -1, refusal := noLibrary }, 0, [], []⟩, none, none⟩
  behaviours := []

/-- A line of a scene as an entry. -/
def entryOf (l : Simulation.LogLine) : Log.Entry :=
  ⟨"killjoy." ++ l.part.word, l.record, l.scope.map BusScope.word⟩

/-- The exit code of the first operation of a scene, and what has been logged. -/
def serve (s : Settings) (c : Config) : Int × List Log.Entry :=
  let x := (scene s c).call .serve
  ((x.state.operations.head?.bind (·.result?)).getD 0, x.logs.reverse.map entryOf)

/-- What is said about settings that cannot be loaded. -/
def settingsEntry (f : Fault) : Log.Entry :=
  ⟨"killjoy.cli", ⟨.error, "settings_invalid", [("error", .text f.message)]⟩, none⟩

/-- Runs with a configuration, once its log file is open. -/
def runWith (h : Host) (options : RunOptions) (c : Config) : Outcome :=
  let least := (Log.severity c.logging.level.word).toOption.getD 0
  let entries (es : List Log.Entry) : List Message := (es.filter (·.isEnabled least)).map .entry
  let o : Outcome := { format := c.logging.format, logFile := c.logging.file }
  match Settings.load h (options.settings.orElse fun _ => c.settingsPath) with
  | .error (.fault f) => { o with messages := entries [settingsEntry f] }.ofFailure (.fault f)
  | .error e => o.ofFailure e
  | .ok s =>
      let (code, es) := serve s c
      { o with exitCode := code, messages := entries es }

def run (h : Host) (options : RunOptions) : Outcome :=
  match configure h options with
  | .error (.invalid findings) =>
      { exitCode := 1,
        messages := .text "Invalid daemon configuration:"
          :: findings.map fun f => .text ("  " ++ f.line) }
  | .error e => { exitCode := 1, breakdown := some (.config e) }
  | .ok c =>
    match c.logging.file.mapM h.openLog with
    | .error e => { exitCode := 1, breakdown := some (.failure (.crash e)) }
    | .ok _ => runWith h options c

/-- What a command line does on a host. -/
def execute (h : Host) (args : List String) : Outcome :=
  match parse args with
  | .error e => { exitCode := 2, messages := [.text e.message] }
  | .ok .version => { output := ["killjoy " ++ version] }
  | .ok .help => { output := [usage] }
  | .ok .loadPath => loadPath h
  | .ok (.validate path) => validate h path
  | .ok (.run options) => run h options

/-! ## What is read -/

/-- The paths that a command looks at, as far as they can be told from what is known of the host. -/
def wantedPaths (h : Host) (args : List String) : List Path :=
  let searched := (Settings.searchPaths h).toOption.getD []
  match parse args with
  | .ok .loadPath => searched
  | .ok (.validate path) => path.elim searched fun p => [p]
  | .ok (.run options) =>
    let c := (configure h options).toOption
    let log := ((c.bind (·.logging.file)).map Path.collapsed).toList
    (Config.files h options.config).toOption.getD [] ++ searched ++ options.settings.toList
      ++ (c.bind (·.settingsPath)).toList ++ log
      ++ log.map fun p => { p with parts := p.parts.dropLast }
  | _ => []

/-! ## What is written -/

def Message.render (format : Log.Format) (time : String) : Message → String
  | entry e => e.render format time
  | text s => s

/-- What is said about a command that broke off. -/
def Breakdown.message : Breakdown → String
  | config (.invalid findings) => "\n".intercalate (findings.map (·.line))
  | config (.yaml _) => "The configuration file cannot be read."
  | config (.badVariable group) => Config.LoadError.variableMessage group
  | config (.crash c) => c.name ++ ": " ++ c.message
  | failure e => e.name ++ ": " ++ e.message

/-- The lines that are added to the log file. -/
def Outcome.logLines (o : Outcome) (time : String) : List String :=
  o.messages.filterMap fun
    | .entry e => some (e.render o.format time)
    | .text _ => none

end UnitWatch.Command
