import UnitWatch.Host.Path

/-!
# Command lines

The commands are `run`, `settings load-path` and `settings validate`; in front of them stands the
option that asks for the version. Options that take a value take the next argument, or what stands
behind an equals sign. Arguments behind two hyphens are no options.
-/

namespace UnitWatch.Command

/-- Options of `run`. -/
structure RunOptions where
  settings : Option Path := none
  config : Option Path := none
  logLevel : Option String := none
  logFormat : Option String := none
  deriving DecidableEq, Inhabited

inductive Invocation where
  | version
  | help
  | loadPath
  | validate (path : Option Path)
  | run (options : RunOptions)
  deriving DecidableEq, Inhabited

inductive UsageError where
  | missingCommand
  | unknownCommand (name : String)
  | unknownOption (name : String)
  | missingValue (option : String)
  | unexpectedValue (option : String)
  | unexpectedArgument (text : String)
  deriving DecidableEq, Inhabited

def UsageError.message : UsageError → String
  | missingCommand => "Missing command."
  | unknownCommand name => "No such command '" ++ name ++ "'."
  | unknownOption name => "No such option: " ++ name
  | missingValue option => "Option '" ++ option ++ "' requires an argument."
  | unexpectedValue option => "Option '" ++ option ++ "' does not take a value."
  | unexpectedArgument text => "Got unexpected extra argument (" ++ text ++ ")"

/-! ## Options -/

/-- An option by its spellings, the first of which is its name. -/
structure OptionForm where
  spellings : List String
  takesValue : Bool

def helpOption : OptionForm := ⟨["--help"], false⟩

/-- What a list of arguments gives: options with their values in order, and the other arguments. -/
structure Parsed where
  options : List (String × String) := []
  others : List String := []

namespace Parsed

def has (p : Parsed) (name : String) : Bool := p.options.any (·.1 == name)

/-- The value of an option; the last one counts. -/
def value? (p : Parsed) (name : String) : Option String := p.options.reverse.lookup name

def addOption (p : Parsed) (o : OptionForm) (value : String) : Parsed :=
  { p with options := p.options ++ [(o.spellings.headD "", value)] }

end Parsed

def formOf? (forms : List OptionForm) (spelling : String) : Option OptionForm :=
  forms.find? (·.spellings.contains spelling)

/-- The text before the first equals sign, and the text behind it if there is one. -/
def splitValue (s : String) : String × Option String :=
  let name := s.toList.takeWhile (· != '=')
  match s.toList.drop name.length with
  | _ :: value => (String.ofList name, some (String.ofList value))
  | [] => (s, none)

/-- Reads letters that each stand for an option. What follows the letter of an option with a value is
its value; `next` is the argument that follows. The result says whether `next` has been used. -/
def readLetters (forms : List OptionForm) (next : Option String) :
    List Char → Parsed → Except UsageError (Parsed × Bool)
  | [], p => .ok (p, false)
  | c :: rest, p =>
    let spelling := String.ofList ['-', c]
    match formOf? forms spelling with
    | none => .error (.unknownOption spelling)
    | some o =>
      if !o.takesValue then readLetters forms next rest (p.addOption o "")
      else if !rest.isEmpty then .ok (p.addOption o (String.ofList rest), false)
      else match next with
        | some v => .ok (p.addOption o v, true)
        | none => .error (.missingValue spelling)

/-- Reads an option that is spelled out. -/
def readWord (o : OptionForm) (spelling : String) (value next : Option String) (p : Parsed) :
    Except UsageError (Parsed × Bool) :=
  match o.takesValue, value, next with
  | false, none, _ => .ok (p.addOption o "", false)
  | false, some _, _ => .error (.unexpectedValue spelling)
  | true, some v, _ => .ok (p.addOption o v, false)
  | true, none, some v => .ok (p.addOption o v, true)
  | true, none, none => .error (.missingValue spelling)

/-- Reads an argument that starts with a hyphen. -/
def readOption (forms : List OptionForm) (arg : String) (next : Option String) (p : Parsed) :
    Except UsageError (Parsed × Bool) :=
  let (spelling, value) := splitValue arg
  match formOf? (forms.filter fun o => o.spellings.any (·.startsWith "--")) spelling with
  | some o =>
    if spelling.startsWith "--" then readWord o spelling value next p
    else readLetters forms next (arg.toList.drop 1) p
  | none =>
    if arg.startsWith "--" then .error (.unknownOption spelling)
    else readLetters forms next (arg.toList.drop 1) p

/-- Whether an argument is an option. -/
def isOption (arg : String) : Bool := arg.startsWith "-" && arg != "-"

/-- Reads arguments. Where `stops` holds, the first argument that is no option ends the options, and
so it is left with all that follows. -/
def parseArgs (forms : List OptionForm) (stops : Bool) :
    List String → Parsed → Except UsageError Parsed
  | [], p => .ok p
  | "--" :: rest, p => .ok { p with others := p.others ++ rest }
  | arg :: rest, p =>
    if isOption arg then
      match readOption forms arg rest.head? p, rest with
      | .error e, _ => .error e
      | .ok (p, true), _ :: rest => parseArgs forms stops rest p
      | .ok (p, _), rest => parseArgs forms stops rest p
    else if stops then .ok { p with others := p.others ++ arg :: rest }
    else parseArgs forms stops rest { p with others := p.others ++ [arg] }

/-! ## Commands -/

def runForms : List OptionForm :=
  [⟨["--settings", "-s"], true⟩, ⟨["--config", "-c"], true⟩, ⟨["--log-level"], true⟩,
   ⟨["--log-format"], true⟩, helpOption]

def runOptions (p : Parsed) : RunOptions where
  settings := (p.value? "--settings").map Path.ofText
  config := (p.value? "--config").map Path.ofText
  logLevel := p.value? "--log-level"
  logFormat := p.value? "--log-format"

def parseRun (args : List String) : Except UsageError Invocation := do
  let p ← parseArgs runForms false args {}
  if p.has "--help" then return .help
  else match p.others with
    | [] => return .run (runOptions p)
    | arg :: _ => .error (.unexpectedArgument arg)

def parseLoadPath (args : List String) : Except UsageError Invocation := do
  let p ← parseArgs [helpOption] false args {}
  if p.has "--help" then return .help
  else match p.others with
    | [] => return .loadPath
    | arg :: _ => .error (.unexpectedArgument arg)

def parseValidate (args : List String) : Except UsageError Invocation := do
  let p ← parseArgs [helpOption] false args {}
  if p.has "--help" then return .help
  else match p.others with
    | [] => return .validate none
    | [path] => return .validate (some (Path.ofText path))
    | _ :: arg :: _ => .error (.unexpectedArgument arg)

def parseSettings (args : List String) : Except UsageError Invocation := do
  let p ← parseArgs [helpOption] true args {}
  if p.has "--help" then return .help
  else match p.others with
    | "load-path" :: rest => parseLoadPath rest
    | "validate" :: rest => parseValidate rest
    | name :: _ => .error (.unknownCommand name)
    | [] => .error .missingCommand

/-- The command that arguments give. -/
def parse (args : List String) : Except UsageError Invocation := do
  let p ← parseArgs [⟨["--version"], false⟩, helpOption] true args {}
  match p.options with
  | (name, _) :: _ => return if name == "--version" then .version else .help
  | [] =>
    match p.others with
    | "run" :: rest => parseRun rest
    | "settings" :: rest => parseSettings rest
    | name :: _ => .error (.unknownCommand name)
    | [] => .error .missingCommand

end UnitWatch.Command
