import UnitWatch.Config.Environment
import UnitWatch.Host.Basic
import UnitWatch.Yaml.Data

/-!
# Loading the configuration

Options come from files and from the environment. Of the files, a later one replaces what an earlier
one says under the same name, as a whole; what the files say has priority over the environment, option
by option.

**Files.** A file that says nothing is empty, and so is one that says no more than zero or false. A
file can be a mapping, or a list of pairs.
-/

namespace UnitWatch.Config

open Yaml (Data)

/-- Why there is no configuration. -/
inductive LoadError where
  | invalid (findings : List Check.Finding)
  | yaml (e : Yaml.Error)
  | badVariable (group : String)
  | crash (c : Crash)
  deriving Inhabited

namespace LoadError

def ofYaml : Yaml.Error → LoadError
  | .crash c => crash c
  | e => yaml e

def ofVariable : VariableError → LoadError
  | .unreadable group => badVariable group
  | .tooDeep => crash .tooDeep

/-- What is said about a variable that cannot be read. -/
def variableMessage (group : String) : String :=
  "error parsing value for field \"" ++ group ++ "\" from source \"EnvSettingsSource\""

end LoadError

/-! ## What a file says -/

/-- Whether data says nothing. -/
def saysNothing : Data → Bool
  | .null | .bool false | .text [] | .list [] | .mapping [] => true
  | .int n => n == 0
  | .float x => x.sameValue (.ofInt 0)
  | _ => false

/-- What data is made of, if it is made of something. -/
def components? : Data → Option (List Data)
  | .list items => some items
  | .text codes => some (codes.map fun c => .text [c])
  | .mapping entries => some (entries.map (·.1))
  | _ => none

/-- The pair that an item of a list is. -/
def pairAt (index : Nat) (item : Data) : Except Crash (Data × Data) :=
  match components? item with
  | some [k, v] => if k.isKey then .ok (k, v) else .error .wrongType
  | some parts => .error (.notAPair index parts.length)
  | none => .error .wrongType

def pairsFrom (index : Nat) : List Data → Except Crash (List (Data × Data))
  | [] => .ok []
  | item :: rest => do return (← pairAt index item) :: (← pairsFrom (index + 1) rest)

/-- The entries that data gives. -/
def entriesOf (d : Data) : Except Crash (List (Data × Data)) :=
  if saysNothing d then .ok []
  else match d with
    | .mapping entries => .ok entries
    | d => (components? d).elim (.error .wrongType) (pairsFrom 0)

/-- Entries over those of earlier files. -/
def update (entries later : List (Data × Data)) : List (Data × Data) :=
  later.foldl (fun es e => Data.put es e.1 e.2) entries

/-- Adds what a file says, if it is there. -/
def addFile (h : Host) (entries : List (Data × Data)) (p : Path) :
    Except LoadError (List (Data × Data)) := do
  if ← (h.isThere p).mapError LoadError.crash then
    let text ← (h.readText p).mapError LoadError.crash
    let d ← (Yaml.read text).mapError LoadError.ofYaml
    return update entries (← (entriesOf d).mapError LoadError.crash)
  else return entries

/-- The files that options are read from; a later one has priority. -/
def files (h : Host) (file : Option Path) : Except Crash (List Path) := do
  let home ← h.configHome
  return [Path.ofText "/etc/killjoy/config.yaml", (home.child "killjoy").child "config.yaml"]
    ++ file.toList

/-- Whether data is a text. -/
def isText : Data → Bool
  | .text _ => true
  | _ => false

/-- What the files say under names. -/
def ofFiles (h : Host) (file : Option Path) : Except LoadError (List (String × Value)) := do
  let paths ← (files h file).mapError LoadError.crash
  let entries ← paths.foldlM (addFile h) []
  if entries.all fun e => isText e.1 then return Data.toFields entries
  else .error (.crash .wrongType)

/-! ## The configuration -/

/-- Named values under the names of options; a name that is written in another case stands in for
one that is missing. -/
def select (fields : List (String × Value)) : List (String × Value) :=
  fieldNames.filterMap fun name =>
    ((Value.field? fields name).orElse fun _ =>
      (fields.find? fun f => Text.toLower f.1 == name).map (·.2)).map fun v => (name, v)

/-- The configuration that named values and the environment give. -/
def ofFields (environment : List (String × String)) (fields : List (String × Value)) :
    Except LoadError Config := do
  let given ← (ofEnvironment environment).mapError LoadError.ofVariable
  match check (mergeFields given (select fields)) with
  | .valid c => .ok c
  | .invalid f fs => .error (.invalid (f :: fs))
  | .broken c => .error (.crash c)

/-- Loads the configuration of the host; `file` has priority over the usual files. -/
def load (h : Host) (file : Option Path) : Except LoadError Config := do
  ofFields h.environment (← ofFiles h file)

end UnitWatch.Config
