import UnitWatch.Config.Basic
import UnitWatch.Config.Merge
import UnitWatch.Json.Reader
import UnitWatch.Text.LowerCase

/-!
# Configuration in the environment

Options come from environment variables whose names start with a common word, without distinction of
case. A group of options can be given as a whole, as a JSON object under the group's name, and each of
its options on its own, with two low lines between the two names. An option on its own has priority.
-/

namespace UnitWatch.Config

/-- What the names of all variables start with. -/
def variableStart : String := "killjoy_"

/-- What stands between the names of a group and of an option. -/
def groupMark : List Char := ['_', '_']

/-- Variables by their names in small letters; of two with the same name the later one counts. -/
def foldNames (environment : List (String × String)) : List (String × String) :=
  environment.foldl (fun vs (name, text) =>
    let name := Text.toLower name
    if vs.any (·.1 == name) then vs.map fun v => if v.1 == name then (name, text) else v
    else vs ++ [(name, text)]) []

/-- The parts of a name between pairs of low lines. -/
def nameParts : List Char → List (List Char)
  | '_' :: '_' :: rest => [] :: nameParts rest
  | c :: rest =>
    match nameParts rest with
    | p :: ps => (c :: p) :: ps
    | [] => [[c]]
  | [] => [[]]

/-- What is left of a name after its start. -/
def dropStart? (start name : String) : Option (List Char) :=
  if start.toList.isPrefixOf name.toList then some (name.toList.drop start.length) else none

/-- Puts a text at a place inside named values. Where a text stands in the way, nothing is put. -/
def putAt (fields : List (String × Value)) : List String → String → List (String × Value)
  | [], _ => fields
  | [name], text => Value.put fields name (.text text)
  | name :: rest, text =>
    match Value.field? fields name with
    | none => Value.put fields name (.object (putAt [] rest text))
    | some (.object inner) => Value.put fields name (.object (putAt inner rest text))
    | some _ => fields

/-- The options of a group that are given one by one. -/
def singleOptions (environment : List (String × String)) (group : String) : List (String × Value) :=
  environment.foldl (fun fields (name, text) =>
    match dropStart? (variableStart ++ group ++ String.ofList groupMark) name with
    | some rest => putAt fields ((nameParts rest).map String.ofList) text
    | none => fields) []

/-- The name among those known that a name is, without distinction of case; else the name itself. -/
def knownName (known : List String) (name : String) : String :=
  (known.find? (· == Text.toLower name)).getD name

/-- Named values under the names that are known. -/
def renameFields (known : List String) (fields : List (String × Value)) : List (String × Value) :=
  fields.foldl (fun fs (name, v) => Value.put fs (knownName known name) v) []

/-- Why the environment cannot be read: a group is not given as JSON, or nested too deep. -/
inductive VariableError where
  | unreadable (group : String)
  | tooDeep
  deriving DecidableEq, Inhabited

/-- A group of options from the environment, if it is there. -/
def groupValue (environment : List (String × String)) (group : String) (options : List String) :
    Except VariableError (Option Value) :=
  let single := singleOptions environment group
  let value : Except VariableError (Option Value) :=
    match environment.lookup (variableStart ++ group) with
    | none => .ok (if single.isEmpty then none else some (.object single))
    | some text =>
      match Json.read text with
      | .ok .null => .ok none
      | .ok v =>
        match v.namedFields? with
        | some fields => .ok (some (.object (mergeFields fields single)))
        | none => .ok (some v)
      | .error .tooDeep => .error .tooDeep
      | .error _ => .error (.unreadable group)
  value.map fun v => v.map fun
    | .object fields => .object (renameFields options fields)
    | v => v

/-- The options that the environment gives. -/
def ofEnvironment (environment : List (String × String)) :
    Except VariableError (List (String × Value)) := do
  let environment := foldNames environment
  let found ← groups.filterMapM fun (group, options) => do
    return (← groupValue environment group options).map fun v => (group, v)
  let path := (environment.lookup (variableStart ++ settingsField)).map fun s =>
    (settingsField, Value.text s)
  return found ++ path.toList

end UnitWatch.Config
