import UnitWatch.Check.Scalar
import UnitWatch.Json.Reader
import UnitWatch.Settings.Basic

/-!
# Settings documents

The settings document is an object with a version, a list of rules, and an object of notifiers under
their labels. `Settings.ofDocument` checks it part by part and reports all findings; on success it
gives the settings with expressions ready to match and notifiers resolved.

**Order of checks.** Fields in the order in which they are listed here, then fields that do not
belong, then the rule that needs all of them: a rule's expression has to fit its type, and its labels
have to name notifiers of the document.
-/

namespace UnitWatch

open Check

namespace Settings

/-- The only version of the document. -/
def version : Int := 1

/-! ## Parts -/

/-- A rule whose notifiers are labels. -/
structure RuleDraft where
  scope : BusScope
  states : List ActiveState
  expression : Expression
  labels : List String
  deriving Inhabited

def checkVersion : Checker Unit := fun v =>
  (integer v).andThen fun n =>
    if n = version then .valid ()
    else .reject <| .rejected <|
      "Unsupported settings version " ++ toString n ++ "; expected " ++ toString version

def checkScope : Checker BusScope := member BusScope.all BusScope.word

def checkBusName : Checker String := fun v =>
  (text v).andThen fun s =>
    if BusName.isValid s then .valid s else .reject (.rejected ("Found invalid bus name: " ++ s))

def checkExpressionType : Checker ExpressionType := fun v =>
  (text v).andThen fun s =>
    match ExpressionType.parse? s with
    | some t => .valid t
    | none => .reject (.rejected ("Found invalid expression type: " ++ s))

/-- The expression of a rule, once its text and its type are known. -/
def checkExpression (value : String) (type : ExpressionType) : Result Expression :=
  match Expression.compileType value type with
  | .ok e => .valid e
  | .error (.badPattern _ .countTooLarge) => .broken .countTooLarge
  | .error (.badPattern _ .tooDeep) => .broken .tooDeep
  | .error f => .reject (.rejected f.message)

def ruleFields : List String :=
  ["bus_type", "active_states", "expression", "expression_type", "notifiers"]

/-- The fields of a rule, each checked on its own. -/
def ruleParts (fs : List (String × Value)) :
    Result ((BusScope × List ActiveState × String × ExpressionType × List String) × Unit) :=
  let scope := required fs "bus_type" checkScope
  let states := required fs "active_states" (listOf (member ActiveState.all ActiveState.word))
  let value := required fs "expression" text
  let type := required fs "expression_type" checkExpressionType
  let labels := required fs "notifiers" (listOf text)
  (scope.both (states.both (value.both (type.both labels)))).both (noOthers fs ruleFields)

def checkRule : Checker RuleDraft := description "RuleDocument" ruleParts
  fun ((scope, states, value, type, labels), _) =>
    (checkExpression value type).map fun e =>
      ⟨scope, ActiveState.all.filter states.contains, e, labels⟩

def notifierFields : List String := ["bus_type", "bus_name"]

/-- The fields of a notifier, each checked on its own. -/
def notifierParts (fs : List (String × Value)) : Result ((BusScope × String) × Unit) :=
  let scope := required fs "bus_type" checkScope
  let busName := required fs "bus_name" checkBusName
  (scope.both busName).both (noOthers fs notifierFields)

/-- The scope and the bus name of a notifier. -/
def checkNotifier : Checker (BusScope × String) :=
  description "NotifierDocument" notifierParts fun (notifier, _) => .valid notifier

/-! ## References -/

/-- The first label that names no notifier, with the number of its rule. -/
def danglingFrom (notifiers : List Notifier) (n : Nat) : List RuleDraft → Option (Nat × String)
  | [] => none
  | r :: rs =>
    match r.labels.find? fun l => !notifiers.any (·.label == l) with
    | some l => some (n, l)
    | none => danglingFrom notifiers (n + 1) rs

def RuleDraft.resolve (notifiers : List Notifier) (r : RuleDraft) : Rule :=
  ⟨r.scope, r.states, r.expression, r.labels.filterMap fun l => notifiers.find? (·.label == l)⟩

/-- Settings of checked parts, if every label names a notifier. -/
def assemble (rules : List RuleDraft) (table : List (String × BusScope × String)) :
    Result Settings :=
  let notifiers := table.map fun (label, scope, busName) => (⟨label, scope, busName⟩ : Notifier)
  match danglingFrom notifiers 0 rules with
  | some (n, label) =>
      .reject <| .rejected <|
        "Rule " ++ toString n ++ " references non-existent notifier: " ++ label
  | none => .valid ⟨rules.map (·.resolve notifiers), notifiers⟩

/-! ## The document -/

def documentFields : List String := ["version", "rules", "notifiers"]

/-- The fields of a document, each checked on its own. -/
def documentParts (fs : List (String × Value)) :
    Result ((Unit × List RuleDraft × List (String × BusScope × String)) × Unit) :=
  let version := required fs "version" checkVersion
  let rules := required fs "rules" (listOf checkRule)
  let notifiers := required fs "notifiers" (mappingOf checkNotifier)
  (version.both (rules.both notifiers)).both (noOthers fs documentFields)

def check : Checker Settings := description "SettingsDocument" documentParts
  fun ((_, rules, notifiers), _) => assemble rules notifiers

/-- The fault that reports findings about a settings document. -/
def invalid (findings : List Finding) : Fault :=
  .settingsInvalid
    ("Invalid settings document:\n  " ++ "\n  ".intercalate (findings.map Finding.line))
    (findings.map Finding.toValue)

/-- The settings that a document describes. -/
def ofDocument (v : Value) : Except Failure Settings :=
  match check v with
  | .valid s => .ok s
  | .invalid f fs => .error (.fault (invalid (f :: fs)))
  | .broken c => .error (.crash c)

/-- The settings of a document that has been read from a source. -/
def ofRead (source : String) (document : Except Json.ReadError Value) : Except Failure Settings :=
  match document with
  | .ok v => ofDocument v
  | .error .tooDeep => .error (.crash .tooDeep)
  | .error e => .error (.fault (.settingsUnreadable source e.message))

/-- The settings that a JSON text describes. -/
def ofText (source text : String) : Except Failure Settings := ofRead source (Json.read text)

/-- The settings that JSON octets describe. -/
def ofOctets (source : String) (octets : List UInt8) : Except Failure Settings :=
  ofRead source (Json.readOctets octets)

end Settings

end UnitWatch
