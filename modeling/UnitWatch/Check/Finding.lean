import UnitWatch.Value

/-!
# Findings

What is wrong with a document, and where. A **finding** is a problem and the place of the value that
has it; a report lists findings in the order in which a document is checked.
-/

namespace UnitWatch.Check

/-- A step from a value into one of its parts. -/
inductive Place where
  | field (name : String)
  | index (n : Nat)
  deriving DecidableEq, Inhabited

def Place.display : Place → String
  | field name => name
  | index n => toString n

def Place.toValue : Place → Value
  | field name => .text name
  | index n => .int n

inductive Problem where
  | missing
  | unknownField
  /-- Not the object that describes a thing of the named kind. -/
  | notDescription (kind : String)
  | notMapping
  | notList
  | notText
  | brokenText
  /-- Not one of the words that name the members of a type. -/
  | notMember (words : List String)
  /-- Not one of the words that an option can have. -/
  | notOption (words : List String)
  | notInteger
  | unreadableInteger
  | oversizedInteger
  | fractionalInteger
  | notFinite
  | notNumber
  | unreadableNumber
  | notAbove (bound : Int)
  | below (bound : Int)
  | above (bound : Int)
  | notPath
  /-- A rule of the document's own is broken. -/
  | rejected (reason : String)
  deriving DecidableEq, Inhabited

namespace Problem

/-- The name of a kind of problem. -/
def code : Problem → String
  | missing => "missing"
  | unknownField => "extra_forbidden"
  | notDescription _ => "model_type"
  | notMapping => "dict_type"
  | notList => "list_type"
  | notText => "string_type"
  | brokenText => "string_unicode"
  | notMember _ => "enum"
  | notOption _ => "literal_error"
  | notInteger => "int_type"
  | unreadableInteger => "int_parsing"
  | oversizedInteger => "int_parsing_size"
  | fractionalInteger => "int_from_float"
  | notFinite => "finite_number"
  | notNumber => "float_type"
  | unreadableNumber => "float_parsing"
  | notAbove _ => "greater_than"
  | below _ => "greater_than_equal"
  | above _ => "less_than_equal"
  | notPath => "path_type"
  | rejected _ => "value_error"

/-- Words in quotes with commas between them, and an "or" before the last. -/
def alternatives (words : List String) : String :=
  let quoted := words.map fun w => "'" ++ w ++ "'"
  match quoted.reverse with
  | [] => ""
  | [w] => w
  | last :: rest => ", ".intercalate rest.reverse ++ " or " ++ last

def message : Problem → String
  | missing => "Field required"
  | unknownField => "Extra inputs are not permitted"
  | notDescription kind => "Input should be a valid dictionary or instance of " ++ kind
  | notMapping => "Input should be a valid dictionary"
  | notList => "Input should be a valid list"
  | notText => "Input should be a valid string"
  | brokenText => "Input should be a valid string, unable to parse raw data as a unicode string"
  | notMember words | notOption words => "Input should be " ++ alternatives words
  | notInteger => "Input should be a valid integer"
  | unreadableInteger => "Input should be a valid integer, unable to parse string as an integer"
  | oversizedInteger => "Unable to parse input string as an integer, exceeded maximum size"
  | fractionalInteger => "Input should be a valid integer, got a number with a fractional part"
  | notFinite => "Input should be a finite number"
  | notNumber => "Input should be a valid number"
  | unreadableNumber => "Input should be a valid number, unable to parse string as a number"
  | notAbove bound => "Input should be greater than " ++ toString bound
  | below bound => "Input should be greater than or equal to " ++ toString bound
  | above bound => "Input should be less than or equal to " ++ toString bound
  | notPath => "Input is not a valid path for <class 'pathlib.Path'>"
  | rejected reason => "Value error, " ++ reason

end Problem

structure Finding where
  problem : Problem
  place : List Place
  deriving DecidableEq, Inhabited

namespace Finding

/-- The finding seen from the outside of the part that it is about. -/
def within (p : Place) (f : Finding) : Finding := { f with place := p :: f.place }

def toValue (f : Finding) : Value :=
  .object [("type", .text f.problem.code), ("loc", .list (f.place.map Place.toValue)),
    ("msg", .text f.problem.message)]

/-- One line for people: the place, or a word for the whole document, and what is wrong there. -/
def line (f : Finding) : String :=
  let place := ".".intercalate (f.place.map Place.display)
  (if place = "" then "<document>" else place) ++ ": " ++ f.problem.message

end Finding

end UnitWatch.Check
