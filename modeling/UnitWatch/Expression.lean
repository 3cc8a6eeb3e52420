import UnitWatch.Pattern.Match
import UnitWatch.Unit.Kind

/-!
# Selection expressions

A rule selects units by their names, in one of three ways: the name itself, a type suffix, or a
pattern that the whole name has to match.

**Validity** (`Expression.compile`). A name must have something before its suffix, a suffix must be
one of the eleven, and a pattern must be readable. A valid expression carries what matching needs, so
matching cannot fail.
-/

namespace UnitWatch

inductive ExpressionType where
  | unitName | unitType | regex
  deriving DecidableEq, Repr, Inhabited

namespace ExpressionType

def all : List ExpressionType := [unitName, unitType, regex]

def word : ExpressionType → String
  | unitName => "unit name"
  | unitType => "unit type"
  | regex => "regex"

/-- The second spelling of a type. -/
def hyphenated : ExpressionType → String
  | unitName => "exact-name"
  | unitType => "type-suffix"
  | regex => "pattern"

/-- The type with exactly this word. -/
def ofWord? (s : String) : Option ExpressionType := all.find? (·.word == s)

/-- The type that a text spells in either way. -/
def parse? (s : String) : Option ExpressionType :=
  (all.find? (·.hyphenated == s)).orElse fun _ => ofWord? s

end ExpressionType

/-- A selection expression that is ready to match. -/
inductive Expression where
  | unitName (value : String)
  | unitType (suffix : String)
  | regex (value : String) (pattern : Pattern.Source)
  deriving Inhabited

namespace Expression

def value : Expression → String
  | unitName v | unitType v | regex v _ => v

def type : Expression → ExpressionType
  | unitName _ => .unitName
  | unitType _ => .unitType
  | regex _ _ => .regex

/-- Whether two expressions are written the same; how a pattern was compiled does not count. -/
def sameAs (a b : Expression) : Bool := a.type == b.type && a.value == b.value

/-- Whether a unit's name is selected. -/
def selects (e : Expression) (name : String) : Bool :=
  match e with
  | unitName v => name == v
  | unitType v => v.toList.isSuffixOf name.toList
  | regex _ p => p.matchesAll name.toList

/-! ## Validation -/

/-- Why a text is no expression of a type. -/
inductive Fault where
  | unknownType (word : String)
  | badName (value : String)
  | badSuffix (value : String)
  | badPattern (value : String) (fault : Pattern.Fault)
  deriving DecidableEq, Inhabited

def Fault.message : Fault → String
  | unknownType w => Text.quoted w ++ " is not a valid ExpressionType"
  | badName v => "Found invalid unit name " ++ Text.quoted v
  | badSuffix v =>
      "Found invalid unit type " ++ Text.quoted v ++ "; expected one of "
        ++ ", ".intercalate (UnitType.all.map (·.suffix))
  | badPattern v (.malformed problem place) =>
      "Found invalid regular expression " ++ Text.quoted v ++ ": "
        ++ Pattern.Fault.message v.toList (.malformed problem place)
  | badPattern v fault => fault.message v.toList

/-- An expression of a given type with its pattern compiled, not otherwise checked. -/
def ofType (value : String) : ExpressionType → Except Pattern.Fault Expression
  | .unitName => .ok (unitName value)
  | .unitType => .ok (unitType value)
  | .regex => (Pattern.read value.toList).map (regex value)

/-- Whether a name has a type suffix and something before it. -/
def isUnitName (value : String) : Bool :=
  (UnitType.of? value).any fun t => t.suffix != value

/-- The expression of a given type that a text spells. -/
def compileType (value : String) (type : ExpressionType) : Except Fault Expression :=
  match type with
  | .unitName => if isUnitName value then .ok (unitName value) else .error (.badName value)
  | .unitType =>
      if (UnitType.ofSuffix? value).isSome then .ok (unitType value) else .error (.badSuffix value)
  | .regex =>
      match Pattern.read value.toList with
      | .ok p => .ok (regex value p)
      | .error f => .error (.badPattern value f)

/-- The expression that a text spells, with its type given by a word. -/
def compile (value word : String) : Except Fault Expression :=
  match ExpressionType.parse? word with
  | some type => compileType value type
  | none => .error (.unknownType word)

end Expression

end UnitWatch
