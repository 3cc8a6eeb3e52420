import UnitWatch.Number.Shortest
import UnitWatch.Text.Encoding

/-!
# Values

The data that documents, error reports and log records are made of. An object keeps the order of its
fields, and a field name occurs once.

**Broken texts.** A document can spell surrogates that have no partner. A text or a name with one of
them is no `String`; it is kept by its code points, and an object with such a name is foreign here.

**Literal form** (`Value.literal`). The text by which messages show a value: quoted texts, `None`,
`True`, `False`, decimal numbers, and bracketed lists and objects. `Value.display` is the same,
except that a text stands for itself.
-/

namespace UnitWatch

/-- What has no place among values over `α`. -/
inductive Foreign (α : Type) where
  /-- Something of a kind that has no use, such as a date, by the name of its kind. -/
  | kind (name : String)
  /-- An object in which some name has surrogates without a partner; names by their code points. -/
  | fields (entries : List (List Nat × α))

/-- The name of the kind. -/
def Foreign.kindName {α : Type} : Foreign α → String
  | kind name => name
  | fields _ => "dict"

inductive Value where
  | null
  | bool (b : Bool)
  | int (n : Int)
  | float (x : Binary64)
  | text (s : String)
  /-- A text with surrogates that have no partner, by its code points. -/
  | brokenText (codes : List Nat)
  | list (values : List Value)
  | object (entries : List (String × Value))
  | foreign (what : Foreign Value)
  deriving Inhabited

instance : Coe (Foreign Value) String := ⟨Foreign.kindName⟩

namespace Value

/-! ## Fields -/

section

variable {κ : Type} [BEq κ]

/-- The value of a field, in a list of named values. -/
def field? (fields : List (κ × Value)) (name : κ) : Option Value := fields.lookup name

/-- Writes a field: a name that is present keeps its place, a new one goes to the end. -/
def put (fields : List (κ × Value)) (name : κ) (v : Value) : List (κ × Value) :=
  if fields.any (·.1 == name) then fields.map fun f => if f.1 == name then (name, v) else f
  else fields ++ [(name, v)]

end

/-- Fields under the names that are shown for theirs. -/
def shownFields (entries : List (List Nat × Value)) : List (String × Value) :=
  entries.map fun e => (Text.shown e.1, e.2)

/-- The field of an object; `null` where there is none. -/
def get (v : Value) (name : String) : Value :=
  match v with
  | object fields => (field? fields name).getD null
  | foreign (.fields entries) => (field? (shownFields entries) name).getD null
  | _ => null

/-! ## Views -/

def text? : Value → Option String
  | text s => some s
  | _ => none

def int? : Value → Option Int
  | int n => some n
  | _ => none

/-- The number that a value is, whether it was written as an integer or with decimals. -/
def number? : Value → Option Binary64
  | int n => some (Binary64.ofInt n)
  | float x => some x
  | _ => none

/-- Whether a value is there. -/
def isNull : Value → Bool
  | null => true
  | _ => false

/-- The items of a list; nothing else has any. -/
def items : Value → List Value
  | list vs => vs
  | _ => []

/-- The fields of an object; nothing else has any. -/
def fields : Value → List (String × Value)
  | object fs => fs
  | _ => []

/-- The fields of an object, without those whose names are no texts. -/
def namedFields? : Value → Option (List (String × Value))
  | object fs => some fs
  | foreign (.fields entries) =>
      some (entries.filterMap fun e => (Text.ofCodes? e.1).map fun name => (name, e.2))
  | _ => none

/-! ## Texts -/

/-- Wraps a sequence of texts in brackets, with a comma and a blank between them. -/
def bracketed (opening closing : String) (items : List String) : String :=
  opening ++ ", ".intercalate items ++ closing

/-- Quoted form of code points among which are surrogates without a partner. -/
def brokenLiteral (codes : List Nat) : String :=
  String.ofList <| ['\''] ++ (codes.flatMap fun n =>
    if 0xd800 ≤ n ∧ n < 0xe000 then '\\' :: 'u' :: Text.hexDigits 4 n
    else Text.Quoted.escape '\'' (Char.ofNat n)) ++ ['\'']

/-- Quoted form of code points. -/
def codesLiteral (codes : List Nat) : String :=
  ((Text.ofCodes? codes).map Text.quoted).getD (brokenLiteral codes)

mutual

/-- The text that shows a value in messages. -/
def literal : Value → String
  | null => "None"
  | bool b => if b then "True" else "False"
  | int n => toString n
  | float x => x.display
  | text s => Text.quoted s
  | brokenText codes => brokenLiteral codes
  | list items => bracketed "[" "]" (literals items)
  | object fields => bracketed "\x7b" "\x7d" (fieldLiterals fields)
  | foreign (.kind name) => name
  | foreign (.fields entries) => bracketed "\x7b" "\x7d" (brokenFieldLiterals entries)

def literals : List Value → List String
  | [] => []
  | v :: rest => literal v :: literals rest

def fieldLiterals : List (String × Value) → List String
  | [] => []
  | (name, v) :: rest => (Text.quoted name ++ ": " ++ literal v) :: fieldLiterals rest

def brokenFieldLiterals : List (List Nat × Value) → List String
  | [] => []
  | (name, v) :: rest => (codesLiteral name ++ ": " ++ literal v) :: brokenFieldLiterals rest

end

/-- A value as running text: a text is itself, anything else its literal form. -/
def display : Value → String
  | text s => s
  | v => literal v

/-- Texts as a list value. -/
def texts (items : List String) : Value := list (items.map text)

/-- A text, or `null` for none. -/
def ofText? : Option String → Value
  | some s => text s
  | none => null

/-- An integer, or `null` for none. -/
def ofInt? : Option Int → Value
  | some n => int n
  | none => null

end Value

end UnitWatch
