import UnitWatch.Yaml.Kind
import UnitWatch.Yaml.Node

/-!
# YAML data

What a YAML document says, once its nodes are given their meaning: values, lists, and mappings whose
keys can be any values but lists and mappings. Of two entries with the same key the later one counts,
at the place of the earlier one.

`Yaml.read` reads a text.
-/

namespace UnitWatch.Yaml

inductive Data where
  | null
  | bool (b : Bool)
  | int (n : Int)
  | float (x : Binary64)
  | text (codes : List Nat)
  /-- A date, octets, or a list inside itself. -/
  | foreign (kind : String)
  | list (items : List Data)
  | mapping (entries : List (Data × Data))
  deriving Inhabited

namespace Data

/-! ## Mappings -/

/-- The number that a key counts as. -/
def keyNumber? : Data → Option Binary64
  | bool b => some (.ofInt (if b then 1 else 0))
  | int n => some (.ofInt n)
  | float x => some x
  | _ => none

/-- Whether two keys are the same; numbers are compared by value. -/
def sameKey (a b : Data) : Bool :=
  match a, b with
  | null, null => true
  | int m, int n => m == n
  | text s, text t => s == t
  | a, b =>
    match a.keyNumber?, b.keyNumber? with
    | some x, some y => x.sameValue y
    | _, _ => false

/-- Whether data can be a key. -/
def isKey : Data → Bool
  | list _ | mapping _ => false
  | _ => true

/-- Adds an entry to a mapping. -/
def put (entries : List (Data × Data)) (k v : Data) : List (Data × Data) :=
  if entries.any fun e => e.1.sameKey k then
    entries.map fun e => if e.1.sameKey k then (e.1, v) else e
  else entries ++ [(k, v)]

/-- The mapping of a list of entries. -/
def ofEntries (entries : List (Data × Data)) : Except Error (List (Data × Data)) :=
  if entries.all (·.1.isKey) then .ok (entries.foldl (fun m e => put m e.1 e.2) [])
  else .error (.value (yamlTag "map"))

/-! ## Scalars -/

/-- The text of code points; a surrogate has no character and becomes the replacement character. -/
def textOf (codes : List Nat) : String :=
  String.ofList (codes.map fun n => if Text.isSurrogate n then '\ufffd' else Char.ofNat n)

def ofCrash {α : Type} (x : Except Crash α) : Except Error α := x.mapError Error.crash

/-- Octets in sixty-four letters: only whether there are any shows. -/
def ofLetters (s : List Char) : Except Error Data :=
  let letters := (s.filter fun c => c.isAlphanum || c == '+' || c == '/').length
  let padding := (s.filter (· == '=')).length
  if letters % 4 = 1 ∨ (letters % 4 = 2 ∧ padding < 2) ∨ (letters % 4 = 3 ∧ padding < 1)
      ∨ s.any (fun c => 128 ≤ c.toNat) then
    .error (.value (yamlTag "binary"))
  else .ok (if letters = 0 then text [] else foreign "bytes")

/-- What a scalar with a tag is. -/
def ofScalar (tag : String) (codes : List Nat) : Except Error Data :=
  let s := textOf codes
  let kinds : List (String × (Unit → Except Error Data)) :=
    [("null", fun _ => .ok null),
     ("bool", fun _ => (ofCrash (readTruth s)).map bool),
     ("int", fun _ => (ofCrash (readInteger s.toList)).map int),
     ("float", fun _ => (ofCrash (readNumber s.toList)).map float),
     ("timestamp", fun _ => (ofCrash (readMoment s.toList)).map fun _ => foreign "date"),
     ("binary", fun _ => ofLetters s.toList),
     ("str", fun _ => .ok (text codes))]
  match kinds.find? fun k => yamlTag k.1 == tag with
  | some k => k.2 ()
  | none => .error (.value tag)

/-! ## Nodes -/

/-- The pair that a mapping of one entry is. -/
def ofPair : Data → Except Error Data
  | mapping [(k, v)] => .ok (list [k, v])
  | _ => .error (.value (yamlTag "pairs"))

/-- The pairs of a list of mappings with one entry each. -/
def ofPairs (items : List Data) : Except Error Data := (items.mapM ofPair).map list

/-- A sequence with a tag. -/
def ofSequence (tag : String) (items : List Data) : Except Error Data :=
  if tag == yamlTag "seq" then .ok (list items)
  else if tag == yamlTag "omap" || tag == yamlTag "pairs" then ofPairs items
  else .error (.value tag)

/-- A mapping with a tag. A set is a mapping of its members to nothing; it is kept as their list. -/
def ofMapping (tag : String) (entries : List (Data × Data)) : Except Error Data :=
  if tag == yamlTag "map" then (ofEntries entries).map mapping
  else if tag == yamlTag "set" then (ofEntries entries).map fun m => list (m.map (·.1))
  else .error (.value tag)

mutual

def ofNode : Node → Except Error Data
  | .scalar (some tag) codes _ => ofScalar tag codes
  | .scalar none codes true => ofScalar (yamlTag (Kind.ofText (textOf codes)).name) codes
  | .scalar none codes false => .ok (text codes)
  | .sequence tag items => do ofSequence (tag.getD (yamlTag "seq")) (← ofNodes items)
  | .mapping tag entries => do ofMapping (tag.getD (yamlTag "map")) (← ofNodePairs entries)
  | .cycle => .ok (foreign "cycle")

def ofNodes : List Node → Except Error (List Data)
  | [] => .ok []
  | n :: rest => do return (← ofNode n) :: (← ofNodes rest)

def ofNodePairs : List (Node × Node) → Except Error (List (Data × Data))
  | [] => .ok []
  | (k, v) :: rest => do return (← ofNode k, ← ofNode v) :: (← ofNodePairs rest)

end

/-! ## Views -/

mutual

/-- Data as a value; entries whose key is no text are left out. -/
def toValue : Data → Value
  | null => .null
  | bool b => .bool b
  | int n => .int n
  | float x => .float x
  | text codes => Json.textValue codes
  | foreign kind => .foreign (.kind kind)
  | list items => .list (toValues items)
  | mapping entries => .object (toFields entries)

def toValues : List Data → List Value
  | [] => []
  | d :: rest => toValue d :: toValues rest

def toFields : List (Data × Data) → List (String × Value)
  | [] => []
  | (.text codes, v) :: rest => (textOf codes, toValue v) :: toFields rest
  | (_, _) :: rest => toFields rest

end

end Data

/-- The data of a text; an empty one says nothing. -/
def read (s : List Char) : Except Error Data := do
  match ← Node.ofTokens (← Token.scan s) with
  | some n => Data.ofNode n
  | none => .ok .null

end UnitWatch.Yaml
