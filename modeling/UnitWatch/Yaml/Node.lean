import UnitWatch.Yaml.Token

/-!
# YAML nodes

The tree that the tokens of a document describe: scalars, sequences and mappings, each with its tag
if it has one. Names for nodes are gone: an alias stands for the node with its anchor.

**Merging.** In a mapping the key `<<` stands for the entries of another mapping, or of several. They
come before the mapping's own entries (`Node.mergeEntries`), so that own entries win.
-/

namespace UnitWatch.Yaml

inductive Node where
  /-- A plain scalar without a tag says by its text what it is. -/
  | scalar (tag : Option String) (codes : List Nat) (plain : Bool)
  | sequence (tag : Option String) (items : List Node)
  | mapping (tag : Option String) (entries : List (Node × Node))
  /-- A node inside itself. -/
  | cycle
  deriving Inhabited

/-- What the tags of all kinds of nodes in YAML itself start with. -/
def yamlTag (kind : String) : String := "tag:yaml.org,2002:" ++ kind

namespace Node

/-- The node where nothing is written. -/
def empty : Node := scalar none [] true

def isPlainText (text : String) : Node → Bool
  | scalar none codes true => codes == codesOf text.toList
  | _ => false

def hasTag (tag : String) : Node → Bool
  | scalar (some t) _ _ | sequence (some t) _ | mapping (some t) _ => t == tag
  | _ => false

/-! ## Merging -/

def isMergeKey (n : Node) : Bool := n.isPlainText "<<" || n.hasTag (yamlTag "merge")

/-- As a key, the equals sign is a text. -/
def ofKey (n : Node) : Node :=
  match n with
  | scalar none codes true =>
    if n.isPlainText "=" then scalar (some (yamlTag "str")) codes true else n
  | n => n

/-- The entries of a mapping. -/
def entries? : Node → Option (List (Node × Node))
  | mapping _ entries => some entries
  | _ => none

/-- The entries that a merge key stands for; of several mappings the first wins. -/
def mergedEntries? : Node → Option (List (Node × Node))
  | mapping _ entries => some entries
  | sequence _ items => (items.mapM entries?).map fun all => all.reverse.flatten
  | _ => none

/-- The entries of a mapping after merging. -/
def mergeEntries (written : List (Node × Node)) : Except Error (List (Node × Node)) :=
  match (written.filter fun e => e.1.isMergeKey).mapM fun e => mergedEntries? e.2 with
  | some merged =>
      .ok (merged.flatten
        ++ (written.filter fun e => !e.1.isMergeKey).map fun (k, v) => (ofKey k, v))
  | none => .error (.value (yamlTag "merge"))

/-! ## Reading -/

structure Reader.State where
  tokens : List Token
  /-- The nodes that have a name; one that is still being read has no value yet. -/
  anchors : List (String × Option Node) := []
  /-- What tag handles stand for. -/
  handles : List (String × String) := []

/-- A part of the reading of a document. -/
abbrev Reader := StateT Reader.State (Except Error)

namespace Reader

def fail {α : Type} (e : Error) : Reader α := fun _ => .error e

/-- The next token; none at the end. -/
def peek : Reader (Option Token) := do return (← get).tokens.head?

/-- Whether the next token is one of these. -/
def isNext (ts : List Token) : Reader Bool := do
  match ← peek with
  | some t => return ts.contains t
  | none => return false

def drop : Reader Unit := modify fun s => { s with tokens := s.tokens.drop 1 }

/-- Goes past a token if it is the next one. -/
def accept (t : Token) : Reader Bool := do
  if ← isNext [t] then
    drop
    return true
  else return false

def acceptAnchor : Reader (Option String) := do
  match ← peek with
  | some (.anchor name) => do
      drop
      return some name
  | _ => return none

/-- A tag, spelled out. -/
def acceptTag : Reader (Option String) := do
  match ← peek with
  | some (.tag none suffix) => do
      drop
      return some suffix
  | some (.tag (some handle) suffix) => do
      drop
      match (← get).handles.lookup handle with
      | some start => return some (start ++ suffix)
      | none => fail (.value (handle ++ suffix))
  | _ => return none

/-- The anchor and the tag in front of a node, in either order. -/
def properties : Reader (Option String × Option String) := do
  let anchor ← acceptAnchor
  let tag ← acceptTag
  if anchor.isSome then return (anchor, tag)
  else return (← acceptAnchor, tag)

/-- Binds a name to a node that is about to be read. -/
def bindAnchor : Option String → Reader Unit
  | some name => do
    if (← get).anchors.any (·.1 == name) then fail (.reference name)
    else modify fun s => { s with anchors := (name, none) :: s.anchors }
  | none => return

/-- Gives the name of a node its value. -/
def fulfil : Option String → Node → Reader Unit
  | some name, n => modify fun s => { s with
      anchors := s.anchors.map fun a => if a.1 == name then (name, some n) else a }
  | none, _ => return

/-- The node that an alias stands for. -/
def aliased (name : String) : Reader Node := do
  match (← get).anchors.lookup name with
  | some (some n) => return n
  | some none => return .cycle
  | none => fail (.reference name)

/-- A tag that says no more than that there is one. -/
def specific (tag : Option String) : Option String := if tag == some "!" then none else tag

/-- A mapping of entries as they are written. -/
def makeMapping (tag : Option String) (written : List (Node × Node)) : Reader Node :=
  match mergeEntries written with
  | .ok entries => return .mapping (specific tag) entries
  | .error e => fail e

/-- The comma in front of an item in brackets, which the first item does not have. -/
def separator (first : Bool) : Reader Unit := do
  if first then return
  if ← accept .flowEntry then return
  fail .order

mutual

/-- A node. `inBlock` says whether blocks may start here, `indentless` whether the items of a sequence
may stand here without a block of their own. -/
def node (inBlock indentless : Bool) : Nat → Reader Node
  | 0 => fail .order
  | fuel + 1 => do
    match ← peek with
    | some (.alias name) => do
        drop
        aliased name
    | _ => do
        let (anchor, tag) ← properties
        bindAnchor anchor
        let n ← content inBlock indentless (anchor.isSome || tag.isSome) tag fuel
        fulfil anchor n
        return n

/-- A node behind its properties; `marked` says whether it has any. -/
def content (inBlock indentless marked : Bool) (tag : Option String) : Nat → Reader Node
  | 0 => fail .order
  | fuel + 1 => do
    match ← peek, inBlock, indentless with
    | some .entry, _, true => return .sequence (specific tag) (← indentlessItems fuel)
    | some (.scalar codes plain), _, _ => do
        drop
        return .scalar (specific tag) codes (plain || tag == some "!")
    | some .flowSequenceStart, _, _ => do
        drop
        return .sequence (specific tag) (← flowItems true fuel)
    | some .flowMappingStart, _, _ => do
        drop
        makeMapping tag (← flowEntries true fuel)
    | some .sequenceStart, true, _ => do
        drop
        return .sequence (specific tag) (← blockItems fuel)
    | some .mappingStart, true, _ => do
        drop
        makeMapping tag (← blockEntries fuel)
    | _, _, _ => if marked then return .scalar (specific tag) [] true else fail .order

/-- A node in a block, or nothing before one of the given tokens. -/
def blockNode (indentless : Bool) (ends : List Token) : Nat → Reader Node
  | 0 => fail .order
  | fuel + 1 => do if ← isNext ends then return empty else node true indentless fuel

/-- A node in brackets, or nothing before one of the given tokens. -/
def flowNode (ends : List Token) : Nat → Reader Node
  | 0 => fail .order
  | fuel + 1 => do if ← isNext ends then return empty else node false false fuel

def blockItems : Nat → Reader (List Node)
  | 0 => fail .order
  | fuel + 1 => do
    if ← accept .entry then
      let n ← blockNode false [.entry, .blockEnd] fuel
      return n :: (← blockItems fuel)
    else if ← accept .blockEnd then return []
    else fail .order

def indentlessItems : Nat → Reader (List Node)
  | 0 => fail .order
  | fuel + 1 => do
    if ← accept .entry then
      let n ← blockNode false [.entry, .key, .value, .blockEnd] fuel
      return n :: (← indentlessItems fuel)
    else return []

def blockEntries : Nat → Reader (List (Node × Node))
  | 0 => fail .order
  | fuel + 1 => do
    let ends := [.key, .value, .blockEnd]
    if ← accept .key then
      let k ← blockNode true ends fuel
      let v ← if ← accept .value then blockNode true ends fuel else pure empty
      return (k, v) :: (← blockEntries fuel)
    else if ← accept .blockEnd then return []
    else fail .order

/-- The items of a sequence in brackets; an item with a colon is a mapping of one entry. -/
def flowItems (first : Bool) : Nat → Reader (List Node)
  | 0 => fail .order
  | fuel + 1 => do
    if ← accept .flowSequenceEnd then return []
    separator first
    if ← accept .key then
      let k ← flowNode [.value, .flowEntry, .flowSequenceEnd] fuel
      let v ← if ← accept .value then flowNode [.flowEntry, .flowSequenceEnd] fuel else pure empty
      let n ← makeMapping none [(k, v)]
      return n :: (← flowItems false fuel)
    else if ← accept .flowSequenceEnd then return []
    else
      let n ← node false false fuel
      return n :: (← flowItems false fuel)

/-- The entries of a mapping in braces; an entry without a colon is a key with nothing behind it. -/
def flowEntries (first : Bool) : Nat → Reader (List (Node × Node))
  | 0 => fail .order
  | fuel + 1 => do
    if ← accept .flowMappingEnd then return []
    separator first
    if ← accept .key then
      let k ← flowNode [.value, .flowEntry, .flowMappingEnd] fuel
      let v ← if ← accept .value then flowNode [.flowEntry, .flowMappingEnd] fuel else pure empty
      return (k, v) :: (← flowEntries false fuel)
    else if ← accept .flowMappingEnd then return []
    else
      let k ← node false false fuel
      return (k, empty) :: (← flowEntries false fuel)

end

/-! ## Documents -/

/-- What tag handles stand for unless directives say otherwise. -/
def defaultHandles : List (String × String) := [("!", "!"), ("!!", yamlTag "")]

/-- The directives in front of a document, with the handles that they have given. -/
def directives (fuel : Nat) (versioned : Bool) (handles : List (String × String)) :
    Reader (List (String × String)) :=
  match fuel with
  | 0 => fail .order
  | fuel + 1 => do
    match ← peek with
    | some (.directive d) => do
        drop
        match d with
        | .version major _ =>
          if versioned || major ≠ 1 then fail .order else directives fuel true handles
        | .tag handle start =>
          if handles.any (·.1 == handle) then fail .order
          else directives fuel versioned ((handle, start) :: handles)
        | .other => directives fuel versioned handles
    | _ => return handles

def skipEnds : Nat → Reader Unit
  | 0 => return
  | fuel + 1 => do if ← accept .documentEnd then skipEnds fuel else return

/-- A document with a mark at its start. -/
def markedDocument (fuel : Nat) : Reader (Option Node) := do
  if (← peek).isNone then return none
  else
    let handles ← directives fuel false []
    modify fun s => { s with handles := handles ++ defaultHandles }
    if ← accept .documentStart then
      match ← peek with
      | none | some (.directive _) | some .documentStart | some .documentEnd => return some empty
      | _ => return some (← node true false fuel)
    else fail .order

/-- The only document of a stream; none if the stream is empty. -/
def document (fuel : Nat) : Reader (Option Node) := do
  let n ← match ← peek with
    | none | some (.directive _) | some .documentStart => markedDocument fuel
    | _ => do
        modify fun s => { s with handles := defaultHandles }
        pure (some (← node true false fuel))
  skipEnds fuel
  if (← peek).isNone then return n else fail .order

end Reader

/-- The node that a document's tokens describe; none if there is no document. -/
def ofTokens (tokens : List Token) : Except Error (Option Node) :=
  ((Reader.document (3 * tokens.length + 3)).run { tokens }).map (·.1)

end Node

end UnitWatch.Yaml
