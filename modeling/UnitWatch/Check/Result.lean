import UnitWatch.Check.Finding
import UnitWatch.Failure

/-!
# Results of a check

Checking a value gives a result, or the findings about it, at least one.

**Side by side** (`Result.both`, `Result.each`). Parts of a value are checked independently, and all
findings are reported, in order.

**One after the other** (`Result.andThen`). A rule that needs a well-formed value is checked only
when there is one.

**Broken off.** A check can also break off with a crash, and then nothing else counts.
-/

namespace UnitWatch.Check

inductive Result (α : Type) where
  | valid (a : α)
  | invalid (first : Finding) (others : List Finding)
  | broken (c : Crash)
  deriving Inhabited

namespace Result

variable {α β : Type}

/-- A single finding about the value itself. -/
def reject (p : Problem) : Result α := invalid ⟨p, []⟩ []

def map (f : α → β) : Result α → Result β
  | valid a => valid (f a)
  | invalid g gs => invalid g gs
  | broken c => broken c

/-- A further check of a valid result. -/
def andThen (r : Result α) (next : α → Result β) : Result β :=
  match r with
  | valid a => next a
  | invalid g gs => invalid g gs
  | broken c => broken c

/-- Two checks side by side; the findings of the first come first. -/
def both (r : Result α) (s : Result β) : Result (α × β) :=
  match r, s with
  | broken c, _ => broken c
  | _, broken c => broken c
  | valid a, valid b => valid (a, b)
  | valid _, invalid g gs => invalid g gs
  | invalid g gs, valid _ => invalid g gs
  | invalid g gs, invalid h hs => invalid g (gs ++ h :: hs)

/-- The result seen from the outside of the checked part. -/
def within (p : Place) : Result α → Result α
  | valid a => valid a
  | invalid g gs => invalid (g.within p) (gs.map (·.within p))
  | broken c => broken c

/-- Checks side by side, all of them. -/
def all : List (Result α) → Result (List α)
  | [] => valid []
  | r :: rs => (r.both (all rs)).map fun (a, as) => a :: as

end Result

/-- A check of a value. -/
abbrev Checker (α : Type) := Value → Result α

variable {α β : Type}

/-- The items of a list, each checked, with its number from `n` on. -/
def itemsFrom (check : Checker α) (n : Nat) : List Value → List (Result α)
  | [] => []
  | v :: vs => (check v).within (.index n) :: itemsFrom check (n + 1) vs

/-- A list whose items pass a check. -/
def listOf (check : Checker α) : Checker (List α)
  | .list vs => Result.all (itemsFrom check 0 vs)
  | _ => .reject .notList

/-- A name that is a text. -/
def key (name : List Nat) : Result String :=
  match Text.ofCodes? name with
  | some s => .valid s
  | none => (Result.reject .brokenText).within (.field "[key]")

/-- An object whose values pass a check, as a table in the object's order. -/
def mappingOf (check : Checker α) : Checker (List (String × α))
  | .object fs =>
      Result.all (fs.map fun (name, v) => ((check v).within (.field name)).map fun a => (name, a))
  | .foreign (.fields entries) =>
      -- Some name is no text: the findings say which.
      (Result.all (entries.map fun (name, v) =>
        ((key name).both (check v)).within (.field (Text.shown name)))).andThen
          fun _ => .reject .brokenText
  | _ => .reject .notMapping

/-- A field that has to be there. -/
def required (fields : List (String × Value)) (name : String) (check : Checker α) : Result α :=
  match Value.field? fields name with
  | some v => (check v).within (.field name)
  | none => (Result.reject .missing).within (.field name)

/-- A field that has a default. -/
def optional (fields : List (String × Value)) (name : String) (check : Checker α) (default : α) :
    Result α :=
  match Value.field? fields name with
  | some v => (check v).within (.field name)
  | none => .valid default

/-- No fields other than the named ones. -/
def noOthers (fields : List (String × Value)) (names : List String) : Result Unit :=
  (Result.all ((fields.filter fun f => !names.contains f.1).map fun f =>
    (Result.reject (α := Unit) .unknownField).within (.field f.1))).map fun _ => ()

/-- An object that describes a thing of a kind: its fields are checked, and then what they say
together. Of a name that is no text nothing can be said but that, whatever else has been found. -/
def description (kind : String) (parts : List (String × Value) → Result α)
    (whole : α → Result β) : Checker β
  | .object fs => (parts fs).andThen whole
  | .foreign (.fields entries) =>
    match parts (Value.shownFields entries) with
    | .broken c => .broken c
    | _ => .reject .brokenText
  | _ => .reject (.notDescription kind)

end UnitWatch.Check
