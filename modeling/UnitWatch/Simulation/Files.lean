import UnitWatch.Host.Basic

/-!
# Files in memory

A directory with files and directories in it, by their paths from there. Nothing outside of it is
known but that there are directories above. The user has no account.
-/

namespace UnitWatch.Simulation

/-- What has been put at which names; the directories on the way are there, too. -/
abbrev Tree := List (List String × HostEntry)

namespace Tree

/-- What is at a path from the top of the tree. -/
def entry? (t : Tree) (names : List String) : Option HostEntry :=
  match t.find? (·.1 == names) with
  | some e => some e.2
  | none =>
    if names.isEmpty || t.any fun e => names.isPrefixOf e.1 then some .directory else none

/-- How many octets a name has. -/
def nameSize (name : String) : Nat := name.utf8ByteSize

/-- Goes on from a directory; `none` is a directory outside of the tree. -/
def walk (t : Tree) : Option (List String) → List String → Except FileError HostEntry
  | some here, [] => (t.entry? here).elim (.error .missing) .ok
  | none, [] => .ok .directory
  | none, name :: rest =>
    if name == ".." then walk t none rest
    else .error (if 255 < nameSize name then .nameTooLong else .missing)
  | some here, name :: rest =>
    match t.entry? here with
    | none => .error .missing
    | some (.file _) => .error .notDirectory
    | some .directory =>
      if name == ".." then walk t (if here.isEmpty then none else some here.dropLast) rest
      else if 255 < nameSize name then .error .nameTooLong
      else walk t (some (here ++ [name])) rest

/-- What is at a path. -/
def look (t : Tree) (p : Path) : Except FileError HostEntry :=
  if 4096 ≤ nameSize p.display then .error .nameTooLong
  else t.walk (if p.root = 0 then some [] else none) p.parts

/-- A host with these files. -/
def host (t : Tree) (environment : List (String × String)) (directory : String) : Host :=
  ⟨environment, t.look, directory, none⟩

end Tree

end UnitWatch.Simulation
