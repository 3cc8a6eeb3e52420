/-!
# Paths

A path is where it starts and the names on the way. Empty names and single dots say nothing and are
dropped (`Path.ofText`); two dots are kept, since what they lead to depends on the files.
-/

namespace UnitWatch

structure Path where
  /-- How many slashes the path starts with: none, one, or exactly two. -/
  root : Nat
  parts : List String
  deriving DecidableEq, Inhabited

namespace Path

/-- The parts of a text between occurrences of a character. -/
def splitOn (mark : Char) : List Char → List (List Char)
  | [] => [[]]
  | c :: rest =>
    match splitOn mark rest with
    | [] => [[c]]
    | p :: ps => if c = mark then [] :: p :: ps else (c :: p) :: ps

/-- Whether a name leads somewhere. -/
def isStep (name : List Char) : Bool := !name.isEmpty && name != ['.']

def ofText (s : String) : Path where
  root := match (s.toList.takeWhile (· == '/')).length with
    | 0 => 0
    | 2 => 2
    | _ => 1
  parts := ((splitOn '/' s.toList).filter isStep).map String.ofList

def display (p : Path) : String :=
  if p.root = 0 && p.parts.isEmpty then "."
  else String.ofList (List.replicate p.root '/') ++ "/".intercalate p.parts

/-- The path of something in a directory. -/
def child (p : Path) (name : String) : Path := { p with parts := p.parts ++ [name] }

/-- Names with two dots taking back the name before them; at the start they stay where `keep` says
so, and lead nowhere otherwise. -/
def collapse (keep : Bool) (names : List String) : List String :=
  (names.foldl step []).reverse
where
  step (done : List String) (name : String) : List String :=
    if name != ".." then name :: done
    else match done with
      | last :: rest => if last == ".." then ".." :: done else rest
      | [] => if keep then [".."] else []

/-- The path where two dots take back a name, without looking at any files. -/
def collapsed (p : Path) : Path := { p with parts := collapse (p.root = 0) p.parts }

/-- The collapsed path from a directory. -/
def resolveIn (p : Path) (directory : String) : Path :=
  if p.root = 0 then
    let start := ofText directory
    { start with parts := collapse (start.root = 0) (start.parts ++ p.parts) }
  else p.collapsed

end Path

end UnitWatch
