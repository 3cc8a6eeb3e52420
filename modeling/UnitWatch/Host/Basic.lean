import UnitWatch.Failure
import UnitWatch.Host.Path
import UnitWatch.Text.Encoding

/-!
# The host

What the daemon sees of the machine that it runs on: environment variables, the account of its user,
and files. Files are read as UTF-8 texts whose lines may end in any of the three usual ways.
-/

namespace UnitWatch

/-- What a path leads to. -/
inductive HostEntry where
  | directory
  | file (octets : List UInt8)
  deriving DecidableEq, Inhabited

structure Host where
  /-- The environment variables in their order. -/
  environment : List (String × String)
  /-- What is at a path, or why nothing can be said to be there. -/
  look : Path → Except FileError HostEntry
  /-- Where relative paths start. -/
  directory : String
  /-- The home directory of the user's account, if there is such an account. -/
  accountHome : Option String

/-- Ends of lines as single characters. -/
def unifyLineEnds : List Char → List Char
  | '\r' :: '\n' :: rest => '\n' :: unifyLineEnds rest
  | '\r' :: rest => '\n' :: unifyLineEnds rest
  | c :: rest => c :: unifyLineEnds rest
  | [] => []

namespace Host

/-! ## Variables -/

/-- The value of an environment variable that is set to something. -/
def lookupVariable (h : Host) (name : String) : Option String :=
  (h.environment.lookup name).filter (· ≠ "")

/-- The directory of the user: the variable says where it is, or else the account. -/
def home (h : Host) : Except Crash Path :=
  match (h.environment.lookup "HOME").or h.accountHome with
  | none => .error noHome
  | some said =>
    let text := String.ofList (said.toList.reverse.dropWhile (· == '/')).reverse
    if text = "" then .ok (Path.ofText "/")
    else if text.startsWith "~" then .error noHome
    else .ok (Path.ofText text)
where
  noHome : Crash := .runtime "Could not determine home directory."

/-- The directory of the user's configuration. -/
def configHome (h : Host) : Except Crash Path :=
  match h.lookupVariable "XDG_CONFIG_HOME" with
  | some text => .ok (Path.ofText text)
  | none => h.home.map (·.child ".config")

/-! ## Accounts -/

/-- The number of the user that a process runs for, told by the status of the process. -/
def userOf? (status : List Char) : Option (List Char) :=
  (Path.splitOn '\n' status).findSome? fun line =>
    match Path.splitOn '\t' line with
    | title :: user :: _ => if title = "Uid:".toList then some user else none
    | _ => none

/-- The home directory of a user by number, in a database with one account on each line. -/
def homeOf? (user database : List Char) : Option String :=
  (Path.splitOn '\n' database).findSome? fun line =>
    match Path.splitOn ':' line with
    | [_, _, number, _, _, home, _] => if number = user then some (String.ofList home) else none
    | _ => none

/-! ## Files -/

/-- Whether a path has a character that no path of the operating system has. -/
def hasNull (p : Path) : Bool := p.parts.any fun s => s.toList.contains '\x00'

/-- What is at a path; none if nothing is. -/
def find (h : Host) (p : Path) : Except Crash (Option HostEntry) :=
  if hasNull p then .ok none
  else match h.look p with
    | .ok e => .ok (some e)
    | .error .nameTooLong => .error (.notOpened .nameTooLong p.display)
    | .error _ => .ok none

def isThere (h : Host) (p : Path) : Except Crash Bool := (h.find p).map (·.isSome)

def isFile (h : Host) (p : Path) : Except Crash Bool :=
  (h.find p).map fun
    | some (.file _) => true
    | _ => false

/-- The octets of a file. -/
def read (h : Host) (p : Path) : Except Crash (List UInt8) :=
  if hasNull p then .error .nullInPath
  else match h.look p with
    | .ok (.file octets) => .ok octets
    | .ok .directory => .error (.notOpened .isDirectory p.display)
    | .error e => .error (.notOpened e p.display)

/-- The text in octets. -/
def decode (octets : List UInt8) : Except Crash (List Char) :=
  ((Text.decodeUtf8 octets).map unifyLineEnds).mapError Crash.undecodable

/-- The text of a file. -/
def readText (h : Host) (p : Path) : Except Crash (List Char) := do decode (← h.read p)

/-! ## Log files -/

/-- What is in a file that lines are to be added to; a file that is missing is made, but the
directory has to be there. -/
def openLog (h : Host) (p : Path) : Except Crash (List UInt8) :=
  let full := (p.resolveIn h.directory).display
  let p := p.collapsed
  if hasNull p then .error .nullInPath
  else if p.parts.isEmpty then .error (.notOpened .isDirectory full)
  else match h.look { p with parts := p.parts.dropLast } with
    | .error e => .error (.notOpened e full)
    | .ok (.file _) => .error (.notOpened .notDirectory full)
    | .ok .directory =>
      match h.look p with
      | .ok (.file octets) => .ok octets
      | .ok .directory => .error (.notOpened .isDirectory full)
      | .error .missing => .ok []
      | .error e => .error (.notOpened e full)

end Host

end UnitWatch
