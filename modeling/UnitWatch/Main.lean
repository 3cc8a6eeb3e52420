import Std.Time.DateTime
import UnitWatch.Command.Run
import UnitWatch.Log.Clock

/-!
# The program

Reads what a command needs of the host, carries the command out, and writes what it leaves behind.
-/

open UnitWatch

namespace UnitWatch.Program

/-- What is at a path. -/
def lookAt (p : Path) : IO (Except FileError HostEntry) := do
  try
    let octets ← IO.FS.readBinFile p.display
    return .ok (.file octets.toList)
  catch e =>
    match e with
    | .inappropriateType _ code _ =>
        return if code == 21 then .ok .directory else .error .notDirectory
    | .invalidArgument _ _ _ => return .error .nameTooLong
    | _ => return .error .missing

/-- The environment variables of the process. -/
def environment : IO (List (String × String)) := do
  let octets ← IO.FS.readBinFile "/proc/self/environ"
  let text := (Host.decode octets.toList).toOption.getD []
  return (Path.splitOn '\x00' text).filterMap fun entry =>
    let name := entry.takeWhile (· != '=')
    match entry.drop name.length with
    | _ :: value => some (String.ofList name, String.ofList value)
    | [] => none

/-- The home directory of the user's account. -/
def accountHome : IO (Option String) := do
  try
    let status ← IO.FS.readFile "/proc/self/status"
    let database ← IO.FS.readFile "/etc/passwd"
    return (Host.userOf? status.toList).bind fun user => Host.homeOf? user database.toList
  catch _ => return none

/-- The host with what is known of its files. -/
def hostOf (empty : Host) (known : List (Path × Except FileError HostEntry)) : Host :=
  { empty with look := fun p => (known.lookup p).getD (.error .missing) }

/-- Looks at the paths that a command asks for. Knowing some files can lead to others, but not more
than twice. -/
def observe (empty : Host) (args : List String) : IO Host := do
  let mut known : List (Path × Except FileError HostEntry) := []
  for _ in [0, 1, 2] do
    for p in Command.wantedPaths (hostOf empty known) args do
      unless (known.lookup p).isSome do
        known := (p, ← lookAt p) :: known
  return hostOf empty known

/-- The current time as logs write it. -/
def currentTime : IO String := do
  let now ← Std.Time.Timestamp.now
  return Log.clockText (now.toNanosecondsSinceUnixEpoch.val.toNat / 1000)

def write (o : Command.Outcome) : IO Unit := do
  let time ← currentTime
  for line in o.output do IO.println line
  for m in o.messages do IO.eprintln (m.render o.format time)
  match o.logFile with
  | some p => do
      let h ← IO.FS.Handle.mk p.display .append
      for line in o.logLines time do h.putStrLn line
  | none => return
  match o.breakdown with
  | some b => IO.eprintln b.message
  | none => return

end UnitWatch.Program

def main (args : List String) : IO UInt32 := do
  let h ← Program.observe
    { environment := ← Program.environment
      look := fun _ => .error .missing
      directory := toString (← IO.currentDir)
      accountHome := ← Program.accountHome } args
  let o := Command.execute h args
  Program.write o
  return o.exitCode.toNat.toUInt32
