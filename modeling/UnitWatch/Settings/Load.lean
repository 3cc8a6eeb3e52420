import UnitWatch.Host.Basic
import UnitWatch.Settings.Document

/-!
# Finding and loading settings

The settings document is looked for in the user's configuration directory and then in those of the
system, in their order; the first file counts. A path that is given counts instead.
-/

namespace UnitWatch.Settings

def directoryName : String := "killjoy"

def fileName : String := "settings.json"

/-- The configuration directories of the system. -/
def systemDirectories (h : Host) : List Path :=
  let list := (h.lookupVariable "XDG_CONFIG_DIRS").getD "/etc/xdg"
  ((Path.splitOn ':' list.toList).filter fun s => !s.isEmpty).map fun s =>
    Path.ofText (String.ofList s)

/-- Where settings are looked for, in order. -/
def searchPaths (h : Host) : Except Crash (List Path) := do
  let home ← h.configHome
  return (home :: systemDirectories h).map fun p => (p.child directoryName).child fileName

/-- The first path that is a file. -/
def firstFile (h : Host) : List Path → Except Crash (Option Path)
  | [] => .ok none
  | p :: rest => do if ← h.isFile p then .ok (some p) else firstFile h rest

/-- The settings file that would be loaded. -/
def find (h : Host) : Except Failure Path := do
  let paths ← (searchPaths h).mapError Failure.crash
  match ← (firstFile h paths).mapError Failure.crash with
  | some p => .ok p
  | none => .error (.fault (.settingsNotFound (paths.map Path.display)))

/-- A file that cannot be opened is an unreadable settings file; anything else goes on as it is. -/
def ofFile (p : Path) : Except Crash (List Char) → Except Failure Settings
  | .ok text => ofRead p.display (Json.readChars text)
  | .error (.notOpened e _) => .error (.fault (.settingsUnreadable p.display e.reason))
  | .error c => .error (.crash c)

/-- Loads the settings at a path, or those that are found. -/
def load (h : Host) (path : Option Path) : Except Failure Settings := do
  let p ← match path with
    | some p => .ok p
    | none => find h
  ofFile p (h.readText p)

end UnitWatch.Settings
