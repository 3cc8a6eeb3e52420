/-!
# Bus names

**Validity.** A well-known bus name has at most 255 characters and two or more elements between
single dots; an element starts with an ASCII letter, the low line or the hyphen and goes on with
those or ASCII digits. Unique connection names (`:1.42`) do not qualify, since a notifier has to be
found again after a restart.

**Object path.** The object behind a name has the name's elements as path elements. A hyphen is legal
in a name but not in a path, so it becomes a low line there.
-/

namespace UnitWatch.BusName

/-! ## Names of the service manager and of notifiers -/

def manager : String := "org.freedesktop.systemd1"

def managerPath : String := "/org/freedesktop/systemd1"

def managerInterface : String := "org.freedesktop.systemd1.Manager"

def unitInterface : String := "org.freedesktop.systemd1.Unit"

def propertiesInterface : String := "org.freedesktop.DBus.Properties"

def notifierInterface : String := "name.jerebear.KilljoyNotifier1"

def notifierMember : String := "Notify"

/-! ## Validity -/

def maxLength : Nat := 255

/-- Whether an element may start with the character. -/
def isElementStart (c : Char) : Bool := c.isAlpha || c == '_' || c == '-'

/-- Whether an element may go on with the character. -/
def isElementRest (c : Char) : Bool := isElementStart c || c.isDigit

def isElement : List Char → Bool
  | [] => false
  | c :: rest => isElementStart c && rest.all isElementRest

/-- The parts of a text between dots. -/
def elements : List Char → List (List Char)
  | [] => [[]]
  | c :: rest =>
    match elements rest with
    | [] => [[c]]
    | e :: es => if c = '.' then [] :: e :: es else (c :: e) :: es

/-- Whether a text is a well-known bus name. -/
def isValid (name : String) : Bool :=
  let s := name.toList
  s.length ≤ maxLength && 2 ≤ (elements s).length && (elements s).all isElement

/-! ## Object paths -/

def pathChar (c : Char) : Char :=
  if c = '.' then '/' else if c = '-' then '_' else c

/-- The path of the object behind a bus name. -/
def objectPath (name : String) : String := String.ofList ('/' :: name.toList.map pathChar)

end UnitWatch.BusName
