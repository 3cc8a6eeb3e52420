/-!
# Unit types

A unit's name ends in a suffix that tells its type. There are eleven types, and no name has two of
them: no suffix is a suffix of another.
-/

namespace UnitWatch

/-- The types of units that the service manager knows. -/
inductive UnitType where
  | automount | device | mount | path | scope | service | slice | socket | swap | target | timer
  deriving DecidableEq, Repr, Inhabited

namespace UnitType

/-- The types in the order in which they are listed. -/
def all : List UnitType :=
  [automount, device, mount, path, scope, service, slice, socket, swap, target, timer]

/-- The end of the names of units of this type. -/
def suffix : UnitType → String
  | automount => ".automount"
  | device => ".device"
  | mount => ".mount"
  | path => ".path"
  | scope => ".scope"
  | service => ".service"
  | slice => ".slice"
  | socket => ".socket"
  | swap => ".swap"
  | target => ".target"
  | timer => ".timer"

/-- Whether a name ends in the suffix of this type. -/
def fits (t : UnitType) (name : String) : Bool := t.suffix.toList.isSuffixOf name.toList

/-- The type with exactly this suffix. -/
def ofSuffix? (s : String) : Option UnitType := all.find? (·.suffix == s)

/-- The type that a unit's name tells. -/
def of? (name : String) : Option UnitType := all.find? (·.fits name)

end UnitType

end UnitWatch
