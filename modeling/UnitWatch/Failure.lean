import UnitWatch.Fault
import UnitWatch.Text.Encoding

/-!
# Failures

Why an operation did not come to its end. The documented ways are faults. A **crash** is a failure
that no fault covers: something under the daemon went wrong in a way of its own, or data had a shape
that nothing expects. Cancellation is neither, and it is no error.
-/

namespace UnitWatch

/-- Why a file cannot be opened. -/
inductive FileError where
  | missing
  | isDirectory
  | notDirectory
  | nameTooLong
  deriving DecidableEq, Repr, Inhabited

namespace FileError

def name : FileError → String
  | missing => "FileNotFoundError"
  | isDirectory => "IsADirectoryError"
  | notDirectory => "NotADirectoryError"
  | nameTooLong => "OSError"

/-- The number by which the operating system knows the error. -/
def number : FileError → Nat
  | missing => 2
  | isDirectory => 21
  | notDirectory => 20
  | nameTooLong => 36

def reason : FileError → String
  | missing => "No such file or directory"
  | isDirectory => "Is a directory"
  | notDirectory => "Not a directory"
  | nameTooLong => "File name too long"

end FileError

/-- A failure that no fault covers. -/
inductive Crash where
  | runtime (text : String)
  /-- A table lacks a key. -/
  | missingKey (key : String)
  /-- A text that should spell an integer does not. -/
  | notAnInteger (text : String)
  /-- A number that is no number has no integer part, and neither has an infinite one. -/
  | integerOfNan
  | integerOfInfinite
  /-- An integer that no number of the binary format can stand for. -/
  | tooLargeForBinary
  | wrongType
  /-- A pattern asks for more repetitions than the engine can count. -/
  | countTooLarge
  /-- Data nested too deep to be followed. -/
  | tooDeep
  | undecodable (e : Text.DecodeError)
  /-- A path with a character that ends texts of the operating system. -/
  | nullInPath
  /-- A text that should spell an integer in a base, or a number, does not. -/
  | notInBase (base : Nat) (text : String)
  | notANumber (text : String)
  /-- A code that no character has. -/
  | noCodePoint
  /-- A code of more than 31 bits. -/
  | codeTooLarge
  /-- A date or a time of day that does not exist. -/
  | noSuchTime (reason : String)
  /-- A text has no character where one is asked for. -/
  | pastEnd
  /-- A value lacks what is asked of it. -/
  | noAttribute
  /-- A list from which pairs are taken has an item of another length. -/
  | notAPair (index length : Nat)
  /-- A word for no level of severity. -/
  | unknownLevel (word : String)
  /-- The operating system refuses to open a file. -/
  | notOpened (e : FileError) (path : String)
  deriving DecidableEq, Inhabited

namespace Crash

def name : Crash → String
  | runtime _ => "RuntimeError"
  | missingKey _ => "KeyError"
  | notAnInteger _ | integerOfNan | nullInPath | notInBase _ _ | notANumber _ | noCodePoint
  | noSuchTime _ | notAPair _ _ | unknownLevel _ => "ValueError"
  | integerOfInfinite | tooLargeForBinary | countTooLarge | codeTooLarge => "OverflowError"
  | wrongType => "TypeError"
  | tooDeep => "RecursionError"
  | undecodable _ => "UnicodeDecodeError"
  | noAttribute => "AttributeError"
  | pastEnd => "IndexError"
  | notOpened e _ => e.name

def message : Crash → String
  | runtime text => text
  | missingKey key => Text.quoted key
  | notAnInteger text => "invalid literal for int() with base 10: " ++ Text.quoted text
  | integerOfNan => "cannot convert float NaN to integer"
  | integerOfInfinite => "cannot convert float infinity to integer"
  | tooLargeForBinary => "int too large to convert to float"
  | wrongType => "wrong type"
  | countTooLarge => "the repetition number is too large"
  | tooDeep => "nested too deep"
  | undecodable e => e.message
  | nullInPath => "embedded null byte"
  | notInBase base text =>
      "invalid literal for int() with base " ++ toString base ++ ": " ++ Text.quoted text
  | notANumber text => "could not convert string to float: " ++ Text.quoted text
  | noCodePoint => "chr() arg not in range(0x110000)"
  | codeTooLarge => "Python int too large to convert to C int"
  | noSuchTime reason => reason
  | noAttribute => "no such attribute"
  | pastEnd => "string index out of range"
  | notAPair index length =>
      "dictionary update sequence element #" ++ toString index ++ " has length " ++ toString length
        ++ "; 2 is required"
  | unknownLevel word => "Unknown level: " ++ Text.quoted word
  | notOpened e path =>
      "[Errno " ++ toString e.number ++ "] " ++ e.reason ++ ": " ++ Text.quoted path

end Crash

/-- Why an operation did not come to its end. -/
inductive Failure where
  | fault (f : Fault)
  | crash (c : Crash)
  | cancelled
  deriving Inhabited

namespace Failure

/-- A fault of a bus as a failure. -/
def ofBus (f : BusFault) : Failure := .fault (.bus f)

def name : Failure → String
  | fault f => f.name
  | crash c => c.name
  | cancelled => "CancelledError"

def message : Failure → String
  | fault f => f.message
  | crash c => c.message
  | cancelled => ""

/-- What a log says about a failure: its text, or its name if it has none. -/
def summary (f : Failure) : String := if f.message = "" then f.name else f.message

end Failure

end UnitWatch
