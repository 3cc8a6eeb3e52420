import UnitWatch.Text.Quoted

/-!
# Faults of patterns

What can be wrong with the text of a pattern. Most faults have a place; the message then tells it,
with line and column if the pattern has several lines.
-/

namespace UnitWatch.Pattern

/-- A rule of the pattern language that a text breaks. -/
inductive Problem where
  | badEscapeAtEnd
  | badEscape (escape : List Char)
  | incompleteEscape (escape : List Char)
  | octalOutOfRange (escape : List Char)
  | missingBrace
  | missingName (what : String)
  | unterminatedName (terminator : Char)
  | undefinedCharacterName (name : List Char)
  | invalidGroupReference (index : Nat)
  | openGroupReference
  | lookBehindReference
  | unterminatedSet
  | badRange (low high : List Char)
  | minAboveMax
  | nothingToRepeat
  | multipleRepeat
  | unexpectedEnd
  | badGroupName (name : List Char)
  | badGroupNumber
  | unknownGroupName (name : List Char)
  | redefinedGroup (name : List Char) (index previous : Nat)
  | unknownExtension (text : List Char)
  | unterminatedComment
  | unterminatedGroup
  | tooManyBranches
  | flagsNotAtStart
  | localeFlag
  | incompatibleFlags
  | missingFlagEnd
  | missingFlag
  | missingColon
  | unknownFlag
  | turnOnGlobalFlag
  | turnOffGlobalFlag
  | turnOffCharacterSet
  | flagOnAndOff
  | unbalancedBracket
  | lookBehindTooWide
  | lookBehindNotFixed
  | templateRepeat (greed : String)
  deriving DecidableEq, Inhabited

namespace Problem

def quotedChars (s : List Char) : String := Text.quoted (String.ofList s)

def message : Problem → String
  | badEscapeAtEnd => "bad escape (end of pattern)"
  | badEscape e => "bad escape " ++ String.ofList e
  | incompleteEscape e => "incomplete escape " ++ String.ofList e
  | octalOutOfRange e => "octal escape value " ++ String.ofList e ++ " outside of range 0-0o377"
  | missingBrace => "missing \x7b"
  | missingName what => "missing " ++ what
  | unterminatedName t => "missing " ++ t.toString ++ ", unterminated name"
  | undefinedCharacterName n => "undefined character name " ++ quotedChars n
  | invalidGroupReference i => "invalid group reference " ++ toString i
  | openGroupReference => "cannot refer to an open group"
  | lookBehindReference => "cannot refer to group defined in the same lookbehind subpattern"
  | unterminatedSet => "unterminated character set"
  | badRange a b => "bad character range " ++ String.ofList a ++ "-" ++ String.ofList b
  | minAboveMax => "min repeat greater than max repeat"
  | nothingToRepeat => "nothing to repeat"
  | multipleRepeat => "multiple repeat"
  | unexpectedEnd => "unexpected end of pattern"
  | badGroupName n => "bad character in group name " ++ quotedChars n
  | badGroupNumber => "bad group number"
  | unknownGroupName n => "unknown group name " ++ quotedChars n
  | redefinedGroup n i p =>
      "redefinition of group name " ++ quotedChars n ++ " as group " ++ toString i
        ++ "; was group " ++ toString p
  | unknownExtension t => "unknown extension ?" ++ String.ofList t
  | unterminatedComment => "missing ), unterminated comment"
  | unterminatedGroup => "missing ), unterminated subpattern"
  | tooManyBranches => "conditional backref with more than two branches"
  | flagsNotAtStart => "global flags not at the start of the expression"
  | localeFlag => "bad inline flags: cannot use 'L' flag with a str pattern"
  | incompatibleFlags => "bad inline flags: flags 'a', 'u' and 'L' are incompatible"
  | missingFlagEnd => "missing -, : or )"
  | missingFlag => "missing flag"
  | missingColon => "missing :"
  | unknownFlag => "unknown flag"
  | turnOnGlobalFlag => "bad inline flags: cannot turn on global flag"
  | turnOffGlobalFlag => "bad inline flags: cannot turn off global flag"
  | turnOffCharacterSet => "bad inline flags: cannot turn off flags 'a', 'u' and 'L'"
  | flagOnAndOff => "bad inline flags: flag turned on and off"
  | unbalancedBracket => "unbalanced parenthesis"
  | lookBehindTooWide => "looks too much behind"
  | lookBehindNotFixed => "look-behind requires fixed-width pattern"
  | templateRepeat greed => "internal: unsupported template operator " ++ greed

end Problem

/-- Why a text is no pattern. -/
inductive Fault where
  /-- The text breaks a rule, at a place if there is one. -/
  | malformed (problem : Problem) (position : Option Nat)
  /-- Two flags that exclude each other are set for the whole pattern. -/
  | contradiction
  /-- A repetition count beyond the engine's limit. -/
  | countTooLarge
  /-- A number with too many digits to be read. -/
  | tooManyDigits (count : Nat)
  /-- Brackets nested too deep to be followed. -/
  | tooDeep
  deriving DecidableEq, Inhabited

/-- The place of a fault: offset, and for a pattern of several lines also line and column. -/
def placeText (pattern : List Char) (position : Nat) : String :=
  let before := pattern.take position
  let line := before.count '\n' + 1
  let column := (before.reverse.takeWhile (· != '\n')).length + 1
  " at position " ++ toString position ++
    if '\n' ∈ pattern then " (line " ++ toString line ++ ", column " ++ toString column ++ ")"
    else ""

/-- The text of a fault of the given pattern; too deep nesting has none. -/
def Fault.message (pattern : List Char) : Fault → String
  | malformed problem position =>
      problem.message ++ (position.map (placeText pattern)).getD ""
  | contradiction => "ASCII and UNICODE flags are incompatible"
  | countTooLarge => "the repetition number is too large"
  | tooManyDigits count =>
      "Exceeds the limit (4300 digits) for integer string conversion: value has " ++ toString count
        ++ " digits; use sys.set_int_max_str_digits() to increase the limit"
  | tooDeep => ""

end UnitWatch.Pattern
