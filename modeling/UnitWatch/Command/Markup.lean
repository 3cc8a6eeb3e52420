/-!
# Text for a terminal

Text that is shown on a terminal can have marks in brackets. A **mark** starts with a small letter, a
slash, a number sign or an at sign behind the opening bracket, and holds no other opening bracket. A
backslash in front of a mark makes it text, and two backslashes there stand for one.

`escape` makes the marks in a message text; `plain` is what shows of a text where marks have no effect.
A backslash in front of a bracket that opens no mark does not show, whether it is escaped or not.
-/

namespace UnitWatch.Command.Markup

/-- Whether a mark may start with a character. -/
def startsMark (c : Char) : Bool :=
  ('a' ≤ c && c ≤ 'z') || c == '#' || c == '/' || c == '@'

/-- How many characters the mark has that starts here, if one does. -/
def markLength? : List Char → Option Nat
  | '[' :: c :: rest =>
    let inside := rest.takeWhile fun c => c != '[' && c != ']'
    if startsMark c && (rest.drop inside.length).head? == some ']' then some (inside.length + 3)
    else none
  | _ => none

/-- The backslashes here, and the length of the mark behind them. -/
def marked? (s : List Char) : Option (Nat × Nat) :=
  let slashes := (s.takeWhile (· == '\\')).length
  (markLength? (s.drop slashes)).map fun n => (slashes, n)

/-- Makes the marks in a text text, up to the end of the text. -/
def escapeMarks : Nat → List Char → List Char
  | 0, s => s
  | _, [] => []
  | fuel + 1, c :: rest =>
    match marked? (c :: rest) with
    | some (slashes, n) =>
        List.replicate (2 * slashes + 1) '\\' ++ ((c :: rest).drop slashes).take n
          ++ escapeMarks fuel ((c :: rest).drop (slashes + n))
    | none => c :: escapeMarks fuel rest

/-- A message as part of a text with marks. A single backslash at the end would reach for a mark
behind the message, so it is doubled. -/
def escape (s : List Char) : List Char :=
  let t := escapeMarks s.length s
  if t.getLast? == some '\\' && t.dropLast.getLast? != some '\\' then t ++ ['\\'] else t

/-- Text between marks as it shows. -/
def bare : List Char → List Char
  | '\\' :: '[' :: rest => '[' :: bare rest
  | c :: rest => c :: bare rest
  | [] => []

/-- What shows of a text with marks. `done` is what has been passed since the last mark, in reverse
order. -/
def plainFrom : Nat → List Char → List Char → List Char
  | 0, s, done => bare (done.reverse ++ s)
  | _, [], done => bare done.reverse
  | fuel + 1, c :: rest, done =>
    match marked? (c :: rest) with
    | some (slashes, n) =>
        let text := if slashes % 2 = 1 then ((c :: rest).drop slashes).take n else []
        bare done.reverse ++ List.replicate (slashes / 2) '\\' ++ text
          ++ plainFrom fuel ((c :: rest).drop (slashes + n)) []
    | none => plainFrom fuel rest (c :: done)

/-- The characters that move the cursor and are not shown. -/
def isControl (c : Char) : Bool := [7, 8, 11, 12, 13].contains c.toNat

/-- Tabs as blanks, up to the next column that is a multiple of eight. -/
def expandTabs (column : Nat) : List Char → List Char
  | [] => []
  | '\t' :: rest =>
    let width := 8 - column % 8
    List.replicate width ' ' ++ expandTabs (column + width) rest
  | '\n' :: rest => '\n' :: expandTabs 0 rest
  | c :: rest => c :: expandTabs (column + 1) rest

/-- What shows of a text with marks where marks have no effect. -/
def plain (s : List Char) : List Char :=
  expandTabs 0 ((plainFrom s.length s []).filter (!isControl ·))

/-- A message in red, as it shows without colours. -/
def showError (message : String) : String :=
  String.ofList (plain ("[red]".toList ++ escape message.toList ++ "[/red]".toList))

end UnitWatch.Command.Markup
