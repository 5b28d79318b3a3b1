import TextRules.Text.Basic

/-!
Log lines. A line has a level, the part of the program it comes from, and a message. A message is shown with the
    characters spelled out that could steer a terminal.
-/

namespace TextRules

/-- How grave a log line is, the gravest first. -/
inductive LogLevel where
  | error
  | warn
  | info
  | debug
  | trace
  deriving DecidableEq

namespace LogLevel

/-- The name of a level in the log. -/
def name : LogLevel → String
  | error => "ERROR"
  | warn => "WARN"
  | info => "INFO"
  | debug => "DEBUG"
  | trace => "TRACE"

/-- The place of a level among all of them, the gravest having the least. -/
def rank : LogLevel → Nat
  | error => 1
  | warn => 2
  | info => 3
  | debug => 4
  | trace => 5

/-- The level with a name, in any case. -/
def ofName? (name : String) : Option LogLevel :=
  [error, warn, info, debug, trace].find? fun level => level.name == name.toUpper

end LogLevel

/-- A line of the log: its level, the part of the program it comes from, and its message. -/
structure LogLine where
  level : LogLevel
  target : String
  message : String
  deriving DecidableEq

namespace LogLine

/-- A character as it is shown: those that begin or make up a command to a terminal are spelled in hexadecimal. -/
def shownChar (c : Char) : List Char :=
  let n := c.toNat
  let digits := [Text.hexDigit (n / 16), Text.hexDigit (n % 16)]
  if [0x07, 0x08, 0x0C, 0x1B, 0x7F].contains n then '\\' :: 'x' :: digits
  else if 0x80 ≤ n ∧ n ≤ 0x9F then ['\\', 'u', '\x7b'] ++ digits ++ ['\x7d']
  else [c]

/-- The message as it is shown. -/
def shown (line : LogLine) : String := String.ofList (line.message.toList.flatMap shownChar)

end LogLine

/-- The least grave level that is logged; without one nothing is. -/
abbrev LogFilter := Option LogLevel

namespace LogFilter

/-- The filter that is asked for: a talkative program logs details, and a setting names a level or turns the log
    off. -/
def ofSetting (verbose : Bool) (setting : Option String) : LogFilter :=
  if verbose then some .debug
  else
    match setting with
    | none => some .info
    | some s => if s.toUpper = "OFF" then none else some ((LogLevel.ofName? s).getD .info)

/-- Whether a line is logged: if it is no less grave than the level of the filter. -/
def keeps (f : LogFilter) (line : LogLine) : Bool := f.any fun level => line.level.rank ≤ level.rank

end LogFilter
end TextRules
