/-!
# Log records

What a pool reports on the way: a level and a line of text.
-/

namespace Swapchain.Log

/-- How serious a record is. -/
inductive Level where
  | error
  | warn
  | info
  | debug
  | trace
  deriving DecidableEq, Inhabited, Repr

/-- The name of a level at the head of a line. -/
def Level.name : Level → String
  | error => "ERROR"
  | warn => "WARN"
  | info => "INFO"
  | debug => "DEBUG"
  | trace => "TRACE"

/-- One record: a level and its text. -/
structure Record where
  level : Level
  text : String
  deriving DecidableEq, Inhabited, Repr

/-- The record as one line: the level, a blank, the text. -/
def Record.line (r : Record) : String := r.level.name ++ " " ++ r.text

end Swapchain.Log
