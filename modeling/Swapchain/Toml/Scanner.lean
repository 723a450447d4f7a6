/-!
# Scanners

A scanner reads a value off the front of a text and leaves the rest, or fails. A failed
alternative gives its text back.

* `Scanner.span`: the longest run of characters of a class;
* `Scanner.many`: a scanner as often as it succeeds and consumes something.
-/

namespace Swapchain.Toml

/-- A reader of the front of a text. -/
abbrev Scanner := StateT (List Char) Option

namespace Scanner

variable {α : Type}

/-- Nothing is read. -/
def fail : Scanner α := fun _ => none

/-- A character of a class. -/
def one (p : Char → Bool) : Scanner Char
  | c :: r => if p c then some (c, r) else none
  | [] => none

/-- Exactly these characters. -/
def exactly : List Char → Scanner Unit
  | [] => pure ()
  | c :: cs => do
    let _ ← one (· == c)
    exactly cs

/-- The characters of a word. -/
def word (s : String) : Scanner Unit := exactly s.toList

/-- The longest run of characters of a class, which may be empty. -/
def span (p : Char → Bool) : Scanner (List Char) := fun s => some (s.takeWhile p, s.dropWhile p)

/-- The longest run of characters of a class, at least one. -/
def span1 (p : Char → Bool) : Scanner (List Char) := do
  let c ← one p
  let cs ← span p
  return c :: cs

/-- Exactly so many characters of a class. -/
def times (p : Char → Bool) : Nat → Scanner (List Char)
  | 0 => pure []
  | n + 1 => do
    let c ← one p
    let cs ← times p n
    return c :: cs

/-- A scanner, or nothing where it fails. -/
def optional (x : Scanner α) : Scanner (Option α) := some <$> x <|> pure none

/-- A scanner as often as it succeeds, at most `fuel` times. -/
def upTo (x : Scanner α) : Nat → Scanner (List α)
  | 0 => pure []
  | fuel + 1 => fun s =>
    match x s with
    | some (a, r) =>
      if r.length < s.length then (upTo x fuel r).map fun (as, rest) => (a :: as, rest)
      else some ([], s)
    | none => some ([], s)

/-- A scanner as often as it succeeds and consumes something. -/
def many (x : Scanner α) : Scanner (List α) := fun s => upTo x s.length s

/-- One or more values with a separator between each two. -/
def sepBy1 (x : Scanner α) (separator : Scanner Unit) : Scanner (List α) := do
  let a ← x
  let as ← many do
    separator
    x
  return a :: as

/-- The end of the text. -/
def atEnd : Scanner Unit
  | [] => some ((), [])
  | _ => none

/-- The value of a whole text. -/
def whole (x : Scanner α) (s : List Char) : Option α := ((x <* atEnd) s).map Prod.fst

/-! ## Blanks and lines -/

/-- A space or a tab. -/
def isBlank (c : Char) : Bool := c == ' ' || c == '\t'

/-- Blanks within a line. -/
def blanks : Scanner (List Char) := span isBlank

/-- The end of a line: a line feed, or a carriage return before one. -/
def newline : Scanner Unit := exactly ['\n'] <|> exactly ['\r', '\n']

/-- A character of a text that no rule sets apart: anything but controls, a tab excepted. -/
def isPlain (c : Char) : Bool := c == '\t' || (' ' ≤ c && c != '\x7f')

/-- A comment up to the end of its line. -/
def comment : Scanner Unit := do
  exactly ['#']
  let _ ← span isPlain

/-- What may stand after a statement: blanks, a comment and the end of the line or the text. -/
def lineEnd : Scanner Unit := do
  let _ ← blanks
  let _ ← optional comment
  newline <|> atEnd

/-- Blanks, comments and ends of lines, as between the items of an array. -/
def gap : Scanner Unit := do
  let _ ← many ((fun _ => ()) <$> span1 isBlank <|> newline <|> comment)

end Scanner
end Swapchain.Toml
