import Swapchain.Text.Digits
import Swapchain.Toml.Scanner

/-!
# Strings

A string stands between double quotes, within which a backslash starts an escape, or between
single quotes, within which it does not. Three quotes on each side let it run over lines.

* `Scanner.basicString`, `Scanner.literalString`: on one line;
* `Scanner.basicLines`, `Scanner.literalLines`: over lines;
* `Scanner.string`: any of them.
-/

namespace Swapchain.Toml.Scanner

/-! ## Escapes -/

/-- The character of a number, unless it is no character. -/
def character (n : Nat) : Option Char :=
  if h : n.isValidChar then some (Char.ofNatAux n h) else none

/-- A character given by so many digits of base sixteen. -/
def numbered (digits : Nat) : Scanner Char := do
  let ds ← times Digits.isHex digits
  fun s => (character (Digits.value 16 ds)).map fun c => (c, s)

/-- What follows a backslash. -/
def escaped : Scanner Char := do
  match ← one fun _ => true with
  | 'b' => return '\x08'
  | 't' => return '\t'
  | 'n' => return '\n'
  | 'f' => return '\x0c'
  | 'r' => return '\r'
  | '"' => return '"'
  | '\\' => return '\\'
  | 'u' => numbered 4
  | 'U' => numbered 8
  | _ => fail

/-- An escape. -/
def escape : Scanner Char := do
  exactly ['\\']
  escaped

/-! ## On one line -/

/-- A character that stands for itself between double quotes. -/
def isBasic (c : Char) : Bool := isPlain c && c != '"' && c != '\\'

/-- A character that stands for itself between single quotes. -/
def isLiteral (c : Char) : Bool := isPlain c && c != '\''

/-- A string between double quotes. -/
def basicString : Scanner String := do
  exactly ['"']
  let parts ← many (span1 isBasic <|> (fun c => [c]) <$> escape)
  exactly ['"']
  return String.ofList parts.flatten

/-- A string between single quotes. -/
def literalString : Scanner String := do
  exactly ['\'']
  let cs ← span isLiteral
  exactly ['\'']
  return String.ofList cs

/-! ## Over lines -/

/-- One or two quotes among the characters of a string; three would end it. -/
def innerQuotes (q : Char) : Scanner (List Char) := fun s =>
  let quotes := s.takeWhile (· == q)
  if quotes.length = 1 ∨ quotes.length = 2 then some (quotes, s.drop quotes.length) else none

/-- The three quotes that end a string, after one or two that belong to it. -/
def closingQuotes (q : Char) : Scanner (List Char) := fun s =>
  let count := (s.takeWhile (· == q)).length
  let inner := min (count - 3) 2
  if count < 3 then none else some (List.replicate inner q, s.drop (inner + 3))

/-- The end of a line within a string, always a line feed. -/
def innerNewline : Scanner (List Char) := (fun _ => ['\n']) <$> newline

/-- A backslash at the end of a line, with all blanks and lines that follow. -/
def joinedLines : Scanner (List Char) := do
  exactly ['\\']
  let _ ← blanks
  newline
  let _ ← many ((fun _ => ()) <$> span1 isBlank <|> newline)
  return []

/-- A string over lines, from its parts; a line end right after the opening quotes does not
belong to it. -/
def lines (q : Char) (part : Scanner (List Char)) : Scanner String := do
  exactly [q, q, q]
  let _ ← optional newline
  let parts ← many (part <|> innerQuotes q)
  let last ← closingQuotes q
  return String.ofList (parts.flatten ++ last)

/-- A string between three double quotes. -/
def basicLines : Scanner String :=
  lines '"' (span1 isBasic <|> joinedLines <|> (fun c => [c]) <$> escape <|> innerNewline)

/-- A string between three single quotes. -/
def literalLines : Scanner String := lines '\'' (span1 isLiteral <|> innerNewline)

/-- A string in any form. -/
def string : Scanner String := basicLines <|> basicString <|> literalLines <|> literalString

end Swapchain.Toml.Scanner
