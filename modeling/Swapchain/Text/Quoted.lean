import Swapchain.Text.Printable

/-!
# Quoted text

A text between double quotes, in which every character can be told from its neighbours: the
quote and the backslash follow a backslash, four controls have letters, and what does not
show in a place of its own is given by its number in base sixteen.

* `Text.escape`: one character;
* `Text.quoted`: a text.
-/

namespace Swapchain.Text

/-- The letter that stands for a character after a backslash. -/
def escapeLetter : Char → Option Char
  | '\x00' => some '0'
  | '\t' => some 't'
  | '\r' => some 'r'
  | '\n' => some 'n'
  | '\\' => some '\\'
  | '"' => some '"'
  | _ => none

/-- A character by its number. -/
def numbered (c : Char) : List Char :=
  ['\\', 'u', '\x7b'] ++ Nat.toDigits 16 c.toNat ++ ['\x7d']

/-- A character within quotes. -/
def escape (c : Char) : List Char :=
  match escapeLetter c with
  | some letter => ['\\', letter]
  | none => if standsAlone c then [c] else numbered c

/-- A text between quotes. -/
def quoted (s : String) : String := String.ofList ('"' :: s.toList.flatMap escape ++ ['"'])

end Swapchain.Text
