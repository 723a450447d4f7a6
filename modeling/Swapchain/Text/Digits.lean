/-!
# Digits

* `Digits.value`: the number that digits of a base stand for, the first the most significant.
-/

namespace Swapchain.Digits

/-- The value of a digit or a letter after the digits, in either case. -/
def digit (c : Char) : Nat :=
  if c.isDigit then c.toNat - '0'.toNat else c.toLower.toNat - 'a'.toNat + 10

/-- The number of a row of digits. -/
def value (base : Nat) (cs : List Char) : Nat := cs.foldl (fun n c => base * n + digit c) 0

/-- Whether a character is a digit of base sixteen. -/
def isHex (c : Char) : Bool :=
  c.isDigit || ('a' ≤ c && c ≤ 'f') || ('A' ≤ c && c ≤ 'F')

end Swapchain.Digits
