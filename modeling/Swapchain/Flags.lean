/-!
# The text of a flag set

A flag set is a word whose known bits have names. Its text lists the names of the bits that
are set, in the order in which they are declared, then all unnamed bits as one hexadecimal
number; the empty set is `0x0`.

* `Flags.text`: the text of a word;
* `Flags.rest`: the bits that no name stands for.
-/

namespace Swapchain.Flags

/-- A named bit. -/
structure Flag where
  mask : Nat
  name : String

/-- A number in base sixteen after `0x`, in lower case and without leading zeros. -/
def hex (n : Nat) : String := "0x" ++ String.ofList (Nat.toDigits 16 n)

/-- The declared flags that a word contains, in their order. -/
def named (flags : List Flag) (bits : Nat) : List Flag :=
  flags.filter fun f => bits &&& f.mask == f.mask

/-- The bits that no flag names. -/
def rest (flags : List Flag) (bits : Nat) : Nat :=
  flags.foldl (fun left f => left - (left &&& f.mask)) bits

/-- The text of a flag set. -/
def text (flags : List Flag) (bits : Nat) : String :=
  if bits = 0 then "0x0"
  else
    let unnamed := rest flags bits
    let parts := (named flags bits).map Flag.name ++ if unnamed = 0 then [] else [hex unnamed]
    " | ".intercalate parts

end Swapchain.Flags
