import Swapchain.Log
import Swapchain.Settings
import Swapchain.Text.Blank
import Swapchain.Text.Digits

/-!
# Settings from the environment

Two environment variables override the built-in settings, each its own field. A value is a
whole number: blank characters around it and one plus sign before it do not count. A value
that is no text is passed over in silence, any other bad one with a warning.

* `Settings.readCount`: the number of a value;
* `Settings.ofEnvironment`: the settings and what is reported on the way.
-/

namespace Swapchain

/-- The bytes of the two variables, where they are set. -/
structure Environment where
  target : Option ByteArray
  extra : Option ByteArray

namespace Settings

/-- The variable for the buffers to draw in. -/
def targetVariable : String := "NPTK_SURFACE_BUFFERS"

/-- The variable for the spare buffers. -/
def extraVariable : String := "NPTK_SURFACE_EXTRA_BUFFERS"

/-- The number that digits after at most one plus sign stand for, if a 64-bit word holds it. -/
def readDigits (cs : List Char) : Option UInt64 :=
  let digits := if cs.head? = some '+' then cs.tail else cs
  if !digits.isEmpty && digits.all Char.isDigit && Digits.value 10 digits < UInt64.size then
    some (UInt64.ofNat (Digits.value 10 digits))
  else none

/-- The number of a value, without the blank characters around it. -/
def readCount (value : String) : Option UInt64 := readDigits (Text.trim value.toList)

/-- The number of a variable: nothing if it is unset or no text, and nothing with a warning if
its text is no number. -/
def variableCount (name : String) (value : Option ByteArray) : Option UInt64 × List Log.Record :=
  match value.bind String.fromUTF8? with
  | none => (none, [])
  | some text =>
    match readCount text with
    | some n => (some n, [])
    | none =>
      (none, [⟨.warn, s!"Invalid {name}={text}: expected a non-negative integer, ignoring"⟩])

/-- The record of a number taken from a variable. -/
def detected (name : String) (n : UInt64) : Log.Record := ⟨.info, s!"{name}={n} detected"⟩

/-- The buffers to draw in: the number of the variable unless it is zero, which is refused. -/
def targetFrom (value : Option ByteArray) (given : UInt64) : UInt64 × List Log.Record :=
  match variableCount targetVariable value with
  | (none, records) => (given, records)
  | (some n, records) =>
    if n = 0 then
      (given, records ++
        [⟨.warn, s!"{targetVariable}=0 ignored; at least one buffer is needed"⟩])
    else (n, records ++ [detected targetVariable n])

/-- The spare buffers: the number of the variable. -/
def extraFrom (value : Option ByteArray) (given : UInt64) : UInt64 × List Log.Record :=
  match variableCount extraVariable value with
  | (none, records) => (given, records)
  | (some n, records) => (n, records ++ [detected extraVariable n])

/-- The built-in settings, each field overridden by its variable. -/
def ofEnvironment (e : Environment) : Settings × List Log.Record :=
  let (target, first) := targetFrom e.target builtin.target
  let (extra, second) := extraFrom e.extra builtin.extra
  (⟨target, extra⟩, first ++ second)

end Settings
end Swapchain
