import Swapchain.Decimal.Shortest
import Swapchain.Text.Quoted
import Swapchain.Toml.Value

/-!
# Why settings cannot be read

* `SettingsError.message`: the wording of each cause that has one.
-/

namespace Swapchain

/-- Why a file could not be read. -/
inductive ReadFault where
  /-- The name holds the character that ends names. -/
  | nulInName
  | notFound
  | isDirectory
  | nameTooLong
  /-- The bytes are no text. -/
  | notText
  deriving DecidableEq, Inhabited, Repr

/-- The wording of a read fault. -/
def ReadFault.message : ReadFault → String
  | nulInName => "file name contained an unexpected NUL byte"
  | notFound => "No such file or directory (os error 2)"
  | isDirectory => "Is a directory (os error 21)"
  | nameTooLong => "File name too long (os error 36)"
  | notText => "stream did not contain valid UTF-8"

/-- What a value should have been. -/
inductive Expected where
  | count
  | settings
  deriving DecidableEq, Inhabited, Repr

/-- The name of what a value should have been. -/
def Expected.name : Expected → String
  | count => "usize"
  | settings => "struct SurfaceConfig"

/-- A value in the wrong place of a document. -/
inductive SchemaFault where
  /-- A key that settings do not have. -/
  | unknownKey (key : String)
  /-- A value of another kind than expected. -/
  | wrongKind (v : Toml.Value) (expected : Expected)
  /-- A negative number where buffers are counted. -/
  | negative (n : Int)
  deriving Inhabited

namespace SchemaFault

/-- A floating-point number as messages show it: always with a point. -/
def floatText (x : Binary64) : String :=
  let sign := if x.negative then "-" else ""
  if Binary64.infinityBits < x.steps then "NaN"
  else if x.steps = Binary64.infinityBits then sign ++ "inf"
  else
    let text := (Decimal.shortest x.steps).positional
    sign ++ text ++ if text.contains '.' then "" else ".0"

/-- A value as messages show it. Of arrays and tables only the kind is named. -/
def shown : Toml.Value → String
  | .string s => s!"string {Text.quoted s}"
  | .integer n => s!"integer `{n}`"
  | .float x => s!"floating point `{floatText x}`"
  | .boolean b => s!"boolean `{b}`"
  | .array _ => "sequence"
  | .datetime _ | .table _ => "map"

/-- The wording of a schema fault. -/
def message : SchemaFault → String
  | unknownKey k => s!"unknown field `{k}`, expected `target_buffer_count` or `extra_buffers`"
  | wrongKind v expected => s!"invalid type: {shown v}, expected {expected.name}"
  | negative n => s!"invalid value: integer `{n}`, expected usize"

end SchemaFault

/-- Why settings cannot be read. -/
inductive SettingsError where
  /-- The file could not be read. -/
  | unreadable (path : String) (fault : ReadFault)
  /-- The text is no document. -/
  | malformed
  /-- The document holds something else than settings. -/
  | schema (fault : SchemaFault)
  /-- No buffer is left to draw in. -/
  | noTarget
  deriving Inhabited

/-- The wording of a cause. A malformed text is told by its cause alone. -/
def SettingsError.message : SettingsError → String
  | unreadable path fault =>
    s!"Failed to read surface config {Text.quoted path}: {fault.message}"
  | malformed => "Failed to parse surface config"
  | schema fault => fault.message
  | noTarget =>
    "Invalid surface config value for `target_buffer_count`: " ++
    "at least one buffer is needed for rendering"

end Swapchain
