import Swapchain.Settings
import Swapchain.Settings.Error
import Swapchain.Toml.Document

/-!
# Settings in a document

The entry `surface` of a document holds the settings, as a table with a key for each field or
as an array with the fields by position; a field that is not given keeps its built-in value.

* `Settings.ofEntries`, `Settings.ofItems`: the two forms;
* `Settings.ofDocument`: the settings of a document, which count at least one buffer to draw in;
* `Settings.ofToml`: the settings of a text.
-/

namespace Swapchain.Settings

/-- The entry of a document that holds the settings. -/
def entryKey : String := "surface"

/-- The key of the buffers to draw in. -/
def targetKey : String := "target_buffer_count"

/-- The key of the spare buffers. -/
def extraKey : String := "extra_buffers"

/-- The number of a value that counts buffers. -/
def countOf : Toml.Value → Except SchemaFault UInt64
  | .integer n => if n < 0 then .error (.negative n) else .ok (UInt64.ofNat n.toNat)
  | v => .error (.wrongKind v .count)

/-- The settings with one entry of a table taken over. -/
def withEntry (s : Settings) (key : String) (v : Toml.Value) : Except SchemaFault Settings :=
  if key = targetKey then (countOf v).map fun n => { s with target := n }
  else if key = extraKey then (countOf v).map fun n => { s with extra := n }
  else .error (.unknownKey key)

/-- The settings of a table. -/
def ofEntries (entries : Toml.Entries) : Except SchemaFault Settings :=
  entries.foldlM (fun s (key, v) => s.withEntry key v) builtin

/-- The settings of an array, in which more items than there are fields do not count. -/
def ofItems : List Toml.Value → Except SchemaFault Settings
  | [] => .ok builtin
  | [target] => (countOf target).map fun n => { builtin with target := n }
  | target :: extra :: _ => do return ⟨← countOf target, ← countOf extra⟩

/-- The key under which a date stands when it is read as a table. -/
def dateKey : String := "$__toml_private_datetime"

/-- The settings of a value. -/
def ofValue : Toml.Value → Except SchemaFault Settings
  | .table entries => ofEntries entries
  | .array items => ofItems items
  | .datetime text => ofEntries [(dateKey, .string text)]
  | v => .error (.wrongKind v .settings)

/-- Settings that leave at least one buffer to draw in. -/
def checked (s : Settings) : Except SettingsError Settings :=
  if s.target = 0 then .error .noTarget else .ok s

/-- The settings of a document. Entries beside those of the settings do not count. -/
def ofDocument (document : Toml.Entries) : Except SettingsError Settings :=
  match document.lookup entryKey with
  | none => .ok builtin
  | some v =>
    match ofValue v with
    | .error fault => .error (.schema fault)
    | .ok s => s.checked

/-- The settings of a text. -/
def ofToml (text : String) : Except SettingsError Settings :=
  match Toml.Document.read? text with
  | none => .error .malformed
  | some document => ofDocument document

end Swapchain.Settings
