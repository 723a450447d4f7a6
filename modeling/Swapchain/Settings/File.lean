import Swapchain.Log
import Swapchain.Settings.Document

/-!
# Settings in a file

A file is found by its path from a working directory that holds at most one entry.

* `Directory.read`: the bytes of a path, or why there are none;
* `Settings.load`: the settings of a file and what is reported on the way.
-/

namespace Swapchain

/-- What stands at a path. -/
inductive FileEntry where
  | file (bytes : ByteArray)
  | directory

/-- A directory with at most one entry, under its path. -/
structure Directory where
  entry : Option (String × FileEntry)

namespace Directory

/-- The most bytes one name of a path may have. -/
def nameLimit : Nat := 255

/-- The most bytes a path may have. -/
def pathLimit : Nat := 4095

/-- What is wrong with a path along which nothing stands but directories that every system
has: the first name that could stand for something else is not there. -/
def walk : List String → ReadFault
  | [] => .isDirectory
  | name :: rest =>
    if name = "" ∨ name = "." ∨ name = ".." then walk rest
    else if nameLimit < name.utf8ByteSize then .nameTooLong
    else .notFound

/-- The bytes at a path. -/
def read (d : Directory) (path : String) : Except ReadFault ByteArray :=
  if path.contains '\x00' then .error .nulInName
  else if path = "" then .error .notFound
  else if pathLimit < path.utf8ByteSize then .error .nameTooLong
  else
    match d.entry.filter fun e => e.1 = path with
    | some (_, .file bytes) => .ok bytes
    | some (_, .directory) => .error .isDirectory
    | none => .error (walk (path.splitOn "/"))

end Directory

namespace Settings

/-- The text at a path. -/
def readText (d : Directory) (path : String) : Except ReadFault String := do
  let bytes ← d.read path
  match String.fromUTF8? bytes with
  | some text => return text
  | none => throw .notText

/-- The settings of the file at a path. That it is read is reported once it has been. -/
def load (d : Directory) (path : String) : Except SettingsError Settings × List Log.Record :=
  match readText d path with
  | .error fault => (.error (.unreadable path fault), [])
  | .ok text =>
    (ofToml text, [⟨.debug, s!"Loading surface config from {Text.quoted path}"⟩])

end Settings
end Swapchain
