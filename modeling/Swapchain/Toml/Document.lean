import Swapchain.Toml.Dates
import Swapchain.Toml.Numbers
import Swapchain.Toml.Strings
import Swapchain.Toml.Table

/-!
# Reading a document

A text is a row of statements, one to a line: a key with a value, or a header. The statements
build the tables one after another.

* `Scanner.value`: a value, in which arrays and tables nest to a limited depth;
* `Scanner.statements`: the statements of a text;
* `Builder.step`: what a statement adds to the tables so far;
* `Document.read?`: the entries of a document, if the text is one.
-/

namespace Swapchain.Toml

/-- A dotted key: the names of the tables on the way and the last name. -/
structure Key where
  path : List String
  name : String
  deriving DecidableEq, Inhabited, Repr

/-- All names of a key. -/
def Key.names (k : Key) : List String := k.path ++ [k.name]

/-- One statement of a document. -/
inductive Statement where
  | assign (key : Key) (v : Value)
  | openTable (key : Key)
  | openElement (key : Key)

namespace Scanner

/-- How many names a dotted key may have, and how deep arrays and tables may nest. -/
def depthLimit : Nat := 79

/-! ## Keys -/

/-- A character of a key without quotes. -/
def isBare (c : Char) : Bool := c.isAlphanum || c == '_' || c == '-'

/-- One name of a key, with the blanks around it. -/
def keyName : Scanner String := do
  let _ ← blanks
  let name ← basicString <|> literalString <|> String.ofList <$> span1 isBare
  let _ ← blanks
  return name

/-- A key, dotted or not. -/
def key : Scanner Key := do
  let names ← sepBy1 keyName (exactly ['.'])
  match names.getLast? with
  | some name => if names.length ≤ depthLimit then return ⟨names.dropLast, name⟩ else fail
  | none => fail

/-! ## Values -/

/-- A truth value. -/
def boolean : Scanner Bool :=
  (fun _ => true) <$> word "true" <|> (fun _ => false) <$> word "false"

/-- A value that holds no other. -/
def scalar : Scanner Value :=
  .string <$> string <|> .datetime <$> datetime <|> .float <$> float <|> .integer <$> integer <|>
  .boolean <$> boolean

/-- The items of an array, with a comma after the last one or not. -/
def array (item : Scanner Value) : Scanner Value := do
  exactly ['[']
  let items ← optional do
    let items ← sepBy1 (gap *> item <* gap) (exactly [','])
    let _ ← optional (exactly [','])
    return items
  gap
  exactly [']']
  return .array (items.getD [])

/-- A key and its value, as far as the end of the line is not concerned. -/
def pair (item : Scanner Value) : Scanner (Key × Value) := do
  let k ← key
  exactly ['=']
  let _ ← blanks
  let v ← item
  let _ ← blanks
  return (k, v)

/-- A table on one line. Its keys build it as they would build a table of the document. -/
def inlineTable (item : Scanner Value) : Scanner Value := do
  exactly ['\x7b']
  let pairs ← optional (sepBy1 (pair item) (exactly [',']))
  let _ ← blanks
  exactly ['\x7d']
  let built := (pairs.getD []).foldlM (fun t (k, v) => Table.assign k.name v k.path t) []
  match built with
  | some t => return .table (Table.entries t)
  | none => fail

/-- A value in which so many arrays and tables may nest. -/
def value : Nat → Scanner Value
  | 0 => scalar
  | depth + 1 => array (value depth) <|> inlineTable (value depth) <|> scalar

/-! ## Statements -/

/-- The header of an array's next element. -/
def elementHeader : Scanner Statement := do
  exactly ['[', '[']
  let k ← key
  exactly [']', ']']
  return .openElement k

/-- The header of a table. -/
def tableHeader : Scanner Statement := do
  exactly ['[']
  let k ← key
  exactly [']']
  return .openTable k

/-- A key and its value. -/
def assignment : Scanner Statement := do
  let (k, v) ← pair (value depthLimit)
  return .assign k v

/-- A line, with a statement or without. -/
def line : Scanner (Option Statement) := do
  let _ ← blanks
  let s ← optional (elementHeader <|> tableHeader <|> assignment)
  lineEnd
  return s

/-- The mark that may stand before a text to tell its encoding. -/
def byteOrderMark : Char := '\ufeff'

/-- The statements of a text. -/
def statements : Scanner (List Statement) := do
  let _ ← optional (exactly [byteOrderMark])
  let lines ← many line
  return lines.filterMap fun s => s

end Scanner

/-! ## Building -/

/-- A document of which some statements have been read. -/
structure Builder where
  tables : Table
  /-- The names of the last header. -/
  header : List String

namespace Builder

/-- What a statement adds; nothing if it goes against those before it. -/
def step (b : Builder) : Statement → Option Builder
  | .assign k v =>
    (b.tables.within (Table.assign k.name v k.path) b.header).map fun t => { b with tables := t }
  | .openTable k =>
    (b.tables.within (Table.openTable k.name) k.path).map fun t => ⟨t, k.names⟩
  | .openElement k =>
    (b.tables.within (Table.openElement k.name) k.path).map fun t => ⟨t, k.names⟩

end Builder

/-- The entries that statements build. -/
def Document.ofStatements? (ss : List Statement) : Option Entries :=
  (ss.foldlM Builder.step ⟨[], []⟩).map fun b => Table.entries b.tables

/-- The entries of a document, if the text is one. -/
def Document.read? (text : String) : Option Entries :=
  (Scanner.whole Scanner.statements text.toList).bind Document.ofStatements?

end Swapchain.Toml
