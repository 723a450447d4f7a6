import Swapchain.Toml.Value

/-!
# Building tables

While a document is read its tables can still grow, but only in the way they were begun: a
table named in a header is closed to dotted keys, one begun by dotted keys to headers of its
own name, and values to both.

* `Table.assign`: a key, dotted or not, with its value;
* `Table.openTable`, `Table.openElement`: a header and the header of an array's next element;
* `Table.within`: a change of the table that a header has opened;
* `Node.toValue`, `Table.entries`: the finished values.
-/

namespace Swapchain.Toml

/-- How a table was begun. -/
inductive Origin where
  /-- By a header of its name. -/
  | header
  /-- As the parent of a table with a header. -/
  | parent
  /-- By a dotted key. -/
  | dotted
  deriving DecidableEq, Inhabited, Repr

/-- A part of a document that is being read. -/
inductive Node where
  | value (v : Value)
  | table (origin : Origin) (entries : List (String × Node))
  /-- An array of tables, each begun by a header. -/
  | tables (elements : List (List (String × Node)))

instance : Inhabited Node := ⟨.value default⟩

/-- A table that is being read, in the order of its keys. -/
abbrev Table := List (String × Node)

namespace Table

/-- The table with the node of a key replaced. -/
def put (key : String) (n : Node) (t : Table) : Table :=
  t.map fun e => if e.1 == key then (key, n) else e

/-- The table without a key. -/
def remove (key : String) (t : Table) : Table := t.filter fun e => e.1 != key

/-- The list with its last table changed. -/
def changeLast (f : Table → Option Table) : List Table → Option (List Table)
  | [] => none
  | [t] => (f t).map fun u => [u]
  | t :: ts => (changeLast f ts).map fun us => t :: us

/-- A value under a key below the tables of a path. The tables are begun here or by other
dotted keys; at least the last one has to be. -/
def assign (key : String) (v : Value) : List String → Table → Option Table
  | [], t => if (t.lookup key).isSome then none else some (t ++ [(key, .value v)])
  | name :: path, t =>
    match t.lookup name with
    | none => (assign key v path []).map fun u => t ++ [(name, .table .dotted u)]
    | some (.table .dotted u) =>
      (assign key v path u).map fun u => t.put name (.table .dotted u)
    | some (.table .parent u) =>
      if path.isEmpty then none
      else (assign key v path u).map fun u => t.put name (.table .parent u)
    | some (.tables us) =>
      if path.isEmpty then none
      else (changeLast (assign key v path) us).map fun us => t.put name (.tables us)
    | some (.table .header _) | some (.value _) => none

/-- A change of the table at a path. Tables on the way are begun where there are none, and
the last element stands for an array of tables. -/
def within (change : Table → Option Table) : List String → Table → Option Table
  | [], t => change t
  | name :: path, t =>
    match t.lookup name with
    | none => (within change path []).map fun u => t ++ [(name, .table .parent u)]
    | some (.table origin u) =>
      (within change path u).map fun u => t.put name (.table origin u)
    | some (.tables us) =>
      (changeLast (within change path) us).map fun us => t.put name (.tables us)
    | some (.value _) => none

/-- A header begins a table, or takes over one that so far was a parent only; it then stands
after its neighbours. -/
def openTable (key : String) (t : Table) : Option Table :=
  match t.lookup key with
  | none => some (t ++ [(key, .table .header [])])
  | some (.table .parent u) => some (t.remove key ++ [(key, .table .header u)])
  | some _ => none

/-- A header begins the next element of an array of tables. -/
def openElement (key : String) (t : Table) : Option Table :=
  match t.lookup key with
  | none => some (t ++ [(key, .tables [[]])])
  | some (.tables us) => some (t.put key (.tables (us ++ [[]])))
  | some _ => none

end Table

mutual

/-- The value of a finished node. -/
def Node.toValue : Node → Value
  | .value v => v
  | .table _ t => .table (Table.entries t)
  | .tables ts => .array (Table.values ts)

/-- The entries of a finished table. -/
def Table.entries : List (String × Node) → Entries
  | [] => []
  | (k, n) :: t => (k, n.toValue) :: Table.entries t

/-- The values of finished tables. -/
def Table.values : List (List (String × Node)) → List Value
  | [] => []
  | t :: ts => .table (Table.entries t) :: Table.values ts

end

end Swapchain.Toml
