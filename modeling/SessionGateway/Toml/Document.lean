import SessionGateway.Config.Datum

/-!
# TOML tables

How key-value pairs and headers build up the tables of a document. A table is made once: by its
header, by a dotted key, or by the header of a table inside it. What made it decides what may
still be added.
-/

namespace SessionGateway.Toml

/-- What made a table. -/
inductive Origin where
  /-- Its own header, or the document itself. -/
  | header
  /-- The header of a table inside it; its own header may follow. -/
  | implied
  /-- A dotted key; further dotted keys may add to it. -/
  | dotted
  deriving DecidableEq, Repr

mutual

/-- What a key of a table stands for. -/
inductive Node where
  | leaf (d : Datum)
  | table (t : Table)
  /-- An array of tables, each with a header of its own. -/
  | series (tables : List Table)

/-- A table under construction; its entries are in the order in which they were made. -/
inductive Table where
  | mk (origin : Origin) (entries : List (String × Node))

end

namespace Table

def origin : Table → Origin
  | .mk origin _ => origin

def entries : Table → List (String × Node)
  | .mk _ entries => entries

def empty (origin : Origin) : Table :=
  .mk origin []

def get? (t : Table) (key : String) : Option Node :=
  t.entries.lookup key

def push (t : Table) (key : String) (node : Node) : Table :=
  .mk t.origin (t.entries ++ [(key, node)])

def replace (t : Table) (key : String) (node : Node) : Table :=
  .mk t.origin (t.entries.map fun (k, v) => if k = key then (k, node) else (k, v))

def erase (t : Table) (key : String) : Table :=
  .mk t.origin (t.entries.filter (·.1 ≠ key))

/-- Changes the table at the end of a path. Tables that are missing on the way are made: by a
dotted key if `dotted` is set, and by implication otherwise. A dotted key does not enter a table
that has a header of its own. Of an array of tables the last one is entered. -/
def descend (dotted : Bool) (change : Table → Option Table) : List String → Table → Option Table
  | [], t => change t
  | key :: path, t =>
    match t.get? key with
    | none => do
        let child ← descend dotted change path (empty (if dotted then .dotted else .implied))
        return t.push key (.table child)
    | some (.leaf _) => none
    | some (.table child) =>
      if dotted ∧ child.origin = .header then none
      else do
        let child ← descend dotted change path child
        return t.replace key (.table child)
    | some (.series tables) => do
        let last ← tables.getLast?
        let last ← descend dotted change path last
        return t.replace key (.series (tables.dropLast ++ [last]))

/-- Adds a key-value pair under a path and a last key. The table at the end of a path must be one
that dotted keys made, and the key must be new there. -/
def addPair (path : List String) (key : String) (d : Datum) (t : Table) : Option Table :=
  t.descend true (fun target =>
    if path ≠ [] ∧ target.origin ≠ .dotted then none
    else match target.get? key with
      | some _ => none
      | none => some (target.push key (.leaf d))) path

end Table

mutual

def Node.datum : Node → Datum
  | .leaf d => d
  | .table t => t.datum
  | .series tables => .list (tableData tables)

def Table.datum : Table → Datum
  | .mk _ entries => .table (entryData entries)

def tableData : List Table → List Datum
  | [] => []
  | t :: rest => t.datum :: tableData rest

def entryData : List (String × Node) → List (String × Datum)
  | [] => []
  | (key, node) :: rest => (key, node.datum) :: entryData rest

end

structure Pair where
  path : List String
  key : String
  value : Datum

def Table.addPairs (pairs : List Pair) (t : Table) : Option Table :=
  pairs.foldlM (fun t p => t.addPair p.path p.key p.value) t

structure Header where
  /-- Whether the section is one more element of an array of tables. -/
  isElement : Bool
  path : List String
  key : String

structure Section where
  header : Header
  pairs : List Pair

namespace Section

/-- Makes the table of a section inside its parent. A header may name a table only once, unless
the table was so far only implied; then the table moves behind the other entries. -/
def addTo (s : Section) (parent : Table) : Option Table :=
  let key := s.header.key
  if s.header.isElement then
    match parent.get? key with
    | none => do
        let element ← (Table.empty .header).addPairs s.pairs
        return parent.push key (.series [element])
    | some (.series tables) => do
        let element ← (Table.empty .header).addPairs s.pairs
        return parent.replace key (.series (tables ++ [element]))
    | some _ => none
  else
    match parent.get? key with
    | none => do
        let table ← (Table.empty .header).addPairs s.pairs
        return parent.push key (.table table)
    | some (.table (.mk .implied entries)) => do
        let table ← (Table.mk .header entries).addPairs s.pairs
        return (parent.erase key).push key (.table table)
    | some _ => none

def add (root : Table) (s : Section) : Option Table :=
  root.descend false s.addTo s.header.path

end Section

def assemble (pairs : List Pair) (sections : List Section) : Option Datum := do
  let root ← (Table.empty .header).addPairs pairs
  let root ← sections.foldlM Section.add root
  return root.datum

def inlineTable (pairs : List Pair) : Option Datum :=
  ((Table.empty .header).addPairs pairs).map Table.datum

end SessionGateway.Toml
