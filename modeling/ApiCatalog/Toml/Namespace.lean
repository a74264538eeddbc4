import ApiCatalog.Toml.Fault
import ApiCatalog.Value

/-!
# Tables under construction

A document fills one nested table. Besides the values, the reader keeps three
collections of keys: tables that a header has declared, values that are closed
for good (arrays and inline tables, with everything below them), and tables that
dotted keys have opened and that count as declared from the next header on.
-/

namespace ApiCatalog.Toml

/-- A table: its fields in the order they were added. -/
abbrev Table := List (String × Value)

/-- Why a key cannot be added to a table. -/
inductive Conflict where
  /-- A value that is no table stands in the way. -/
  | notTable
  /-- The name has a value already. -/
  | taken
deriving DecidableEq, Repr

/-- Puts a value at a name, in its old place or at the end. -/
def Table.put (name : String) (v : Value) : Table → Table
  | [] => [(name, v)]
  | (other, w) :: rest =>
      if other == name then (name, v) :: rest else (other, w) :: Table.put name v rest

/-- Changes the table behind a key and creates the missing ones on the way. Where
`intoArrays` holds, an array of tables stands for its last table. -/
def Table.alter (intoArrays : Bool) (change : Table → Except Conflict Table) :
    Key → Table → Except Conflict Table
  | [], table => change table
  | name :: rest, table =>
      match table.lookup name with
      | none => do
          let inner ← Table.alter intoArrays change rest []
          return Table.put name (.table inner) table
      | some (.table inner) => do
          let inner ← Table.alter intoArrays change rest inner
          return Table.put name (.table inner) table
      | some (.list items) =>
          match intoArrays, items.getLast? with
          | true, some (.table inner) => do
              let inner ← Table.alter intoArrays change rest inner
              return Table.put name (.list (items.dropLast ++ [.table inner])) table
          | _, _ => .error .notTable
      | some _ => .error .notTable

/-- Adds a value under a name that must be free. -/
def Table.add (name : String) (v : Value) (table : Table) :
    Except Conflict Table :=
  match table.lookup name with
  | some _ => .error .taken
  | none => .ok (table ++ [(name, v)])

/-- Appends an empty table to the array under a name. -/
def Table.extend (name : String) (table : Table) : Except Conflict Table :=
  match table.lookup name with
  | none => .ok (table ++ [(name, .list [.table []])])
  | some (.list items) =>
      .ok (Table.put name (.list (items ++ [.table []])) table)
  | some _ => .error .notTable

/-- A document as far as it was read. -/
structure Document where
  table : Table := []
  /-- The table that plain keys belong to. -/
  header : Key := []
  /-- Tables that may not be declared again. -/
  declared : List Key := []
  /-- Values that are closed, with everything below them. -/
  frozen : List Key := []
  /-- Tables that count as declared from the next header on. -/
  pending : List Key := []
deriving Repr

namespace Document

/-- Whether a key lies at or below a closed value. -/
def isFrozen (frozen : List Key) (key : Key) : Bool :=
  frozen.any fun closed => closed.isPrefixOf key

/-- Whether a table may not be declared again. -/
def isDeclared (doc : Document) (key : Key) : Bool :=
  doc.declared.contains key

/-- The pending tables become declared ones. -/
def settle (doc : Document) : Document :=
  { doc with declared := doc.declared ++ doc.pending, pending := [] }

/-- Declares a table and moves to it. -/
def openTable (doc : Document) (key : Key) : Except Cause Document :=
  if doc.isDeclared key || isFrozen doc.frozen key then
    .error (.declaredTwice key)
  else
    match Table.alter true .ok key doc.table with
    | .error _ => .error .overwritten
    | .ok table =>
        .ok { doc with
          table := table
          header := key
          declared := key :: doc.declared }

/-- Appends a table to an array of tables and moves to it. What was declared
below the key belonged to the table before. -/
def openArray (doc : Document) (key : Key) : Except Cause Document :=
  if isFrozen doc.frozen key then .error (.immutable key)
  else
    let outside := fun (keys : List Key) => keys.filter fun k => !key.isPrefixOf k
    match Table.alter true (Table.extend (key.getLastD "")) key.dropLast
        doc.table with
    | .error _ => .error .overwritten
    | .ok table =>
        .ok { doc with
          table := table
          header := key
          declared := key :: outside doc.declared
          frozen := outside doc.frozen }

/-- Whether a value is closed once it is written. -/
def isClosed : Value → Bool
  | .list _ => true
  | .table _ => true
  | _ => false

/-- The tables that a dotted key goes through, seen from the header. -/
def opened (header key : Key) : List Key :=
  (List.range (key.length - 1)).map fun n => header ++ key.take (n + 1)

/-- Adds the value of a key below the header. -/
def add (doc : Document) (key : Key) (v : Value) : Except Cause Document :=
  let inner := opened doc.header key
  match inner.find? doc.isDeclared with
  | some k => .error (.redefined k)
  | none =>
      let parent := doc.header ++ key.dropLast
      if isFrozen doc.frozen parent then .error (.immutable parent)
      else
        match Table.alter true (Table.add (key.getLastD "") v) parent
            doc.table with
        | .error _ => .error .overwritten
        | .ok table =>
            .ok { doc with
              table := table
              pending := doc.pending ++ inner
              frozen :=
                if isClosed v then (doc.header ++ key) :: doc.frozen
                else doc.frozen }

end Document

/-- An inline table as far as it was read. -/
structure Inline where
  table : Table := []
  frozen : List Key := []

/-- Adds the value of a key to an inline table. -/
def Inline.add (inline_ : Inline) (key : Key) (v : Value) : Except Cause Inline :=
  if Document.isFrozen inline_.frozen key then .error (.immutable key)
  else
    let name := key.getLastD ""
    match Table.alter false (Table.add name v) key.dropLast inline_.table with
    | .error .notTable => .error .overwritten
    | .error .taken => .error (.duplicateKey name)
    | .ok table =>
        .ok { table := table
              frozen :=
                if Document.isClosed v then key :: inline_.frozen
                else inline_.frozen }

end ApiCatalog.Toml
