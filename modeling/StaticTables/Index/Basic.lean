import StaticTables.Index.Span
import StaticTables.Key.Order
import StaticTables.Table.Rows

/-!
Sorted indices. An index holds the rows of a table that have a key, sorted by key and, where keys
are the same, in table order. Queries find the stretch of keys they are after by binary search.
Those that hand out records are asked with a table, which has to carry the identity of the indexed
one.
-/
namespace StaticTables

/-- The rows of a table sorted by key. -/
structure Index (κ : Type) where
  table : TableId
  /-- The keys in ascending order. -/
  keys : Array κ
  /-- The row of each key. -/
  rows : Array RowId
  /-- Each key has its row. -/
  size_eq : keys.size = rows.size

namespace Index

variable {α κ : Type}

/-- The keys of a column with their rows, in table order. Rows without a key are left out. -/
def entries (table : Table α) (column : α → Option κ) : List (κ × RowId) :=
  table.records.filterMap fun r => (column r.value).map (·, r.row)

/-- The number of indexed rows. -/
def size (i : Index κ) : Nat := i.rows.size

/-- Whether no row is indexed. -/
def isEmpty (i : Index κ) : Bool := i.rows.isEmpty

def inspect (i : Index κ) : String :=
  Text.inspectFields "Index" [("table", i.table.inspect), ("len", toString i.size)]

/-- Faults unless the table carries the identity of the indexed one. -/
def demand (i : Index κ) (table : Table α) : Except Failure Unit :=
  table.demand (.indexed table.name) i.table

/-- All indexed rows, in key order and then in table order. -/
def sortedRows (i : Index κ) (table : Table α) : Except Failure (Rows α) := do
  i.demand table
  return Rows.ofArray table i.rows

/-- The record of the first row with the least key. -/
def least (i : Index κ) (table : Table α) : Except Failure (Option (Record α)) := do
  i.demand table
  i.rows[0]?.mapM table.row

/-- The record of the last row with the greatest key. -/
def greatest (i : Index κ) (table : Table α) : Except Failure (Option (Record α)) := do
  i.demand table
  i.rows.back?.mapM table.row

/-! ### Queries that compare keys -/

variable [IndexKey κ]

/-- The entries sorted by key; entries with the same key stay in table order. -/
def sortEntries (l : List (κ × RowId)) : List (κ × RowId) :=
  l.mergeSort fun a b => IndexKey.le a.1 b.1

/-- The index of a column. -/
def ofColumn (table : Table α) (column : α → Option κ) : Index κ :=
  let sorted := (sortEntries (entries table column)).toArray
  { table := table.id, keys := sorted.map Prod.fst, rows := sorted.map Prod.snd,
    size_eq := by simp }

/-- Builds the index of a column. -/
def build (table : Table α) (column : α → Option κ) : Build (Index κ) := do
  let index := ofColumn table column
  Traced.emit (.indexBuild table.name table.size index.rows.size)
  return index

/-- The places of the keys from `start` to `stop`. -/
def span (i : Index κ) (start stop : κ) : Nat × Nat :=
  StaticTables.span IndexKey.compare i.keys start stop

/-- The rows whose keys lie between the bounds, in key order. -/
def stretch (i : Index κ) (table : Table α) (start stop : κ) : Rows α :=
  Rows.window table i.rows (i.span start stop).1 (i.span start stop).2
    (span_ordered ..) (i.size_eq ▸ span_le_size ..)

/-- The rows whose key is the value, in table order. -/
def rowsWith (i : Index κ) (value : κ) : List RowId :=
  (i.rows.extract (i.span value value).1 (i.span value value).2).toList

/-- The rows whose key is the value, in table order, to be read from the table. -/
def find (i : Index κ) (table : Table α) (value : κ) : Build (Rows α) := do
  i.demand table
  let rows := i.stretch table value value
  Traced.emit (.indexFind table.name rows.size)
  return rows

/-- The record of the first row whose key is the value. -/
def findFirst (i : Index κ) (table : Table α) (value : κ) :
    Except Failure (Option (Record α)) := do
  i.demand table
  (i.rowsWith value).head?.mapM table.row

/-- Whether some row has the value as its key. -/
def contains (i : Index κ) (value : κ) : Bool := !(i.rowsWith value).isEmpty

/-- The rows whose keys lie between the bounds, in table order. -/
def range (i : Index κ) (table : Table α) (start stop : κ) : Build (Rows α) := do
  i.demand table
  let ids := (i.stretch table start stop).ids.mergeSort fun a b => a.index ≤ b.index
  Traced.emit (.indexRange table.name ids.length)
  return Rows.ofList table ids

/-- The rows whose keys lie between the bounds, in key order and then in table order. -/
def rangeInKeyOrder (i : Index κ) (table : Table α) (start stop : κ) : Build (Rows α) := do
  i.demand table
  let rows := i.stretch table start stop
  Traced.emit (.indexRangeByValue table.name rows.size)
  return rows

/-- The number of rows whose keys lie between the bounds. -/
def countRange (i : Index κ) (start stop : κ) : Nat :=
  (i.span start stop).2 - (i.span start stop).1

end Index

end StaticTables
