import StaticTables.Index.Lazy
import StaticTables.Link.Verdict

/-!
Reference columns between two tables, followed in both directions. Construction checks the column
against its target; afterwards a record's reference is followed by reading the stored field, and the
rows that point at a target are found in a sorted index of the column, built at construction or at
its first use. A query is asked with the tables, which have to carry the identities of those the
relationship was built over.
-/
namespace StaticTables

/-- A checked reference column of records `S` into a table of records `T`. -/
structure Relationship (S T : Type) where
  /-- What is declared about the column. -/
  declaration : Declaration
  /-- The identity of the table that holds the column. -/
  source : TableId
  /-- The identity of the table that the references point into. -/
  target : TableId
  /-- The reference that a record holds. -/
  reference : S → Option (Ref T)
  /-- The index of the column by the row pointed at, once it is built. -/
  built : Option (Index RowId) := none

namespace Relationship

variable {S T : Type}

/-! ### Checking a column -/

/-- The first violation in a list of records, given how often each target row is referenced by the
records before them. Absence is looked at first, then the range of the reference, then repetition.
-/
def checkFrom (declaration : Declaration) (target : Table T) (reference : S → Option (Ref T)) :
    Array Nat → List (Record S) → Except Failure Unit
  | _, [] => .ok ()
  | counts, r :: rest =>
    match reference r.value with
    | none =>
      if declaration.isOptional then checkFrom declaration target reference counts rest
      else refuse (.missingReference declaration.name r.row)
    | some link =>
      if target.size ≤ link.index then
        refuse (.danglingReference declaration.name r.row target.name link.index target.size)
      else
        match declaration.cardinality with
        | .manyToOne => checkFrom declaration target reference counts rest
        | .oneToOne =>
          let count := counts.getD link.index 0 + 1
          if 1 < count then refuse (.cardinalityViolation declaration.name link.row count)
          else checkFrom declaration target reference (counts.setIfInBounds link.index count) rest

/-- The first violation of the declaration in the column of a table. -/
def check (declaration : Declaration) (source : Table S) (target : Table T)
    (reference : S → Option (Ref T)) : Except Failure Unit :=
  checkFrom declaration target reference (Array.replicate target.size 0) source.records

/-! ### The reverse index -/

/-- The row that a record points at. -/
def targetRow (reference : S → Option (Ref T)) (value : S) : Option RowId :=
  (reference value).map Ref.row

/-- The reverse index as a lazy index. -/
def lazyIndex (r : Relationship S T) : LazyIndex S RowId :=
  { column := targetRow r.reference, built := r.built }

/-- The relationship with another state of its reverse index. -/
def withLazyIndex (r : Relationship S T) (l : LazyIndex S RowId) : Relationship S T :=
  { r with built := l.built }

/-! ### Construction -/

/-- Builds a relationship, checking the column against its target. -/
def build (settings : Settings) (declaration : Declaration) (source : Table S)
    (target : Table T) (reference : S → Option (Ref T)) : Build (Relationship S T) := do
  settings.validation.enforce .relationship
    (locate source.name declaration.name "relationship.build"
      (check declaration source target reference))
  let unbuilt : LazyIndex S RowId := { column := targetRow reference }
  let index ←
    if settings.eager then Traced.settle (LazyIndex.force source) unbuilt else pure unbuilt
  Traced.emit (.relationshipBuild declaration source.name target.name)
  return { declaration, source := source.id, target := target.id, reference, built := index.built }

/-- Builds a relationship over a column in which every record holds a reference. -/
def buildTotal (declaration : Declaration) (source : Table S) (target : Table T)
    (reference : S → Ref T) : Build (Relationship S T) :=
  build {} declaration source target fun s => some (reference s)

/-! ### Queries -/

/-- The name of the column. -/
def name (r : Relationship S T) : String := r.declaration.name

/-- The record that a source record points at. -/
def targetOf (r : Relationship S T) (target : Table T) (record : Record S) :
    Except Failure (Option (Record T)) := do
  target.demand (.target r.name) r.target
  target.resolve? (r.reference record.value)

/-- The record that a row of the source table points at. -/
def targetOfRow (r : Relationship S T) (source : Table S) (target : Table T) (row : RowId) :
    Except Failure (Option (Record T)) := do
  r.targetOf target (← source.row row)

/-- The index of the column by the row pointed at. -/
def index (source : Table S) : Traced (Relationship S T) (Index RowId) := do
  let r ← Traced.get
  source.demand (.source r.name) r.source
  Traced.within lazyIndex withLazyIndex (LazyIndex.get source)

/-- The rows that point at a row of the target table, in the order of the source table. -/
def referrers (source : Table S) (target : Ref T) : Traced (Relationship S T) (Rows S) := do
  let i ← index source
  Traced.building (i.find source target.row)

/-- The rows that point at a record. At a record whose row is not found in the target table, none
does. -/
def referrersOf (source : Table S) (target : Table T) (record : Record T) :
    Traced (Relationship S T) (Rows S) :=
  match target.refOf record with
  | some link => referrers source link
  | none => pure (Rows.empty source)

/-- The number of rows that point at a row of the target table. -/
def countReferrers (source : Table S) (target : Ref T) : Traced (Relationship S T) Nat := do
  let i ← index source
  return (i.rowsWith target.row).length

/-- The records of the target table that no row points at, in stored order. -/
def unreferenced (source : Table S) (target : Table T) :
    Traced (Relationship S T) (List (Record T)) := do
  let i ← index source
  return target.records.filter fun t => !i.contains t.row

def inspect (r : Relationship S T) : String :=
  Text.inspectSome "Relationship"
    [("schema", r.declaration.inspect), ("source", r.source.inspect), ("target", r.target.inspect),
      ("reverse", r.lazyIndex.inspect)]

end Relationship

end StaticTables
