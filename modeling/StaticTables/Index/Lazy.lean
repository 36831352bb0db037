import StaticTables.Index.Basic

/-!
Indices built at their first use. A lazy index knows its column; the first query gives it the table
to build over, and from then on the index that was built answers, whatever table comes with it.
-/
namespace StaticTables

/-- An index over a column that is built when it is first asked for. -/
structure LazyIndex (α κ : Type) where
  /-- The key of a record, if it has one. -/
  column : α → Option κ
  /-- The index, once it is built. -/
  built : Option (Index κ) := none

namespace LazyIndex

variable {α κ : Type}

/-- A lazy index over a column in which every record has a key. -/
def ofTotal (column : α → κ) : LazyIndex α κ := { column := fun a => some (column a) }

/-- Whether the index is built. -/
def isBuilt (l : LazyIndex α κ) : Bool := l.built.isSome

/-- The structural text of a lazy index, which shows only whether it is built. -/
def inspect (l : LazyIndex α κ) : String :=
  Text.inspectSome "LazyIndex" [("built", toString l.isBuilt)]

variable [IndexKey κ]

/-- The index, built over this table if it is not built yet. -/
def get (table : Table α) : Traced (LazyIndex α κ) (Index κ) := do
  let l ← Traced.get
  match l.built with
  | some index => return index
  | none =>
    Traced.emit (.indexLazyBuild table.name)
    let index ← Traced.building (Index.build table l.column)
    Traced.set { l with built := some index }
    return index

/-- Builds the index over this table if it is not built yet. -/
def force (table : Table α) : Traced (LazyIndex α κ) Unit := do
  let _ ← get table
  return ()

theorem run_get_of_built {table : Table α} {l : LazyIndex α κ} {index : Index κ}
    (h : l.built = some index) :
    (get table).run l = { result := .ok index, state := l, log := [] } := by
  simp [get, Traced.run_bind, h]

theorem run_get_of_not_built {table : Table α} {l : LazyIndex α κ} (h : l.built = none) :
    (get table).run l =
      { result := .ok (Index.ofColumn table l.column)
        state := { l with built := some (Index.ofColumn table l.column) }
        log := [.indexLazyBuild table.name,
          .indexBuild table.name table.size (Index.ofColumn table l.column).rows.size] } := by
  simp [get, Traced.run_bind, h, Index.build, Traced.building, Traced.run_within, Except.map]

end LazyIndex

end StaticTables
