import StaticTables.Hierarchy.Basic

/-!
Subtrees found by walking from parents to children. The rows come in the order in which they are
entered: each row, then everything below its first child, then everything below the next.
-/
namespace StaticTables.Hierarchy

variable {α : Type}

/-- The rows visited after those of `seen` when a row is entered: the row, and then each child in
turn with what lies below it. A row that was seen before is not entered again. The bound is on the
depth, and suffices when it exceeds the number of rows that are anyone's child. -/
def visit (children : RowId → List RowId) : Nat → List RowId → RowId → List RowId
  | 0, seen, _ => seen
  | bound + 1, seen, row =>
    if row ∈ seen then seen else (children row).foldl (visit children bound) (seen ++ [row])

/-- The roots and every row below them in the order of a walk that goes down before it goes on. -/
def subtreeByWalk (table : Table α) (roots : List (Ref α)) : Traced (Hierarchy α) (Rows α) := do
  if roots.isEmpty then return Rows.ofList table []
  let index ← Traced.within parent withParent (Relationship.index table)
  let visited := (roots.map Ref.row).foldl (visit index.rowsWith (index.size + 1)) []
  Traced.emitAll (visited.map fun row => .indexFind table.name (index.rowsWith row).length)
  return Rows.ofList table visited

end StaticTables.Hierarchy
