import StaticTables.Hierarchy.Basic

/-!
Subtrees found by one pass over the table. Since parents stand before their children, a row belongs
to the subtree of some roots when it is one of them or when its parent, looked at before it,
belongs.
-/
namespace StaticTables.Hierarchy

variable {α : Type}

/-- What a pass over the table has found. -/
structure Membership where
  /-- Whether each row belongs. -/
  members : Array Bool
  /-- How many rows have joined because their parent belongs. -/
  added : Nat

namespace Membership

/-- Whether a row belongs. Rows outside the table do not. -/
def holds (m : Membership) (r : Ref α) : Bool := m.members.getD r.index false

/-- The rows that belong, in table order. -/
def rows (m : Membership) : List RowId :=
  m.members.toList.zipIdx.filterMap fun (member, i) => if member then RowId.ofIndex? i else none

end Membership

/-- The roots by themselves. -/
def ofRoots (table : Table α) (roots : List (Ref α)) : Membership where
  members :=
    roots.foldl (fun a r => a.setIfInBounds r.index true) (Array.replicate table.size false)
  added := 0

/-- The place of the first root that lies in the table, or the table's end if none does. -/
def firstRoot (table : Table α) (roots : List (Ref α)) : Nat :=
  roots.foldl (fun n r => if r.index < table.size then min n r.index else n) table.size

/-- Whether the parent of a record belongs. -/
def joins (h : Hierarchy α) (m : Membership) (record : Record α) : Bool :=
  match h.parentRef record with
  | some up => m.holds up
  | none => false

/-- The membership after a further record: it joins if its parent belongs. -/
def pass (h : Hierarchy α) (m : Membership) (record : Record α) : Membership :=
  if h.joins m record then
    { members := m.members.setIfInBounds record.row.index true, added := m.added + 1 }
  else m

/-- The membership after one pass over the table, from the first root on. -/
def spread (h : Hierarchy α) (table : Table α) (roots : List (Ref α)) : Membership :=
  (table.records.drop (firstRoot table roots)).foldl h.pass (ofRoots table roots)

/-- Carries membership down from the roots, and logs how far it got. -/
def propagate (table : Table α) (roots : List (Ref α)) : Traced (Hierarchy α) Membership := do
  let h ← Traced.get
  let m := h.spread table roots
  Traced.emit (.hierarchyPropagate table.name (firstRoot table roots) m.added)
  return m

/-- The roots and every row below them, in table order. -/
def subtree (table : Table α) (roots : List (Ref α)) : Traced (Hierarchy α) (Rows α) := do
  let m ← propagate table roots
  return Rows.ofList table m.rows

/-- Every row below the roots, in table order. A root is among them only if it lies below another.
-/
def descendants (table : Table α) (roots : List (Ref α)) : Traced (Hierarchy α) (Rows α) := do
  let m ← propagate table roots
  let h ← Traced.get
  return Rows.ofList table ((table.records.filter (h.joins m)).map Record.row)

end StaticTables.Hierarchy
