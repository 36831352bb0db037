import StaticTables.Link.Relationship

/-!
Tables whose records name a parent in the same table. Construction checks that every parent stands
before its children, so a chain of parents always goes down in row number and ends.
-/
namespace StaticTables

/-- A checked parent column over a table. -/
structure Hierarchy (α : Type) where
  /-- The parent of each record. -/
  parent : Relationship α α

namespace Hierarchy

variable {α : Type}

/-! ### Construction -/

/-- Refuses the first row whose parent does not stand before it. -/
def check (parent : α → Option (Ref α)) (table : Table α) : Except Failure Unit :=
  table.records.forM fun r =>
    match parent r.value with
    | none => .ok ()
    | some up =>
      if r.row ≤ up.row then refuse (.hierarchyOrder table.name r.row up.row) else .ok ()

/-- Builds a hierarchy over the parent column of a table. -/
def build (settings : Settings) (name : String) (table : Table α)
    (parent : α → Option (Ref α)) : Build (Hierarchy α) := do
  let relationship ←
    Relationship.build settings { name, optionality := .optional } table table parent
  settings.validation.enforce .hierarchy
    (locate table.name name "hierarchy.build" (check parent table))
  Traced.emit (.hierarchyBuild table.name name table.size)
  return { parent := relationship }

/-- The hierarchy with another state of its parent relationship. -/
def withParent (_ : Hierarchy α) (r : Relationship α α) : Hierarchy α := { parent := r }

/-! ### Parents and children -/

/-- The reference of a record to its parent. -/
def parentRef (h : Hierarchy α) (record : Record α) : Option (Ref α) :=
  h.parent.reference record.value

/-- The parent of a record. -/
def parentOf (h : Hierarchy α) (table : Table α) (record : Record α) :
    Except Failure (Option (Record α)) :=
  h.parent.targetOf table record

/-- The rows whose parent is the given one, in table order. -/
def children (table : Table α) (row : Ref α) : Traced (Hierarchy α) (Rows α) :=
  Traced.within parent withParent (Relationship.referrers table row)

/-- The rows without a parent, in table order. -/
def roots (h : Hierarchy α) (table : Table α) : Rows α :=
  Rows.ofList table ((table.records.filter fun r => (h.parentRef r).isNone).map Record.row)

def inspect (h : Hierarchy α) : String :=
  Text.inspectFields "Hierarchy" [("parent", h.parent.inspect)]

end Hierarchy

end StaticTables
