import StaticTables.Link.Relationship

/-!
Many-to-many links, stored as rows of a junction table with a reference to each side. What is
related to a row is found by going from it back to the junction rows that reference it, and from
each of them on to the other side, in the order of the junction table.
-/
namespace StaticTables

/-- A many-to-many link between records `A` and `B`, stored in records `J`. -/
structure Junction (A B J : Type) where
  /-- The references of junction records to `A`. -/
  left : Relationship J A
  /-- The references of junction records to `B`. -/
  right : Relationship J B

namespace Junction

variable {A B J : Type}

/-- Chains two reference columns of the same junction table. -/
def build (left : Relationship J A) (right : Relationship J B) : Build (Junction A B J) := do
  if left.source ≠ right.source then
    Traced.fail (.error { cause := .internal (.junctionSides left.name right.name) })
  Traced.emit (.junctionBuild left.name right.name)
  return { left, right }

/-- The junction with another state of its left side. -/
def withLeft (x : Junction A B J) (r : Relationship J A) : Junction A B J := { x with left := r }

/-- The junction with another state of its right side. -/
def withRight (x : Junction A B J) (r : Relationship J B) : Junction A B J := { x with right := r }

/-- The junction rows that reference a row of `A`. -/
def links (junction : Table J) (a : Ref A) : Traced (Junction A B J) (Rows J) :=
  Traced.within left withLeft (Relationship.referrers junction a)

/-- The junction rows that reference a row of `B`. -/
def linksBack (junction : Table J) (b : Ref B) : Traced (Junction A B J) (Rows J) :=
  Traced.within right withRight (Relationship.referrers junction b)

/-- What a follower finds from each of the rows, one row after the other; rows from which it finds
nothing are passed over. -/
def follow {β : Type} (rows : Rows J) (next : Record J → Except Failure (Option β)) :
    Except Failure (List β) :=
  rows.ids.filterMapM fun id => do next (← rows.table.row id)

/-- The records of `B` related to a row of `A`. -/
def related (junction : Table J) (b : Table B) (a : Ref A) :
    Traced (Junction A B J) (List (Record B)) := do
  let rows ← links junction a
  let x ← Traced.get
  follow rows fun link => x.right.targetOf b link

/-- The records of `A` related to a row of `B`. -/
def relatedBack (junction : Table J) (a : Table A) (b : Ref B) :
    Traced (Junction A B J) (List (Record A)) := do
  let rows ← linksBack junction b
  let x ← Traced.get
  follow rows fun link => x.left.targetOf a link

/-- The references to `B` related to a row of `A`. -/
def relatedRefs (junction : Table J) (a : Ref A) : Traced (Junction A B J) (List (Ref B)) := do
  let rows ← links junction a
  let x ← Traced.get
  follow rows fun link => .ok (x.right.reference link.value)

/-- The references to `A` related to a row of `B`. -/
def relatedBackRefs (junction : Table J) (b : Ref B) : Traced (Junction A B J) (List (Ref A)) := do
  let rows ← linksBack junction b
  let x ← Traced.get
  follow rows fun link => .ok (x.left.reference link.value)

def inspect (x : Junction A B J) : String :=
  Text.inspectFields "Junction" [("left", x.left.inspect), ("right", x.right.inspect)]

end Junction

end StaticTables
