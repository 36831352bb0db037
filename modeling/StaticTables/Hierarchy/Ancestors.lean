import StaticTables.Hierarchy.Basic

/-!
Chains of parents. The queries are also defined over tables of another kind than the one that was
checked, where parents may stand anywhere and chains may close a circle: a walk takes at most as
many steps as the table has rows, and one that has not ended by then is going round in a circle.
-/
namespace StaticTables.Hierarchy

variable {α : Type}

/-- The first steps of the chain of parents that starts with `current`, at most as many as the
limit. Each step is looked up in the table before it counts. -/
def climb (h : Hierarchy α) (table : Table α) : Nat → Option (Ref α) → Except Failure (List (Ref α))
  | 0, _ => .ok []
  | _ + 1, none => .ok []
  | limit + 1, some step => do
    let record ← table.resolve step
    return step :: (← climb h table limit (h.parentRef record))

/-- The first ancestors of a row, the nearest first, at most as many as the limit. -/
def ancestorsUpTo (h : Hierarchy α) (table : Table α) (limit : Nat) (row : Ref α) :
    Except Failure (List (Ref α)) := do
  let record ← table.resolve row
  h.climb table limit (h.parentRef record)

/-- The ancestors of a row, the nearest first. -/
def ancestors (h : Hierarchy α) (table : Table α) (row : Ref α) :
    Except Failure (List (Ref α)) :=
  h.ancestorsUpTo table table.size row

/-- The number of ancestors of a row. -/
def depth (h : Hierarchy α) (table : Table α) (row : Ref α) : Except Failure Nat :=
  List.length <$> h.ancestors table row

/-- Whether the chain of parents that starts with `current` meets the ancestor. It is followed only
as long as it has not passed the ancestor's place, since parents stand before their children. -/
def meets (h : Hierarchy α) (table : Table α) (ancestor : Ref α) :
    Nat → Option (Ref α) → Except Failure Bool
  | 0, _ => .ok false
  | _ + 1, none => .ok false
  | limit + 1, some step => do
    let record ← table.resolve step
    if step.row < ancestor.row then return false
    else if step = ancestor then return true
    else meets h table ancestor limit (h.parentRef record)

/-- Whether a row is the ancestor itself or lies below it. -/
def contains (h : Hierarchy α) (table : Table α) (ancestor row : Ref α) : Except Failure Bool :=
  if row = ancestor then .ok true
  else do
    let record ← table.resolve row
    h.meets table ancestor table.size (h.parentRef record)

end StaticTables.Hierarchy
