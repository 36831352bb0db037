import StaticTables.Table.Basic

/-!
Selected rows of a table, read from either end. The selection is a window on an array of rows: a
query that found a stretch of a sorted index shares the index's array, one that had to collect or
reorder its rows brings an array of its own. Only the rows inside the window matter. A record is
looked up when it is asked for, after the window has moved past it.
-/
namespace StaticTables

/-- Whose array selected rows are read from. -/
inductive Holding where
  /-- That of another object, such as a sorted index. -/
  | borrowed
  /-- One that was filled for these rows alone. -/
  | owned
deriving DecidableEq

/-- Selected rows of a table that have not been read yet. -/
structure Rows (α : Type) where
  /-- The table that the rows belong to. -/
  table : Table α
  /-- The array that the window lies on. -/
  store : Array RowId
  /-- Whose array this is. -/
  holding : Holding
  /-- The first place of the window. -/
  front : Nat
  /-- The place behind the window. -/
  back : Nat
  /-- The window does not end before it starts. -/
  front_le : front ≤ back
  /-- The window lies on the array. -/
  back_le : back ≤ store.size

namespace Rows

variable {α : Type}

/-- The rows between two places of a shared array. -/
def window (table : Table α) (store : Array RowId) (front back : Nat) (front_le : front ≤ back)
    (back_le : back ≤ store.size) : Rows α :=
  { table, store, holding := .borrowed, front, back, front_le, back_le }

/-- All rows of a shared array. -/
def ofArray (table : Table α) (store : Array RowId) : Rows α :=
  window table store 0 store.size (Nat.zero_le _) (Nat.le_refl _)

/-- The rows of a list, in an array of their own. -/
def ofList (table : Table α) (ids : List RowId) : Rows α :=
  { ofArray table ids.toArray with holding := .owned }

/-- No rows. -/
def empty (table : Table α) : Rows α := ofArray table #[]

/-- The rows not yet read, in order. -/
def ids (r : Rows α) : List RowId := (r.store.extract r.front r.back).toList

/-- The number of rows not yet read. -/
def size (r : Rows α) : Nat := r.back - r.front

/-- The lower and the upper bound that are known of the number of rows not yet read. -/
def sizeHint (r : Rows α) : Nat × Nat := (r.back - r.front, r.back - r.front)

/-- Whether every row has been read. -/
def isEmpty (r : Rows α) : Bool := r.front == r.back

/-- A second cursor at the same place. -/
def clone (r : Rows α) : Rows α :=
  { table := r.table, store := r.store, holding := r.holding, front := r.front, back := r.back,
    front_le := r.front_le, back_le := r.back_le }

/-- Reads the first row. -/
def next : Traced (Rows α) (Option (Record α)) := do
  let r ← Traced.get
  if h : r.front < r.back then
    have := r.back_le
    Traced.set { r with front := r.front + 1, front_le := h }
    some <$> Traced.ofExcept (r.table.row (r.store[r.front]))
  else return none

/-- Reads the last row. -/
def nextBack : Traced (Rows α) (Option (Record α)) := do
  let r ← Traced.get
  if h : r.front < r.back then
    have := r.back_le
    Traced.set { r with back := r.back - 1, front_le := by omega, back_le := by omega }
    some <$> Traced.ofExcept (r.table.row (r.store[r.back - 1]))
  else return none

/-- The records of the rows not yet read, from the front. -/
def rest (r : Rows α) : Except Failure (List (Record α)) := r.ids.mapM r.table.row

/-- The records of the rows not yet read, from the back. -/
def restBack (r : Rows α) : Except Failure (List (Record α)) := r.ids.reverse.mapM r.table.row

/-- The rows not yet read, taken out of the selection. Of a borrowed array the window is copied; an
owned one is cut off behind the window and then emptied before it. -/
def takeIds (r : Rows α) : List RowId :=
  match r.holding with
  | .borrowed => (r.store.extract r.front r.back).toList
  | .owned => ((r.store.take r.back).drop r.front).toList

/-- Each row not yet read with its record, from the front. -/
def withIds (r : Rows α) : Except Failure (List (RowId × Record α)) :=
  r.takeIds.mapM fun id => (id, ·) <$> r.table.row id

/-- Each row not yet read with its record, from the back. -/
def withIdsBack (r : Rows α) : Except Failure (List (RowId × Record α)) :=
  r.takeIds.reverse.mapM fun id => (id, ·) <$> r.table.row id

/-- The number of rows that would be read with their records. -/
def withIdsSize (r : Rows α) : Nat := r.takeIds.length

def inspect (r : Rows α) : String :=
  Text.inspectFields "Rows"
    [("table", Text.quote r.table.name), ("ids", Text.inspectList (r.ids.map RowId.inspect))]

theorem ids_window (table : Table α) (store : Array RowId) (front back : Nat)
    (front_le : front ≤ back) (back_le : back ≤ store.size) :
    (window table store front back front_le back_le).ids =
      (store.toList.drop front).take (back - front) := by
  simp [window, ids]

@[simp] theorem ids_ofArray (table : Table α) (store : Array RowId) :
    (ofArray table store).ids = store.toList := by
  simp [ofArray, window, ids]

@[simp] theorem ids_ofList (table : Table α) (l : List RowId) : (ofList table l).ids = l :=
  (ids_ofArray table l.toArray).trans List.toList_toArray

@[simp] theorem ids_empty (table : Table α) : (empty table).ids = [] := rfl

@[simp] theorem length_ids (r : Rows α) : r.ids.length = r.size := by
  have := r.back_le
  simp [ids, size]
  omega

/-- Either way what is left comes out. -/
@[simp] theorem takeIds_eq_ids (r : Rows α) : r.takeIds = r.ids := by
  have := r.back_le
  unfold takeIds ids
  cases r.holding with
  | borrowed => rfl
  | owned =>
    simp [Array.take, Array.drop]
    omega

end Rows

end StaticTables
