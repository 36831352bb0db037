import StaticTables.Table.Basic

/-!
Names for rows. An enumeration lists labels, each with the row that it names; a label map checks
once that no two labels name the same row, and that every label names a row of the table, and then
answers in both directions.
-/
namespace StaticTables

/-- A closed list of labels. Labels outside the list may exist, but are not part of it. -/
structure Enumeration (Λ : Type) where
  all : List Λ
  position : Λ → RowId
  describe : Λ → String

/-- A checked naming of the rows of a table. -/
structure LabelMap (Λ : Type) where
  table : TableId
  name : String
  labels : Enumeration Λ
  /-- The label of each row. -/
  byPosition : Array (Option Λ)

namespace LabelMap

variable {Λ α : Type}

/-- Puts the labels of a list on their rows, one after the other, unless a label names a row that is
outside the table or already taken. -/
def place (table : String) (labels : Enumeration Λ) :
    Array (Option Λ) → List Λ → Except Failure (Array (Option Λ))
  | slots, [] => .ok slots
  | slots, label :: rest =>
    let row := (labels.position label).index
    match slots[row]? with
    | none => refuse (.labelMismatch table (.outside (labels.describe label) row slots.size))
    | some (some previous) =>
      refuse (.labelMismatch table
        (.sharedRow (labels.describe previous) (labels.describe label) row))
    | some none => place table labels (slots.setIfInBounds row (some label)) rest

/-- Builds a map in which rows may go without a label. -/
def build (table : Table α) (labels : Enumeration Λ) : Build (LabelMap Λ) := do
  let byPosition ← place table.name labels (Array.replicate table.size none) labels.all
  Traced.emit (.labelBuild table.name labels.all.length table.size)
  return { table := table.id, name := table.name, labels, byPosition }

/-- Builds a map in which every row has a label. -/
def buildTotal (table : Table α) (labels : Enumeration Λ) : Build (LabelMap Λ) := do
  let map ← build table labels
  match map.byPosition.findIdx? Option.isNone with
  | some position => refuse (.labelMismatch table.name (.uncovered position))
  | none => return map

/-- The number of rows of the table. -/
def size (m : LabelMap Λ) : Nat := m.byPosition.size

/-- Whether the table has no rows. -/
def isEmpty (m : LabelMap Λ) : Bool := m.byPosition.isEmpty

/-- Whether every row has a label. -/
def isTotal (m : LabelMap Λ) : Bool := m.byPosition.all Option.isSome

/-- The label of the row at a position. -/
def labelAt (m : LabelMap Λ) (position : Nat) : Except Failure Λ :=
  match m.byPosition[position]? with
  | some (some label) => .ok label
  | some none => refuse (.unlabeled m.name position)
  | none => refuse (.outOfRange m.name position m.size)

/-- The row that a label names. -/
def rowOf (m : LabelMap Λ) (label : Λ) : RowId := m.labels.position label

/-- The record that a label names. -/
def recordOf (m : LabelMap Λ) (table : Table α) (label : Λ) : Except Failure (Record α) := do
  table.demand (.labeled m.name) m.table
  table.row (m.labels.position label)

/-- The label of a record, if its row is found in the table and has one. -/
def labelOf (m : LabelMap Λ) (table : Table α) (record : Record α) : Option Λ := do
  let row ← table.rowOf record
  (m.byPosition[row.index]?).join

def inspect (m : LabelMap Λ) : String :=
  Text.inspectFields "LabelMap"
    [("table", m.table.inspect), ("name", Text.quote m.name), ("rows", toString m.size)]

end LabelMap

end StaticTables
