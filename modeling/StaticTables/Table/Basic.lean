import StaticTables.Text.Quoted
import StaticTables.Traced

/-!
Tables: fixed sequences of records with an identity and a name. A record read from a table keeps
where it was read, so that its position can be recovered; two tables that look alike are still
different places.
-/
namespace StaticTables

/-- A fixed sequence of records. -/
structure Table (α : Type) where
  /-- The identity under which columns refer to the table. -/
  id : TableId
  /-- The name used in messages. -/
  name : String
  /-- Tells this table from every other one, whatever its identity and contents. -/
  origin : Nat
  /-- The records in their stored order. -/
  rows : Array α
  /-- Whether a record takes up room. Records that take up none all lie at one place. -/
  sized : Bool := true
  /-- Every row has an identity. -/
  size_le : rows.size ≤ RowId.maxRows

/-- A record together with the place that it was read from. -/
structure Record (α : Type) where
  /-- The table, by its origin. -/
  origin : Nat
  /-- The row within the table. -/
  row : RowId
  /-- What is stored there. -/
  value : α

namespace Table

variable {α : Type}

/-- Makes a table, unless there are more rows than row identities. -/
def build (id : TableId) (name : String) (origin : Nat) (rows : Array α) (sized : Bool) :
    Build (Table α) :=
  if h : rows.size ≤ RowId.maxRows then do
    Traced.emit (.tableBuild name id rows.size)
    return { id, name, origin, rows, sized, size_le := h }
  else Traced.fail (.error { cause := .capacity name rows.size })

/-- The number of rows. -/
def size (t : Table α) : Nat := t.rows.size

/-- Whether there are no rows. -/
def isEmpty (t : Table α) : Bool := t.rows.isEmpty

theorem lt_of_lt_size (t : Table α) {i : Nat} (h : i < t.rows.size) : i < UInt32.size := by
  have := t.size_le
  simp only [RowId.maxRows] at this
  omega

/-- The record at a position of the table. -/
def recordAt (t : Table α) (i : Fin t.rows.size) : Record α where
  origin := t.origin
  row := ⟨i, t.lt_of_lt_size i.isLt⟩
  value := t.rows[i]

/-- The record of a row, if the row lies in the table. -/
def record? (t : Table α) (row : RowId) : Option (Record α) :=
  if h : row.index < t.rows.size then some (t.recordAt ⟨row.index, h⟩) else none

/-- All records in stored order. -/
def records (t : Table α) : List (Record α) := (List.finRange t.rows.size).map t.recordAt

/-- All rows in stored order. -/
def rowIds (t : Table α) : List RowId := t.records.map Record.row

/-- The record of a row. A row outside the table is a fault. -/
def row (t : Table α) (row : RowId) : Except Failure (Record α) :=
  match t.record? row with
  | some r => .ok r
  | none => .error (.fault (.outOfBounds t.size row.index))

/-- The record at a position. A position outside the table is an error. -/
def get (t : Table α) (position : Nat) : Except Failure (Record α) :=
  if h : position < t.rows.size then .ok (t.recordAt ⟨position, h⟩)
  else refuse (.outOfRange t.name position t.size)

/-- The record that a reference points at. -/
def resolve (t : Table α) (r : Ref α) : Except Failure (Record α) := t.row r.row

/-- The record that a reference points at, if there is a reference. -/
def resolve? (t : Table α) : Option (Ref α) → Except Failure (Option (Record α))
  | none => .ok none
  | some r => some <$> t.resolve r

/-- The reference to a position. A position outside the table is an error. -/
def reference (t : Table α) (position : Nat) : Except Failure (Ref α) :=
  if h : position < t.rows.size then .ok ⟨⟨position, t.lt_of_lt_size h⟩⟩
  else refuse (.outOfRange t.name position t.size)

/-- The address of a row. -/
def addr (t : Table α) (row : RowId) : RowAddr := { table := t.id, row }

/-- The row of a record, if it was read from this very table. It is told by the place where the
record lies, so it is not found for records that take up no room. -/
def rowOf (t : Table α) (r : Record α) : Option RowId :=
  if t.sized then
    if r.origin = t.origin ∧ r.row.index < t.size then some r.row else none
  else none

/-- The reference to a record, if its row is found. -/
def refOf (t : Table α) (r : Record α) : Option (Ref α) := (t.rowOf r).map Ref.mk

/-- Asserts that the table has the expected identity: with another one it is a fault. -/
def demand (t : Table α) (role : TableRole) (expected : TableId) : Except Failure Unit :=
  if expected = t.id then .ok () else .error (.fault (.wrongTable role expected t.id))

def inspect (t : Table α) : String :=
  Text.inspectFields "Table"
    [("id", t.id.inspect), ("name", Text.quote t.name), ("len", toString t.size)]

/-! ### Reading back what is stored -/

@[simp] theorem length_records (t : Table α) : t.records.length = t.size := by
  simp [records, size]

theorem record?_isSome_iff (t : Table α) (row : RowId) :
    (t.record? row).isSome ↔ row.index < t.size := by
  unfold record? size
  split <;> simp_all

theorem row_of_lt (t : Table α) {row : RowId} (h : row.index < t.size) :
    t.row row = .ok (t.recordAt ⟨row.index, h⟩) := by
  have h' : row.index < t.rows.size := h
  simp [Table.row, record?, h']

theorem row_of_le (t : Table α) {row : RowId} (h : t.size ≤ row.index) :
    t.row row = .error (.fault (.outOfBounds t.size row.index)) := by
  have h' : ¬ row.index < t.rows.size := by unfold size at h; omega
  simp [Table.row, record?, h']

end Table

end StaticTables
