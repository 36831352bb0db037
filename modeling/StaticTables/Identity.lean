/-!
Identities of tables and rows. A table identity and a row identity are 32-bit numbers, a row
address pairs the two, and a reference is a row identity that remembers which kind of record it
points at. All of them are ordered by number, addresses by table first.
-/
namespace StaticTables

/-- Names a table. Nothing keeps two tables from carrying the same identity. -/
structure TableId where
  value : Nat
  value_lt : value < UInt32.size := by decide
deriving DecidableEq

/-- The position of a row within its table. -/
structure RowId where
  /-- The position, counted from zero. -/
  index : Nat
  index_lt : index < UInt32.size := by decide
deriving DecidableEq, Hashable

/-- A row together with the table that it belongs to. -/
structure RowAddr where
  table : TableId
  row : RowId
deriving DecidableEq

/-- A stored reference to a record of type `α`: the row it points at in the table of such records.
-/
structure Ref (α : Type) where
  row : RowId

namespace TableId

instance : Ord TableId := ⟨fun a b => compare a.value b.value⟩

instance : ToString TableId := ⟨fun t => s!"table#{t.value}"⟩

def inspect (t : TableId) : String := s!"TableId({t.value})"

/-- The table with this number, if it fits in 32 bits. -/
def ofNat? (n : Nat) : Option TableId :=
  if h : n < UInt32.size then some ⟨n, h⟩ else none

end TableId

namespace RowId

/-- The largest number of rows that a table may have. -/
def maxRows : Nat := UInt32.size - 1

/-- The first row, which is also the default one. -/
def first : RowId := { index := 0 }

/-- The last position that a row identity can express. -/
def last : RowId := { index := UInt32.size - 1 }

instance : Inhabited RowId := ⟨first⟩

instance : Ord RowId := ⟨fun a b => compare a.index b.index⟩

instance : LT RowId := ⟨fun a b => a.index < b.index⟩

instance : LE RowId := ⟨fun a b => a.index ≤ b.index⟩

instance (a b : RowId) : Decidable (a < b) := inferInstanceAs (Decidable (a.index < b.index))

instance (a b : RowId) : Decidable (a ≤ b) := inferInstanceAs (Decidable (a.index ≤ b.index))

instance : ToString RowId := ⟨fun r => s!"#{r.index}"⟩

def inspect (r : RowId) : String := s!"RowId({r.index})"

/-- The row at this position, if the position fits in 32 bits. -/
def ofIndex? (n : Nat) : Option RowId :=
  if h : n < UInt32.size then some ⟨n, h⟩ else none

theorem ext {a b : RowId} (h : a.index = b.index) : a = b := by
  cases a; cases b; cases h; rfl

@[simp] theorem ofIndex?_index (r : RowId) : ofIndex? r.index = some r :=
  dif_pos r.index_lt

theorem ofIndex?_eq_some_iff {n : Nat} {r : RowId} : ofIndex? n = some r ↔ r.index = n := by
  constructor
  · intro h
    unfold ofIndex? at h
    split at h
    next => cases h; rfl
    next => contradiction
  · intro h
    subst h
    exact ofIndex?_index r

end RowId

namespace RowAddr

instance : Ord RowAddr :=
  ⟨fun a b => (compare a.table b.table).then (compare a.row b.row)⟩

def inspect (a : RowAddr) : String := s!"RowAddr({toString a.table}, {toString a.row})"

end RowAddr

namespace Ref

variable {α : Type}

theorem ext {a b : Ref α} (h : a.row = b.row) : a = b := by
  cases a; cases b; cases h; rfl

instance : DecidableEq (Ref α) := fun a b =>
  if h : a.row = b.row then .isTrue (ext h) else .isFalse fun e => h (e ▸ rfl)

/-- The position that the reference points at. -/
def index (r : Ref α) : Nat := r.row.index

instance : Ord (Ref α) := ⟨fun a b => compare a.row b.row⟩

def inspect (r : Ref α) : String := s!"Ref({r.row.index})"

end Ref

end StaticTables
