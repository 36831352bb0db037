import Mathlib
import StaticTables.Proofs.Query.Interface
import StaticTables.Proofs.Table.Records

/-!
# Reading rows

Rows are read one by one, each time from either end, or from one end to the other at once. While the
rows that are left lie in the table, each of them can be read, and those that are left afterwards
lie in the table as well.
-/
namespace StaticTables

namespace Rows

variable {α : Type}

/-- An end that rows are read from. -/
inductive End where
  | front
  | back
deriving DecidableEq

/-- Reading rows one by one. -/
abbrev reading : Interface (Rows α) where
  Query := End
  Answer _ := Option (Record α)
  ask
    | .front => next
    | .back => nextBack

/-- The rows not yet read are rows of the table. -/
structure Inside (rows : Rows α) (table : Table α) : Prop where
  table_eq : rows.table = table
  lt_size : ∀ id ∈ rows.ids, id.index < table.size

/-! ## The ends of a list -/

namespace End

variable {β : Type}

/-- What stands at this end of a list. -/
def peek : End → List β → Option β
  | front => List.head?
  | back => List.getLast?

/-- The list without what stands at this end. -/
def drop : End → List β → List β
  | front => List.tail
  | back => List.dropLast

theorem mem_of_peek {e : End} {l : List β} {b : β} (h : e.peek l = some b) : b ∈ l := by
  cases e with
  | front => exact List.mem_of_mem_head? h
  | back => exact List.mem_of_getLast? h

theorem mem_of_mem_drop {e : End} {l : List β} {b : β} (h : b ∈ e.drop l) : b ∈ l := by
  cases e with
  | front => exact List.mem_of_mem_tail h
  | back => exact List.mem_of_mem_dropLast h

end End

variable {rows : Rows α} {table : Table α}

/-! ## The window -/

/-- Only rows of the array below can be left to be read. -/
theorem mem_store_of_mem_ids {id : RowId} (h : id ∈ rows.ids) : id ∈ rows.store := by
  rw [ids, Array.mem_toList_iff] at h
  obtain ⟨i, hi, rfl⟩ := Array.mem_extract_iff_getElem.mp h
  exact Array.getElem_mem _

/-- The rows in a part of the window. -/
def narrow (rows : Rows α) (front back : Nat) (front_le : front ≤ back) (hback : back ≤ rows.back) :
    Rows α :=
  { rows with front, back, front_le, back_le := hback.trans rows.back_le }

theorem ids_eq_nil_iff : rows.ids = [] ↔ ¬ rows.front < rows.back := by
  rw [← List.length_eq_zero_iff, length_ids, size]
  omega

theorem ids_eq_cons (h : rows.front < rows.back) (hsize : rows.front < rows.store.size) :
    rows.ids =
      rows.store[rows.front] :: (rows.narrow (rows.front + 1) rows.back h (Nat.le_refl _)).ids := by
  have hcount : rows.back - rows.front = rows.back - (rows.front + 1) + 1 := by omega
  simp only [ids, narrow, Array.toList_extract, List.extract_eq_take_drop]
  rw [List.drop_eq_getElem_cons (by simpa using hsize), hcount, List.take_succ_cons]
  simp

theorem ids_eq_concat (h : rows.front < rows.back) (hsize : rows.back - 1 < rows.store.size) :
    rows.ids =
      (rows.narrow rows.front (rows.back - 1) (Nat.le_sub_one_of_lt h) (Nat.sub_le _ _)).ids ++
        [rows.store[rows.back - 1]] := by
  have hback : rows.back = rows.back - 1 + 1 := by omega
  have hextract := Array.extract_succ_right (by omega : rows.front < rows.back - 1 + 1) hsize
  rw [← hback] at hextract
  rw [ids, hextract, Array.toList_push]
  rfl

/-- A row that is left to be read has its record in the table. -/
theorem Inside.exists_row (h : rows.Inside table) {id : RowId} (hid : id ∈ rows.ids) :
    ∃ r, rows.table.row id = .ok r ∧ r ∈ table.records := by
  rw [h.table_eq]
  exact Table.exists_row_of_lt (h.lt_size id hid)

/-! ## One read -/

theorem run_next_of_lt (h : rows.front < rows.back) (hsize : rows.front < rows.store.size) :
    next.run rows =
      { result := some <$> rows.table.row rows.store[rows.front]
        state := rows.narrow (rows.front + 1) rows.back h (Nat.le_refl _)
        log := [] } := by
  simp [next, Traced.run_bind, h]
  exact ⟨rfl, rfl⟩

theorem run_nextBack_of_lt (h : rows.front < rows.back)
    (hsize : rows.back - 1 < rows.store.size) :
    nextBack.run rows =
      { result := some <$> rows.table.row rows.store[rows.back - 1]
        state := rows.narrow rows.front (rows.back - 1) (Nat.le_sub_one_of_lt h) (Nat.sub_le _ _)
        log := [] } := by
  simp [nextBack, Traced.run_bind, h]
  exact ⟨rfl, rfl⟩

/-- When nothing is left, a read finds nothing and changes nothing. -/
theorem run_read_of_nil (h : rows.ids = []) (e : End) :
    (reading.ask e).run rows = { result := .ok none, state := rows, log := [] } := by
  have hend := ids_eq_nil_iff.mp h
  cases e with
  | front => simp [next, Traced.run_bind, hend]
  | back => simp [nextBack, Traced.run_bind, hend]

/-- A read takes the row at an end off the rows that are left and looks its record up. -/
theorem run_read (rows : Rows α) (e : End) :
    ∃ left : Rows α, (reading.ask e).run rows =
        { result := (e.peek rows.ids).mapM rows.table.row, state := left, log := [] } ∧
      left.table = rows.table ∧ left.ids = e.drop rows.ids := by
  by_cases h : rows.front < rows.back
  · cases e with
    | front =>
      have hsize : rows.front < rows.store.size := h.trans_le rows.back_le
      show ∃ left, next.run rows = _ ∧ _
      rw [run_next_of_lt h hsize, ids_eq_cons h hsize]
      exact ⟨_, rfl, rfl, rfl⟩
    | back =>
      have hsize : rows.back - 1 < rows.store.size := (Nat.sub_one_lt_of_lt h).trans_le rows.back_le
      show ∃ left, nextBack.run rows = _ ∧ _
      rw [run_nextBack_of_lt h hsize, ids_eq_concat h hsize, End.peek, End.drop,
        List.getLast?_concat, List.dropLast_concat]
      exact ⟨_, rfl, rfl, rfl⟩
  · have hnil := ids_eq_nil_iff.mpr h
    rw [run_read_of_nil hnil, hnil]
    cases e <;> exact ⟨rows, rfl, rfl, hnil⟩

theorem Inside.read (h : rows.Inside table) (e : End) :
    (∃ o, ((reading.ask e).run rows).result = .ok o ∧ ∀ r ∈ o, r ∈ table.records) ∧
      ((reading.ask e).run rows).state.Inside table := by
  obtain ⟨left, hrun, htable, hids⟩ := run_read rows e
  rw [hrun]
  constructor
  · cases hpeek : e.peek rows.ids with
    | none => exact ⟨none, rfl, by simp⟩
    | some id =>
      obtain ⟨r, hrow, hr⟩ := h.exists_row (End.mem_of_peek hpeek)
      refine ⟨some r, ?_, by simpa using hr⟩
      show some <$> rows.table.row id = .ok (some r)
      rw [hrow]
      rfl
  · constructor
    · exact htable.trans h.table_eq
    · intro id hid
      rw [hids] at hid
      exact h.lt_size id (End.mem_of_mem_drop hid)

/-! ## Any number of reads -/

/-- Reading meets no fault and finds records of the table, one by one from either end as often as
one likes, or to the end at once. -/
structure Readable (rows : Rows α) (table : Table α) : Prop where
  reads : ∀ ends : List End, ∀ a ∈ reading.answers rows ends,
    ∃ o, a.2 = .ok o ∧ ∀ r ∈ o, r ∈ table.records
  rest : ∃ l, rows.rest = .ok l ∧ ∀ r ∈ l, r ∈ table.records
  restBack : ∃ l, rows.restBack = .ok l ∧ ∀ r ∈ l, r ∈ table.records

theorem Inside.reads (h : rows.Inside table) (ends : List End) :
    ∀ a ∈ reading.answers rows ends, ∃ o, a.2 = .ok o ∧ ∀ r ∈ o, r ∈ table.records := by
  induction ends generalizing rows with
  | nil => simp [Interface.answers]
  | cons e ends ih =>
    obtain ⟨hread, hleft⟩ := h.read e
    rw [Interface.answers, List.forall_mem_cons]
    exact ⟨hread, ih hleft⟩

theorem Inside.readable (h : rows.Inside table) : rows.Readable table where
  reads := h.reads
  rest := exists_mapM_eq_ok fun _ hid => h.exists_row hid
  restBack := exists_mapM_eq_ok fun _ hid => h.exists_row (List.mem_reverse.mp hid)

/-- Rows are read to the end exactly if they lie in the table that they are read from. -/
theorem exists_rest_iff : (∃ l, rows.rest = .ok l) ↔ ∀ id ∈ rows.ids, id.index < rows.table.size := by
  constructor
  · intro hrest id hid
    obtain ⟨l, hl⟩ := hrest
    obtain ⟨r, hrow⟩ := exists_eq_ok_of_mapM hl id hid
    refine Nat.lt_of_not_le fun hle => ?_
    rw [Table.row_of_le _ hle] at hrow
    contradiction
  · intro hinside
    have hread : rows.Inside rows.table := ⟨rfl, hinside⟩
    obtain ⟨l, hl, -⟩ := hread.readable.rest
    exact ⟨l, hl⟩

/-! ## Rows that are handed out -/

theorem inside_ofList {ids : List RowId} (h : ∀ id ∈ ids, id.index < table.size) :
    (ofList table ids).Inside table where
  table_eq := rfl
  lt_size id hid := h id (by rwa [ids_ofList] at hid)

theorem inside_empty (table : Table α) : (empty table).Inside table where
  table_eq := rfl
  lt_size id hid := by simp at hid

/-- The rows of records of the table. -/
theorem inside_map_row {l : List (Record α)} (h : ∀ r ∈ l, r ∈ table.records) :
    (ofList table (l.map Record.row)).Inside table := by
  refine inside_ofList fun id hid => ?_
  obtain ⟨r, hr, rfl⟩ := List.mem_map.mp hid
  exact Table.lt_size_of_record (Table.mem_records_iff.mp (h r hr))

end Rows

/-- Asked of an object, the query gives rows of the table, which can all be read from it. -/
def Traced.GivesRowsOf {σ α : Type} (m : Traced σ (Rows α)) (s : σ) (table : Table α) : Prop :=
  ∃ rows, (m.run s).result = .ok rows ∧ rows.Inside table ∧ rows.Readable table

theorem Rows.Inside.given {σ α : Type} {m : Traced σ (Rows α)} {s : σ} {table : Table α}
    {rows : Rows α} (h : rows.Inside table) (hrun : (m.run s).result = .ok rows) :
    m.GivesRowsOf s table :=
  ⟨rows, hrun, h, h.readable⟩

end StaticTables
