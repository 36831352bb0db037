import Mathlib
import StaticTables.Proofs.Index.Scan
import StaticTables.Proofs.Table.Reading

/-!
# Reading rows that an index names

An index names rows of the table that it was built over and no others, whatever the order of its
keys is worth. So each stretch of it can be read from that table to the end, from either side.
-/
namespace StaticTables

variable {α κ : Type}

theorem Table.exists_mapM_row_of_lt {table : Table α} {row : Option RowId}
    (h : ∀ id ∈ row, id.index < table.size) :
    ∃ o, row.mapM table.row = .ok o ∧ ∀ r ∈ o, r ∈ table.records := by
  cases row with
  | none => exact ⟨none, rfl, by simp⟩
  | some id =>
    obtain ⟨r, hrow, hr⟩ := Table.exists_row_of_lt (h id rfl)
    exact ⟨some r, by rw [Option.mapM_some, hrow]; rfl, by simpa using hr⟩

namespace Index

variable [IndexKey κ]

/-- Every query that hands out records hands out records of the table, without a fault. -/
structure FaultFree (i : Index κ) (table : Table α) : Prop where
  findFirst : ∀ value, ∃ o, i.findFirst table value = .ok o ∧ ∀ r ∈ o, r ∈ table.records
  least : ∃ o, i.least table = .ok o ∧ ∀ r ∈ o, r ∈ table.records
  greatest : ∃ o, i.greatest table = .ok o ∧ ∀ r ∈ o, r ∈ table.records
  find : ∀ value, ∃ rows, ((i.find table value).run ()).result = .ok rows ∧ rows.Readable table
  range : ∀ start stop,
    ∃ rows, ((i.range table start stop).run ()).result = .ok rows ∧ rows.Readable table
  rangeInKeyOrder : ∀ start stop,
    ∃ rows, ((i.rangeInKeyOrder table start stop).run ()).result = .ok rows ∧ rows.Readable table
  sortedRows : ∃ rows, i.sortedRows table = .ok rows ∧ rows.Readable table

variable {table : Table α} {column : α → Option κ}

omit [IndexKey κ] in
theorem lt_size_of_mem_entries {entry : κ × RowId} (h : entry ∈ entries table column) :
    entry.2.index < table.size := by
  obtain ⟨r, hr, hentry⟩ := List.mem_filterMap.mp h
  obtain ⟨key, -, rfl⟩ := Option.map_eq_some_iff.mp hentry
  exact Table.lt_size_of_record (Table.mem_records_iff.mp hr)

theorem lt_size_of_mem_rows {row : RowId} (h : row ∈ (ofColumn table column).rows) :
    row.index < table.size := by
  obtain ⟨entry, hentry, rfl⟩ := Array.mem_map.mp h
  have hmem := (sortEntries_perm _).mem_iff.mp (List.mem_toArray.mp hentry)
  exact lt_size_of_mem_entries hmem

theorem stretch_inside (table : Table α) (column : α → Option κ) (start stop : κ) :
    ((ofColumn table column).stretch table start stop).Inside table where
  table_eq := rfl
  lt_size _ h := lt_size_of_mem_rows (Rows.mem_store_of_mem_ids h)

/-- Every query that hands out rows hands out rows of the table. -/
structure RowsInside (i : Index κ) (table : Table α) : Prop where
  find : ∀ value, (i.find table value).GivesRowsOf () table
  range : ∀ start stop, (i.range table start stop).GivesRowsOf () table
  rangeInKeyOrder : ∀ start stop, (i.rangeInKeyOrder table start stop).GivesRowsOf () table
  sortedRows : ∃ rows, i.sortedRows table = .ok rows ∧ rows.Inside table ∧ rows.Readable table

theorem rowsInside_ofColumn (table : Table α) (column : α → Option κ) :
    (ofColumn table column).RowsInside table where
  find value :=
    (stretch_inside table column value value).given (result_find_ofColumn table column value)
  range start stop := by
    refine (Rows.inside_ofList fun row hrow => ?_).given
      (result_range_ofColumn table column start stop)
    exact (stretch_inside table column start stop).lt_size row (List.mem_mergeSort.mp hrow)
  rangeInKeyOrder start stop :=
    (stretch_inside table column start stop).given
      (result_rangeInKeyOrder_ofColumn table column start stop)
  sortedRows := by
    have hinside : (Rows.ofArray table (ofColumn table column).rows).Inside table :=
      ⟨rfl, fun row hrow => lt_size_of_mem_rows
        (Array.mem_toList_iff.mp (by rwa [Rows.ids_ofArray] at hrow))⟩
    exact ⟨_, sortedRows_ofColumn table column, hinside, hinside.readable⟩

/-- The index of a column serves the table that it was built over. -/
theorem faultFree_ofColumn (table : Table α) (column : α → Option κ) :
    (ofColumn table column).FaultFree table where
  findFirst value := by
    rw [findFirst, demand_ofColumn]
    refine Table.exists_mapM_row_of_lt fun row hrow => ?_
    exact (stretch_inside table column value value).lt_size row (List.mem_of_head? hrow)
  least := by
    rw [least, demand_ofColumn]
    refine Table.exists_mapM_row_of_lt fun row hrow => ?_
    exact lt_size_of_mem_rows (Array.mem_of_getElem? hrow)
  greatest := by
    rw [greatest, demand_ofColumn]
    refine Table.exists_mapM_row_of_lt fun row hrow => ?_
    exact lt_size_of_mem_rows (Array.mem_of_back? hrow)
  find value := by
    obtain ⟨rows, hrun, -, hrows⟩ := (rowsInside_ofColumn table column).find value
    exact ⟨rows, hrun, hrows⟩
  range start stop := by
    obtain ⟨rows, hrun, -, hrows⟩ := (rowsInside_ofColumn table column).range start stop
    exact ⟨rows, hrun, hrows⟩
  rangeInKeyOrder start stop := by
    obtain ⟨rows, hrun, -, hrows⟩ := (rowsInside_ofColumn table column).rangeInKeyOrder start stop
    exact ⟨rows, hrun, hrows⟩
  sortedRows := by
    obtain ⟨rows, hrun, -, hrows⟩ := (rowsInside_ofColumn table column).sortedRows
    exact ⟨rows, hrun, hrows⟩

end Index

end StaticTables
