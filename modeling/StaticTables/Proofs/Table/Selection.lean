import Mathlib
import StaticTables.Proofs.Table.Records

/-!
# Selected rows

Rows that list a part of a table: the records that pass a test, each once and in table order.
-/
namespace StaticTables

variable {α : Type}

/-- The rows are those of the table's records that pass the test, each once and in table order, and
reading them yields these records. -/
structure Table.Selected (table : Table α) (test : Record α → Bool) (rows : Rows α) : Prop where
  mem_iff : ∀ row, row ∈ rows.ids ↔ ∃ s ∈ table.records, s.row = row ∧ test s
  ascending : rows.ids.Pairwise (· < ·)
  ids_eq : rows.ids = (table.records.filter test).map Record.row
  rest_eq : rows.rest = .ok (table.records.filter test)

namespace Table

variable {table : Table α} {test : Record α → Bool} {rows : Rows α}

theorem Selected.of_ids_of_rest
    (hids : rows.ids = (table.records.filter test).map Record.row)
    (hrest : rows.rest = .ok (table.records.filter test)) : table.Selected test rows where
  mem_iff row := by
    rw [hids, List.mem_map]
    simp only [List.mem_filter]
    exact exists_congr fun s => ⟨fun h => ⟨h.1.1, h.2, h.1.2⟩, fun h => ⟨⟨h.1, h.2.2⟩, h.2.1⟩⟩
  ascending := by rw [hids]; exact List.pairwise_map.mpr (table.records_ascending.filter _)
  ids_eq := hids
  rest_eq := hrest

theorem Selected.of_ids (htable : rows.table = table)
    (hids : rows.ids = (table.records.filter test).map Record.row) :
    table.Selected test rows := by
  refine .of_ids_of_rest hids ?_
  rw [Rows.rest, hids, htable]
  exact mapM_row fun _ hs => (List.mem_filter.mp hs).1

theorem Selected.length_ids (h : table.Selected test rows) :
    rows.ids.length = (table.records.filter test).length := by
  rw [h.ids_eq, List.length_map]

theorem Selected.ids_eq_nil (h : table.Selected test rows)
    (hnone : ∀ s ∈ table.records, test s = false) : rows.ids = [] := by
  have hempty : table.records.filter test = [] := by
    rw [List.filter_eq_nil_iff]
    intro s hs
    simp [hnone s hs]
  rw [h.ids_eq, hempty, List.map_nil]

/-- Only one record stands at each row. -/
theorem eq_of_row_eq {s t : Record α} (hs : s ∈ table.records) (ht : t ∈ table.records)
    (h : s.row = t.row) : s = t := by
  have hrecord := mem_records_iff.mp hs
  rw [h, mem_records_iff.mp ht] at hrecord
  exact (Option.some.inj hrecord).symm

theorem nodup_records (table : Table α) : table.records.Nodup :=
  (RowId.nodup_of_ascending table.rowIds_ascending).of_map Record.row

/-- A reference into the table points at one of its records. -/
theorem exists_mem_of_lt {link : Ref α} (h : link.index < table.size) :
    ∃ t ∈ table.records, link = ⟨t.row⟩ := by
  obtain ⟨t, ht⟩ := table.exists_record h
  obtain hrow := row_eq_of_record? ht
  exact ⟨t, mem_records_iff.mpr (hrow.symm ▸ ht), Ref.ext hrow.symm⟩

/-- The references to all rows of the table, in stored order. -/
def refs (table : Table α) : List (Ref α) := table.records.map fun t => ⟨t.row⟩

theorem nodup_refs (table : Table α) : table.refs.Nodup := by
  refine List.Nodup.map_on ?_ table.nodup_records
  intro s hs t ht h
  exact eq_of_row_eq hs ht (congrArg Ref.row h)

theorem mem_refs_of_lt {link : Ref α} (h : link.index < table.size) : link ∈ table.refs := by
  obtain ⟨t, ht, rfl⟩ := exists_mem_of_lt h
  exact List.mem_map_of_mem ht

end Table

end StaticTables
