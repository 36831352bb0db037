import Mathlib
import StaticTables.Table.Rows

/-!
# Records of a table

The stored records in order, each under its own row: reading a row gives back the record that stands
there, and reading a list of rows of the table never fails.
-/
namespace StaticTables

variable {α : Type}

/-- A list is read to its end if each element can be read, and what holds of all that is read one by
one holds of all that is read. -/
theorem exists_mapM_eq_ok {β γ : Type} {read : β → Except Failure γ} {P : γ → Prop} {l : List β}
    (h : ∀ b ∈ l, ∃ c, read b = .ok c ∧ P c) : ∃ cs, l.mapM read = .ok cs ∧ ∀ c ∈ cs, P c := by
  induction l with
  | nil => exact ⟨[], rfl, by simp⟩
  | cons b l ih =>
    obtain ⟨hb, hl⟩ := List.forall_mem_cons.mp h
    obtain ⟨c, hc, hPc⟩ := hb
    obtain ⟨cs, hcs, hPcs⟩ := ih hl
    exact ⟨c :: cs, by rw [List.mapM_cons, hc, hcs]; rfl, List.forall_mem_cons.mpr ⟨hPc, hPcs⟩⟩

/-- What is read to its end has been read element by element. -/
theorem exists_eq_ok_of_mapM {β γ : Type} {read : β → Except Failure γ} {l : List β} {cs : List γ}
    (h : l.mapM read = .ok cs) : ∀ b ∈ l, ∃ c, read b = .ok c := by
  induction l generalizing cs with
  | nil => simp
  | cons b l ih =>
    rw [List.mapM_cons] at h
    cases hb : read b with
    | error failure => rw [hb] at h; contradiction
    | ok c =>
      cases hl : l.mapM read with
      | error failure => rw [hb, hl] at h; contradiction
      | ok cs' => exact List.forall_mem_cons.mpr ⟨⟨c, hb⟩, ih hl⟩

/-! ## Ascending rows -/

namespace RowId

theorem nodup_of_ascending {l : List RowId} (h : l.Pairwise (· < ·)) : l.Nodup := by
  refine h.imp fun {a b} hlt => ?_
  rintro rfl
  exact Nat.lt_irrefl a.index hlt

/-- Ascending rows are determined by which rows they are. -/
theorem eq_of_ascending {l l' : List RowId} (h : l.Pairwise (· < ·)) (h' : l'.Pairwise (· < ·))
    (hmem : ∀ row, row ∈ l ↔ row ∈ l') : l = l' := by
  have hperm : l.Perm l' :=
    (List.perm_ext_iff_of_nodup (nodup_of_ascending h) (nodup_of_ascending h')).mpr hmem
  exact hperm.eq_of_pairwise (fun a b _ _ hab hba => (Nat.lt_asymm hab hba).elim) h h'

end RowId

/-! ## Records by row -/

namespace Table

theorem mem_records_iff {t : Table α} {r : Record α} :
    r ∈ t.records ↔ t.record? r.row = some r := by
  constructor
  · intro h
    obtain ⟨i, -, rfl⟩ := List.mem_map.mp h
    exact dif_pos i.isLt
  · intro h
    unfold record? at h
    split at h
    next hlt => exact List.mem_map.mpr ⟨⟨r.row.index, hlt⟩, List.mem_finRange _, Option.some.inj h⟩
    next => contradiction

/-- A record found under a row carries that row. -/
theorem row_eq_of_record? {t : Table α} {row : RowId} {r : Record α}
    (h : t.record? row = some r) : r.row = row := by
  unfold record? at h
  split at h
  next => cases h; rfl
  next => contradiction

theorem exists_record (t : Table α) {row : RowId} (h : row.index < t.size) :
    ∃ r, t.record? row = some r :=
  Option.isSome_iff_exists.mp ((t.record?_isSome_iff row).mpr h)

theorem lt_size_of_record {t : Table α} {row : RowId} {r : Record α}
    (h : t.record? row = some r) : row.index < t.size := by
  rw [← t.record?_isSome_iff, h]
  rfl

theorem resolve_of_record {t : Table α} {link : Ref α} {r : Record α}
    (h : t.record? link.row = some r) : t.resolve link = .ok r := by
  rw [resolve, Table.row, h]

theorem row_of_mem {t : Table α} {r : Record α} (h : r ∈ t.records) : t.row r.row = .ok r := by
  rw [Table.row, mem_records_iff.mp h]

/-- A row that lies in the table is read, and what is read is a record of the table. -/
theorem exists_row_of_lt {t : Table α} {row : RowId} (h : row.index < t.size) :
    ∃ r, t.row row = .ok r ∧ r ∈ t.records :=
  ⟨_, t.row_of_lt h, List.mem_map_of_mem (List.mem_finRange _)⟩

/-- The records that are left after the first `n` start with that of row `n`. -/
theorem row_of_drop_records {t : Table α} {n : Nat} {r : Record α} {l : List (Record α)}
    (h : t.records.drop n = r :: l) : r ∈ t.records ∧ r.row.index = n := by
  have hget : t.records[n]? = some r := by
    rw [← Nat.add_zero n, ← List.getElem?_drop, h]
    rfl
  obtain ⟨hn, rfl⟩ := List.getElem?_eq_some_iff.mp hget
  exact ⟨List.getElem_mem hn, by simp [records, recordAt]⟩

/-- The first `n` records are those of the first rows. -/
theorem lt_of_mem_take_records {t : Table α} {n : Nat} {r : Record α}
    (h : r ∈ t.records.take n) : r.row.index < n := by
  obtain ⟨i, hi, rfl⟩ := List.mem_take_iff_getElem.mp h
  have hrow : t.records[i].row.index = i := by simp [records, recordAt]
  omega

theorem records_ascending (t : Table α) : t.records.Pairwise fun a b => a.row < b.row := by
  refine List.pairwise_map.mpr ((List.pairwise_lt_finRange _).imp fun {i j} hij => ?_)
  exact hij

theorem rowIds_ascending (t : Table α) : t.rowIds.Pairwise (· < ·) :=
  List.pairwise_map.mpr t.records_ascending

theorem mem_rowIds_iff {t : Table α} {row : RowId} : row ∈ t.rowIds ↔ row.index < t.size := by
  rw [rowIds, List.mem_map]
  constructor
  · intro h
    obtain ⟨r, hr, rfl⟩ := h
    exact lt_size_of_record (mem_records_iff.mp hr)
  · intro h
    obtain ⟨r, hr⟩ := t.exists_record h
    obtain rfl := row_eq_of_record? hr
    exact ⟨r, mem_records_iff.mpr hr, rfl⟩

theorem map_index_rowIds (t : Table α) : t.rowIds.map RowId.index = List.range' 0 t.size := by
  rw [← List.range_eq_range']
  apply List.ext_getElem
  · simp [rowIds]
  · intro i hi hi'
    simp [rowIds, records, recordAt]

/-- Records of the table, looked up by their rows. -/
theorem mapM_row {t : Table α} {l : List (Record α)} (h : ∀ r ∈ l, r ∈ t.records) :
    (l.map Record.row).mapM t.row = .ok l := by
  induction l with
  | nil => rfl
  | cons r l ih =>
    rw [List.map_cons, List.mapM_cons, row_of_mem (h r List.mem_cons_self),
      ih fun s hs => h s (List.mem_cons_of_mem r hs)]
    rfl

end Table

end StaticTables
