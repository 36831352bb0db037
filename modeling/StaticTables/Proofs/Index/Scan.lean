import Mathlib
import StaticTables.Index.Basic
import StaticTables.Proofs.Key.TotalOrder
import StaticTables.Proofs.Index.SortedSpan
import StaticTables.Proofs.Table.Records

/-!
# An index answers like a scan

Every query that compares keys returns what reading all rows of the table would find. Sorting keeps
the entries, and keeps those of one key in table order; the span of a query cuts out the entries
whose keys lie between the bounds; and a query for a range puts their rows back into table order.
-/
namespace StaticTables

open Std

variable {α κ : Type}

/-! ## The scan -/

/-- Whether a key lies between two bounds, both included. -/
def IndexKey.between [IndexKey κ] (start stop k : κ) : Bool :=
  IndexKey.le start k && IndexKey.le k stop

/-- The records of a table whose key passes a test, found by reading every row. -/
def Table.scan (table : Table α) (column : α → Option κ) (test : κ → Bool) : List (Record α) :=
  table.records.filter fun r => (column r.value).any test

namespace Table

theorem mem_scan_iff {table : Table α} {column : α → Option κ} {test : κ → Bool} {row : RowId} :
    row ∈ (table.scan column test).map Record.row ↔
      ∃ r, table.record? row = some r ∧ ∃ k, column r.value = some k ∧ test k := by
  unfold scan
  constructor
  · intro h
    obtain ⟨r, hr, rfl⟩ := List.mem_map.mp h
    obtain ⟨hmem, hkey⟩ := List.mem_filter.mp hr
    exact ⟨r, mem_records_iff.mp hmem, (Option.any_eq_true ..).mp hkey⟩
  · intro hrow
    obtain ⟨r, hr, hkey⟩ := hrow
    obtain rfl := row_eq_of_record? hr
    refine List.mem_map_of_mem (List.mem_filter.mpr ⟨mem_records_iff.mpr hr, ?_⟩)
    exact (Option.any_eq_true ..).mpr hkey

theorem scan_ascending (table : Table α) (column : α → Option κ) (test : κ → Bool) :
    ((table.scan column test).map Record.row).Pairwise (· < ·) :=
  List.pairwise_map.mpr (table.records_ascending.filter _)

theorem mapM_row_scan (table : Table α) (column : α → Option κ) (test : κ → Bool) :
    ((table.scan column test).map Record.row).mapM table.row = .ok (table.scan column test) :=
  mapM_row fun _ hr => (List.mem_filter.mp hr).1

end Table

/-! ## Sorted entries -/

namespace Index

/-- The entries that pass a test belong to the scanned records. -/
theorem map_snd_filter_entries (table : Table α) (column : α → Option κ) (test : κ → Bool) :
    ((entries table column).filter (test ·.1)).map Prod.snd =
      (table.scan column test).map Record.row := by
  unfold entries Table.scan
  induction table.records with
  | nil => rfl
  | cons r l ih =>
    cases hk : column r.value with
    | none => simp [hk, ih]
    | some k => cases ht : test k <;> simp [hk, ht, ih]

section Sorting

variable [IndexKey κ]

theorem sortEntries_perm (l : List (κ × RowId)) : (sortEntries l).Perm l :=
  List.mergeSort_perm l _

variable [LawfulKey κ]

theorem entry_le_trans (a b c : κ × RowId) (hab : IndexKey.le a.1 b.1)
    (hbc : IndexKey.le b.1 c.1) : IndexKey.le a.1 c.1 := IndexKey.le_trans hab hbc

theorem entry_le_total (a b : κ × RowId) :
    (IndexKey.le a.1 b.1 || IndexKey.le b.1 a.1) = true := IndexKey.le_total a.1 b.1

theorem sortEntries_sorted (l : List (κ × RowId)) :
    (sortEntries l).Pairwise fun a b => IndexKey.le a.1 b.1 :=
  List.pairwise_mergeSort entry_le_trans entry_le_total l

/-- Sorting is stable: the entries of one key keep their order. They are sorted already, so they
stay a part of the sorted list, and there are no others of this key. -/
theorem sortEntries_filter_same (l : List (κ × RowId)) (v : κ) :
    (sortEntries l).filter (IndexKey.same ·.1 v) = l.filter (IndexKey.same ·.1 v) := by
  have hsorted : (l.filter (IndexKey.same ·.1 v)).Pairwise fun a b => IndexKey.le a.1 b.1 := by
    refine List.pairwise_of_forall_mem_list fun a ha b hb => ?_
    have hav := IndexKey.same_iff.mp (List.mem_filter.mp ha).2
    have hbv := IndexKey.same_iff.mp (List.mem_filter.mp hb).2
    exact IndexKey.le_trans hav.1 hbv.2
  have hsub : (l.filter (IndexKey.same ·.1 v)).Sublist (sortEntries l) :=
    List.sublist_mergeSort entry_le_trans entry_le_total hsorted List.filter_sublist
  have hpart := hsub.filter (IndexKey.same ·.1 v)
  rw [List.filter_filter] at hpart
  simp only [Bool.and_self] at hpart
  -- a part of the same length is the whole
  exact (hpart.eq_of_length ((sortEntries_perm l).filter _).length_eq.symm).symm

end Sorting

/-! ## What a span holds -/

section Queries

variable [IndexKey κ] [LawfulKey κ] (table : Table α) (column : α → Option κ)

/-- The rows in the span between two bounds, in key order. -/
theorem ids_stretch_ofColumn (start stop : κ) :
    ((ofColumn table column).stretch table start stop).ids =
      ((sortEntries (entries table column)).filter (IndexKey.between start stop ·.1)).map
        Prod.snd := by
  have hsorted : ((sortEntries (entries table column)).map Prod.fst).Pairwise
      fun a b => (IndexKey.compare a b).isLE :=
    List.pairwise_map.mpr (sortEntries_sorted (entries table column))
  have hspan := filter_eq_span hsorted start stop
  simp only [IndexKey.between, IndexKey.le, hspan, List.map_take, List.map_drop]
  simp [stretch, Rows.window, Rows.ids, ofColumn, span]

/-- Both bounds of a span at one value leave the keys that are the same as the value. -/
theorem between_self (v k : κ) : IndexKey.between v v k = IndexKey.same k v := by
  rw [Bool.eq_iff_iff, IndexKey.same_iff, IndexKey.between, Bool.and_eq_true, and_comm]

theorem rowsWith_ofColumn (v : κ) :
    (ofColumn table column).rowsWith v =
      (table.scan column (IndexKey.same · v)).map Record.row := by
  show ((ofColumn table column).stretch table v v).ids = _
  rw [ids_stretch_ofColumn]
  simp only [between_self]
  rw [sortEntries_filter_same]
  exact map_snd_filter_entries table column (IndexKey.same · v)

theorem index_le_trans (a b c : RowId) (hab : decide (a.index ≤ b.index))
    (hbc : decide (b.index ≤ c.index)) : decide (a.index ≤ c.index) := by
  simp only [decide_eq_true_eq] at hab hbc ⊢
  omega

theorem index_le_total (a b : RowId) :
    (decide (a.index ≤ b.index) || decide (b.index ≤ a.index)) = true := by
  simp only [Bool.or_eq_true, decide_eq_true_eq]
  omega

/-- Rows that are put into table order ascend. -/
theorem pairwise_mergeSort_index (l : List RowId) :
    (l.mergeSort fun a b => a.index ≤ b.index).Pairwise fun a b => a.index ≤ b.index :=
  (List.pairwise_mergeSort index_le_trans index_le_total l).imp of_decide_eq_true

/-- Put back into table order, the rows of a span are those that the scan finds: the same rows, and
both lists ascend. -/
theorem mergeSort_ids_stretch (start stop : κ) :
    (((ofColumn table column).stretch table start stop).ids.mergeSort
        fun a b => a.index ≤ b.index) =
      (table.scan column (IndexKey.between start stop)).map Record.row := by
  have hperm : (((ofColumn table column).stretch table start stop).ids.mergeSort
      fun a b => a.index ≤ b.index).Perm
        ((table.scan column (IndexKey.between start stop)).map Record.row) := by
    refine (List.mergeSort_perm _ _).trans ?_
    rw [ids_stretch_ofColumn, ← map_snd_filter_entries]
    exact ((sortEntries_perm _).filter _).map _
  have hscan := table.scan_ascending column (IndexKey.between start stop)
  exact hperm.eq_of_pairwise (fun a b _ _ hab hba => RowId.ext (Nat.le_antisymm hab hba))
    (pairwise_mergeSort_index _) (hscan.imp Nat.le_of_lt)

omit [LawfulKey κ] in
@[simp] theorem demand_ofColumn : (ofColumn table column).demand table = .ok () :=
  if_pos rfl

end Queries

/-! ## What queries give -/

section Results

variable [IndexKey κ] (table : Table α) (column : α → Option κ)

theorem run_find {i : Index κ} {table : Table α} (h : i.demand table = .ok ()) (v : κ) :
    (i.find table v).run () =
      { result := .ok (i.stretch table v v), state := (),
        log := [.indexFind table.name (i.stretch table v v).size] } := by
  simp [find, Traced.run_bind, Except.map, h]

theorem run_range {i : Index κ} {table : Table α} (h : i.demand table = .ok ()) (start stop : κ) :
    (i.range table start stop).run () =
      { result := .ok (Rows.ofList table ((i.stretch table start stop).ids.mergeSort
          fun a b => a.index ≤ b.index)),
        state := (), log := [.indexRange table.name (i.stretch table start stop).size] } := by
  simp [range, Traced.run_bind, Except.map, h]

theorem run_rangeInKeyOrder {i : Index κ} {table : Table α} (h : i.demand table = .ok ())
    (start stop : κ) :
    (i.rangeInKeyOrder table start stop).run () =
      { result := .ok (i.stretch table start stop), state := (),
        log := [.indexRangeByValue table.name (i.stretch table start stop).size] } := by
  simp [rangeInKeyOrder, Traced.run_bind, Except.map, h]

theorem result_find_ofColumn (v : κ) :
    (((ofColumn table column).find table v).run ()).result =
      .ok ((ofColumn table column).stretch table v v) := by
  rw [run_find (demand_ofColumn table column)]

theorem result_range_ofColumn (start stop : κ) :
    (((ofColumn table column).range table start stop).run ()).result =
      .ok (Rows.ofList table (((ofColumn table column).stretch table start stop).ids.mergeSort
        fun a b => a.index ≤ b.index)) := by
  rw [run_range (demand_ofColumn table column)]

theorem result_rangeInKeyOrder_ofColumn (start stop : κ) :
    (((ofColumn table column).rangeInKeyOrder table start stop).run ()).result =
      .ok ((ofColumn table column).stretch table start stop) := by
  rw [run_rangeInKeyOrder (demand_ofColumn table column)]

theorem sortedRows_ofColumn :
    (ofColumn table column).sortedRows table =
      .ok (Rows.ofArray table (ofColumn table column).rows) := by
  rw [sortedRows, demand_ofColumn]
  rfl

end Results

/-! ## Queries and the scan -/

/-- The rows are those of the table whose key passes a test, each once and in table order, and
reading them yields their records. -/
structure Selects (table : Table α) (column : α → Option κ) (test : κ → Bool)
    (rows : Rows α) : Prop where
  mem_iff : ∀ row, row ∈ rows.ids ↔
    ∃ r, table.record? row = some r ∧ ∃ k, column r.value = some k ∧ test k
  ascending : rows.ids.Pairwise (· < ·)
  ids_eq : rows.ids = (table.scan column test).map Record.row
  rest_eq : rows.rest = .ok (table.scan column test)

theorem Selects.of_ids {table : Table α} {column : α → Option κ} {test : κ → Bool}
    {rows : Rows α} (htable : rows.table = table)
    (hids : rows.ids = (table.scan column test).map Record.row) :
    Selects table column test rows where
  mem_iff row := by rw [hids, Table.mem_scan_iff]
  ascending := by rw [hids]; exact table.scan_ascending column test
  ids_eq := hids
  rest_eq := by rw [Rows.rest, hids, htable, Table.mapM_row_scan]

section Queries

variable [IndexKey κ] [LawfulKey κ] (table : Table α) (column : α → Option κ)

theorem range_selects (start stop : κ) :
    ∃ rows, (((ofColumn table column).range table start stop).run ()).result = .ok rows ∧
      Selects table column (IndexKey.between start stop) rows := by
  refine ⟨_, result_range_ofColumn table column start stop, Selects.of_ids rfl ?_⟩
  rw [Rows.ids_ofList, mergeSort_ids_stretch]

theorem find_selects (v : κ) :
    ∃ rows, (((ofColumn table column).find table v).run ()).result = .ok rows ∧
      Selects table column (IndexKey.same · v) rows := by
  refine ⟨_, result_find_ofColumn table column v, Selects.of_ids rfl ?_⟩
  exact rowsWith_ofColumn table column v

theorem findFirst_ofColumn (v : κ) :
    (ofColumn table column).findFirst table v =
      .ok (table.scan column (IndexKey.same · v)).head? := by
  have hmem : ∀ r ∈ table.scan column (IndexKey.same · v), r ∈ table.records :=
    fun _ hr => (List.mem_filter.mp hr).1
  simp only [findFirst, demand_ofColumn, rowsWith_ofColumn, List.head?_map]
  cases hscan : (table.scan column (IndexKey.same · v)).head? with
  | none => rfl
  | some r =>
    have hr := hmem r (List.mem_of_head? hscan)
    simp [Option.mapM, Table.row_of_mem hr]
    rfl

theorem contains_ofColumn (v : κ) :
    (ofColumn table column).contains v ↔ table.scan column (IndexKey.same · v) ≠ [] := by
  simp [contains, rowsWith_ofColumn]

theorem countRange_ofColumn (start stop : κ) :
    (ofColumn table column).countRange start stop =
      (table.scan column (IndexKey.between start stop)).length := by
  have hlength := congrArg List.length (mergeSort_ids_stretch table column start stop)
  rw [List.length_mergeSort, List.length_map, Rows.length_ids] at hlength
  exact hlength

/-- Between bounds in the wrong order there is no key. -/
theorem between_eq_false {start stop : κ} (h : IndexKey.compare start stop = .gt) (k : κ) :
    IndexKey.between start stop k = false := by
  rw [Bool.eq_false_iff]
  intro hk
  obtain ⟨hstart, hstop⟩ := Bool.and_eq_true _ _ |>.mp hk
  have hle : IndexKey.le start stop := IndexKey.le_trans hstart hstop
  rw [IndexKey.le, h] at hle
  contradiction

end Queries

/-- An index over a column of any key type, with keys for all rows or for some, answers every query
that compares keys as reading the whole table would. -/
theorem build_answers_like_scan (t : KeyType) (table : Table α) (column : α → Option t.Value) :
    ∃ i : Index t.Value, ((build table column).run ()).result = .ok i ∧
      (∀ start stop,
        ∃ rows, ((i.range table start stop).run ()).result = .ok rows ∧
          Selects table column (IndexKey.between start stop) rows ∧
          i.countRange start stop = rows.ids.length ∧
          (IndexKey.compare start stop = .gt → rows.ids = [])) ∧
      ∀ v,
        i.rowsWith v = (table.scan column (IndexKey.same · v)).map Record.row ∧
        (∃ rows, ((i.find table v).run ()).result = .ok rows ∧
          Selects table column (IndexKey.same · v) rows) ∧
        i.findFirst table v = .ok (table.scan column (IndexKey.same · v)).head? ∧
        (i.contains v ↔ table.scan column (IndexKey.same · v) ≠ []) := by
  refine ⟨ofColumn table column, rfl, fun start stop => ?_, fun v => ?_⟩
  · obtain ⟨rows, hrun, hrows⟩ := range_selects table column start stop
    refine ⟨rows, hrun, hrows, ?_, fun hgt => ?_⟩
    · rw [countRange_ofColumn, hrows.ids_eq, List.length_map]
    · rw [List.eq_nil_iff_forall_not_mem]
      intro row hrow
      obtain ⟨r, -, k, -, hk⟩ := (hrows.mem_iff row).mp hrow
      rw [between_eq_false hgt] at hk
      contradiction
  · exact ⟨rowsWith_ofColumn table column v, find_selects table column v,
      findFirst_ofColumn table column v, contains_ofColumn table column v⟩

end Index

end StaticTables
