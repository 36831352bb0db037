import Mathlib
import StaticTables.Proofs.Index.StableSort
import StaticTables.Proofs.Table.Grouping

/-!
# Absent keys

A column of optional keys can be indexed in two ways: the rows without a key are left out, or their
absent keys are sorted like any other. The absent keys come first, so the second index is the first
one behind the rows without a key. Every span that starts at a present key lies in the part that
both share, and one that starts at the absent key takes in all rows without a key.
-/
namespace StaticTables

variable {α κ : Type}

/-! ## Spans of optional keys -/

namespace IndexKey

variable [IndexKey κ] {a b : κ}

instance [LawfulKey κ] : LawfulKey (Option κ) :=
  inferInstanceAs (Std.TransCmp (compareOption (compare (κ := κ))))

theorem between_some_some (k : Option κ) :
    between (some a) (some b) k = k.any (between a b) := by
  cases k <;> rfl

theorem between_none_none (k : Option κ) : between none none k = k.isNone := by
  cases k <;> rfl

theorem between_none_some (k : Option κ) : between none (some b) k = k.all (le · b) := by
  cases k <;> rfl

end IndexKey

namespace Index

/-! ## The order of both indices -/

/-- The rows whose key is absent, in table order. -/
def keyless (table : Table α) (column : α → Option κ) : List RowId :=
  (table.records.filter fun r => (column r.value).isNone).map Record.row

theorem mem_keyless_iff {table : Table α} {column : α → Option κ} {row : RowId} :
    row ∈ keyless table column ↔ ∃ r ∈ table.records, r.row = row ∧ column r.value = none := by
  simp only [keyless, List.mem_map, List.mem_filter, Option.isNone_iff_eq_none]
  exact exists_congr fun r => ⟨fun h => ⟨h.1.1, h.2, h.1.2⟩, fun h => ⟨⟨h.1, h.2.2⟩, h.2.1⟩⟩

section Order

variable [IndexKey κ] [LawfulKey κ] (table : Table α) (column : α → Option κ)

/-- The rows without a key, then the others as they stand without them. -/
def absentFirst : List (Option κ × RowId) :=
  (keyless table column).map (none, ·) ++
    (sortEntries (entries table column)).map fun e => (some e.1, e.2)

theorem stableSort_absentFirst :
    StableSort table (fun a => some (column a)) (absentFirst table column) where
  mem_iff k row := by
    rw [keyAt_eq_some_iff, absentFirst, List.mem_append]
    cases k with
    | none => simpa using mem_keyless_iff
    | some k =>
      have hentry := ((stableSort_sortEntries table column).mem_iff k row).trans keyAt_eq_some_iff
      simpa using hentry
  ascending := by
    refine List.pairwise_append.mpr ⟨?absent, ?present, ?across⟩
    case absent =>
      rw [List.pairwise_map, keyless, List.pairwise_map]
      exact (table.records_ascending.filter _).imp fun h => .inr ⟨rfl, h⟩
    case present =>
      rw [List.pairwise_map]
      exact (stableSort_sortEntries table column).ascending
    case across =>
      intro e he e' he'
      obtain ⟨row, -, rfl⟩ := List.mem_map.mp he
      obtain ⟨e', -, rfl⟩ := List.mem_map.mp he'
      exact .inl rfl

theorem sortEntries_optional :
    sortEntries (entries table fun a => some (column a)) = absentFirst table column :=
  (stableSort_sortEntries table _).unique (stableSort_absentFirst table column)

end Order

/-! ## Queries of both indices -/

/-- Two queries give the same rows of the same table and log the same events. -/
def SameRows (q q' : Build (Rows α)) : Prop :=
  ∃ rows rows', (q.run ()).result = .ok rows ∧ (q'.run ()).result = .ok rows' ∧
    rows.table = rows'.table ∧ rows.ids = rows'.ids ∧ (q.run ()).log = (q'.run ()).log

section Queries

variable [IndexKey κ] [LawfulKey κ] (table : Table α) (column : α → Option κ)

/-- Between present keys both indices have the same stretch. -/
theorem ids_stretch_optional (a b : κ) :
    ((ofColumn table fun r => some (column r)).stretch table (some a) (some b)).ids =
      ((ofColumn table column).stretch table a b).ids := by
  rw [ids_stretch_ofColumn, ids_stretch_ofColumn, sortEntries_optional, absentFirst,
    List.filter_append, List.filter_map, List.filter_map]
  simp [IndexKey.between_some_some, Function.comp_def]

theorem size_stretch_optional (a b : κ) :
    ((ofColumn table fun r => some (column r)).stretch table (some a) (some b)).size =
      ((ofColumn table column).stretch table a b).size := by
  rw [← Rows.length_ids, ids_stretch_optional, Rows.length_ids]

/-- Rows that pass one of two tests or the other are merged from those that pass each. -/
theorem merge_filter {p q : Record α → Bool} (hdisjoint : ∀ r ∈ table.records, p r → q r = false) :
    List.merge ((table.records.filter p).map Record.row) ((table.records.filter q).map Record.row)
        (fun a b => a.index ≤ b.index) =
      (table.records.filter fun r => p r || q r).map Record.row := by
  have hascending : ∀ test : Record α → Bool, ((table.records.filter test).map
      Record.row).Pairwise fun a b : RowId => decide (a.index ≤ b.index) := by
    intro test
    rw [List.pairwise_map]
    exact (table.records_ascending.filter test).imp fun h => decide_eq_true (Nat.le_of_lt h)
  have hperm : (List.merge ((table.records.filter p).map Record.row)
      ((table.records.filter q).map Record.row) fun a b => a.index ≤ b.index).Perm
        ((table.records.filter fun r => p r || q r).map Record.row) := by
    refine (List.merge_perm_append _).trans ?_
    rw [← List.map_append]
    exact (filter_append_filter_perm hdisjoint).map Record.row
  refine hperm.eq_of_pairwise (fun a b _ _ hab hba => ?_)
    (List.pairwise_merge index_le_trans index_le_total _ _ (hascending p) (hascending q))
    (hascending _)
  simp only [decide_eq_true_eq] at hab hba
  exact RowId.ext (Nat.le_antisymm hab hba)

theorem sameRows_find (a : κ) :
    SameRows ((ofColumn table fun r => some (column r)).find table (some a))
      ((ofColumn table column).find table a) := by
  refine ⟨_, _, result_find_ofColumn table _ _, result_find_ofColumn table _ _, rfl,
    ids_stretch_optional table column a a, ?_⟩
  simp [find, Traced.run_bind, Except.map, size_stretch_optional]

theorem sameRows_range (a b : κ) :
    SameRows ((ofColumn table fun r => some (column r)).range table (some a) (some b))
      ((ofColumn table column).range table a b) := by
  refine ⟨_, _, result_range_ofColumn table _ _ _, result_range_ofColumn table _ _ _, rfl, ?_, ?_⟩
  · rw [ids_stretch_optional]
  · simp [range, Traced.run_bind, Except.map, size_stretch_optional]

theorem sameRows_rangeInKeyOrder (a b : κ) :
    SameRows ((ofColumn table fun r => some (column r)).rangeInKeyOrder table (some a) (some b))
      ((ofColumn table column).rangeInKeyOrder table a b) := by
  refine ⟨_, _, result_rangeInKeyOrder_ofColumn table _ _ _,
    result_rangeInKeyOrder_ofColumn table _ _ _, rfl, ids_stretch_optional table column a b, ?_⟩
  simp [rangeInKeyOrder, Traced.run_bind, Except.map, size_stretch_optional]

/-- Asked for the absent key, the second index gives the rows without a key. -/
theorem ids_stretch_none :
    ((ofColumn table fun r => some (column r)).stretch table none none).ids =
      keyless table column := by
  rw [ids_stretch_ofColumn, sortEntries_optional, absentFirst, List.filter_append,
    List.filter_map, List.filter_map]
  simp [IndexKey.between_none_none, Function.comp_def]

/-- A range that starts at the absent key is put into table order from both parts. -/
theorem mergeSort_ids_stretch_none (b : κ) :
    (((ofColumn table fun r => some (column r)).stretch table none (some b)).ids.mergeSort
        fun a b => a.index ≤ b.index) =
      List.merge (keyless table column) ((table.scan column (IndexKey.le · b)).map Record.row)
        (fun a b => a.index ≤ b.index) := by
  rw [mergeSort_ids_stretch, keyless, Table.scan, Table.scan, merge_filter]
  · simp only [Option.any_some, IndexKey.between_none_some]
    refine congrArg (List.map Record.row) (List.filter_congr fun r _ => ?_)
    cases column r.value <;> rfl
  · intro r _ habsent
    rw [Option.isNone_iff_eq_none.mp habsent]
    rfl

theorem rows_optional :
    (ofColumn table fun r => some (column r)).rows.toList =
      keyless table column ++ (ofColumn table column).rows.toList := by
  rw [rows_ofColumn, rows_ofColumn, sortEntries_optional, absentFirst, List.map_append]
  simp [Function.comp_def]

end Queries

/-- An index of a column of optional keys and the index of its present keys agree. Between present
keys they give the same rows and the same counts; the absent key is that of the rows without a key,
in table order; a range from the absent key on is merged from these and the rows with a key up to
its end; and the rows without a key stand before all others. -/
theorem optional_agrees_with_present (t : KeyType) (table : Table α)
    (column : α → Option t.Value) :
    ∃ (present : Index t.Value) (optional : Index (Option t.Value)) (sorted sorted' : Rows α),
      ((build table column).run ()).result = .ok present ∧
      ((build table fun r => some (column r)).run ()).result = .ok optional ∧
      (∀ a, SameRows (optional.find table (some a)) (present.find table a)) ∧
      (∀ a b, SameRows (optional.range table (some a) (some b)) (present.range table a b)) ∧
      (∀ a b, SameRows (optional.rangeInKeyOrder table (some a) (some b))
        (present.rangeInKeyOrder table a b)) ∧
      (∀ a b, optional.countRange (some a) (some b) = present.countRange a b) ∧
      (∃ rows, ((optional.find table none).run ()).result = .ok rows ∧
        rows.ids = keyless table column) ∧
      (∀ b, ∃ rows, ((optional.range table none (some b)).run ()).result = .ok rows ∧
        rows.ids = List.merge (keyless table column)
          ((table.scan column (IndexKey.le · b)).map Record.row) fun a b => a.index ≤ b.index) ∧
      optional.sortedRows table = .ok sorted ∧ present.sortedRows table = .ok sorted' ∧
      sorted.ids = keyless table column ++ sorted'.ids := by
  refine ⟨ofColumn table column, ofColumn table fun r => some (column r), _, _, rfl, rfl,
    sameRows_find table column, sameRows_range table column, sameRows_rangeInKeyOrder table column,
    size_stretch_optional table column, ?absent, ?from_absent, sortedRows_ofColumn table _,
    sortedRows_ofColumn table column, ?sorted⟩
  case absent =>
    exact ⟨_, result_find_ofColumn table _ _, ids_stretch_none table column⟩
  case from_absent =>
    intro b
    refine ⟨_, result_range_ofColumn table _ _ _, ?_⟩
    rw [Rows.ids_ofList, mergeSort_ids_stretch_none]
  case sorted =>
    rw [Rows.ids_ofArray, Rows.ids_ofArray, rows_optional]

end Index

end StaticTables
