import Mathlib
import StaticTables.Proofs.Index.Scan

/-!
# An index is a stable sort

The rows of an index stand in key order, and those of one key in table order. That is a strict
order of rows, so there is one such list and no other. A query in key order cuts a stretch out of
it, and its two ends are the first row with a least key and the last row with a greatest one.
-/
namespace StaticTables.Index

variable {α κ : Type}

/-! ## Keys of rows -/

/-- The key of a row, if the row lies in the table and has one. -/
def keyAt (table : Table α) (column : α → Option κ) (row : RowId) : Option κ :=
  table.record? row >>= fun r => column r.value

section Entries

variable {table : Table α} {column : α → Option κ}

theorem keyAt_eq_some_iff {row : RowId} {k : κ} :
    keyAt table column row = some k ↔
      ∃ r ∈ table.records, r.row = row ∧ column r.value = some k := by
  show (table.record? row).bind (fun r => column r.value) = some k ↔ _
  rw [Option.bind_eq_some_iff]
  constructor
  · intro h
    obtain ⟨r, hr, hk⟩ := h
    obtain rfl := Table.row_eq_of_record? hr
    exact ⟨r, Table.mem_records_iff.mpr hr, rfl, hk⟩
  · intro h
    obtain ⟨r, hr, rfl, hk⟩ := h
    exact ⟨r, Table.mem_records_iff.mp hr, hk⟩

theorem mem_entries_iff {k : κ} {row : RowId} :
    (k, row) ∈ entries table column ↔ keyAt table column row = some k := by
  rw [keyAt_eq_some_iff, entries, List.mem_filterMap]
  refine exists_congr fun r => and_congr_right fun _ => ?_
  simp [and_comm]

theorem entries_ascending (table : Table α) (column : α → Option κ) :
    (entries table column).Pairwise fun a b => a.2 < b.2 := by
  refine List.Pairwise.filterMap _ (fun r s hrs a ha b hb => ?_) table.records_ascending
  obtain ⟨k, -, rfl⟩ := Option.map_eq_some_iff.mp ha
  obtain ⟨k', -, rfl⟩ := Option.map_eq_some_iff.mp hb
  exact hrs

end Entries

/-! ## The order of an index -/

section Order

variable [IndexKey κ]

/-- One entry stands before another: its key is less, or the keys are the same and its row is less.
-/
def Before (a b : κ × RowId) : Prop :=
  IndexKey.compare a.1 b.1 = .lt ∨ IndexKey.compare a.1 b.1 = .eq ∧ a.2 < b.2

/-- All rows with a key, beside their keys, each before all that follow it. -/
structure StableSort (table : Table α) (column : α → Option κ) (order : List (κ × RowId)) :
    Prop where
  mem_iff : ∀ k row, (k, row) ∈ order ↔ keyAt table column row = some k
  ascending : order.Pairwise Before

/-- The row is the first of those with a least key. -/
def FirstLeast (table : Table α) (column : α → Option κ) (r : Record α) : Prop :=
  r ∈ table.records ∧ ∃ k, column r.value = some k ∧
    ∀ s ∈ table.records, ∀ k', column s.value = some k' →
      IndexKey.le k k' ∧ (IndexKey.same k k' → r.row ≤ s.row)

/-- The row is the last of those with a greatest key. -/
def LastGreatest (table : Table α) (column : α → Option κ) (r : Record α) : Prop :=
  r ∈ table.records ∧ ∃ k, column r.value = some k ∧
    ∀ s ∈ table.records, ∀ k', column s.value = some k' →
      IndexKey.le k' k ∧ (IndexKey.same k' k → s.row ≤ r.row)

theorem Before.le {a b : κ × RowId} (h : Before a b) : IndexKey.le a.1 b.1 := by
  rcases h with hlt | ⟨heq, -⟩
  · simp [IndexKey.le, hlt]
  · simp [IndexKey.le, heq]

theorem Before.row_le {a b : κ × RowId} (h : Before a b) (hsame : IndexKey.same a.1 b.1) :
    a.2 ≤ b.2 := by
  rcases h with hlt | ⟨-, hrow⟩
  · simp [IndexKey.same, hlt] at hsame
  · exact Nat.le_of_lt hrow

variable [LawfulKey κ]

theorem Before.asymm {a b : κ × RowId} (hab : Before a b) (hba : Before b a) : False := by
  have hswap : IndexKey.compare b.1 a.1 = (IndexKey.compare a.1 b.1).swap :=
    Std.OrientedCmp.eq_swap
  rcases hab with hlt | ⟨heq, hrow⟩
  · rcases hba with hlt' | ⟨heq', -⟩ <;> simp_all
  · rcases hba with hlt' | ⟨-, hrow'⟩
    · simp_all
    · exact Nat.lt_asymm (show a.2.index < b.2.index from hrow) hrow'

/-- Sorting puts every entry before all that follow it. Two entries of one key stand as they stood
among the entries of that key. -/
theorem sortEntries_pairwise_before {l : List (κ × RowId)}
    (h : l.Pairwise fun a b => a.2 < b.2) : (sortEntries l).Pairwise Before := by
  rw [List.pairwise_iff_forall_sublist]
  intro a b hab
  have hle : IndexKey.le a.1 b.1 :=
    List.pairwise_iff_forall_sublist.mp (sortEntries_sorted l) hab
  cases hcmp : IndexKey.compare a.1 b.1 with
  | lt => exact .inl hcmp
  | gt => simp [IndexKey.le, hcmp] at hle
  | eq =>
    have hsame : IndexKey.same a.1 b.1 := by simp [IndexKey.same, hcmp]
    have hrefl : IndexKey.compare b.1 b.1 = .eq := Std.ReflCmp.compare_self
    have hself : IndexKey.same b.1 b.1 := by simp [IndexKey.same, hrefl]
    have htied : [a, b].Sublist (l.filter (IndexKey.same ·.1 b.1)) := by
      rw [← sortEntries_filter_same]
      simpa [hsame, hself] using hab.filter (IndexKey.same ·.1 b.1)
    exact .inr ⟨hcmp, List.pairwise_iff_forall_sublist.mp h (htied.trans List.filter_sublist)⟩

end Order

/-! ## There is one such order -/

section Unique

variable [IndexKey κ] {table : Table α} {column : α → Option κ} {order order' : List (κ × RowId)}

theorem StableSort.mem_rows_iff (h : StableSort table column order) {row : RowId} :
    row ∈ order.map Prod.snd ↔ ∃ k, keyAt table column row = some k := by
  rw [List.mem_map]
  constructor
  · intro hrow
    obtain ⟨⟨k, _⟩, he, rfl⟩ := hrow
    exact ⟨k, (h.mem_iff _ _).mp he⟩
  · intro hkey
    obtain ⟨k, hk⟩ := hkey
    exact ⟨(k, row), (h.mem_iff k row).mpr hk, rfl⟩

theorem StableSort.mem_of_record (h : StableSort table column order) {s : Record α}
    (hs : s ∈ table.records) {k : κ} (hk : column s.value = some k) : (k, s.row) ∈ order :=
  (h.mem_iff k s.row).mpr (keyAt_eq_some_iff.mpr ⟨s, hs, rfl, hk⟩)

theorem StableSort.keys_eq (h : StableSort table column order) :
    (order.map Prod.fst).map some = (order.map Prod.snd).map (keyAt table column) := by
  rw [List.map_map, List.map_map]
  exact List.map_congr_left fun e he => ((h.mem_iff e.1 e.2).mp he).symm

/-- Choosing entries by their keys is choosing rows by their keys. -/
theorem StableSort.map_snd_filter (h : StableSort table column order) (test : κ → Bool) :
    (order.filter (test ·.1)).map Prod.snd =
      (order.map Prod.snd).filter fun row => (keyAt table column row).any test := by
  rw [List.filter_map]
  refine congrArg (List.map Prod.snd) (List.filter_congr fun e he => ?_)
  rw [Function.comp_apply, (h.mem_iff e.1 e.2).mp he, Option.any_some]

variable [LawfulKey κ]

theorem StableSort.nodup (h : StableSort table column order) : order.Nodup := by
  refine h.ascending.imp fun {a b} hab => ?_
  rintro rfl
  exact hab.asymm hab

/-- Each row has one key, so it stands there once. -/
theorem StableSort.nodup_rows (h : StableSort table column order) :
    (order.map Prod.snd).Nodup := by
  refine List.Nodup.map_on (fun a ha b hb hrow => ?_) h.nodup
  have hkey := (h.mem_iff a.1 a.2).mp ha
  rw [hrow, (h.mem_iff b.1 b.2).mp hb] at hkey
  exact Prod.ext (Option.some.inj hkey).symm hrow

/-- Two such lists have the same members, and a strict order leaves them no choice. -/
theorem StableSort.unique (h : StableSort table column order)
    (h' : StableSort table column order') : order = order' := by
  have hperm : order.Perm order' :=
    (List.perm_ext_iff_of_nodup h.nodup h'.nodup).mpr fun e =>
      (h.mem_iff e.1 e.2).trans (h'.mem_iff e.1 e.2).symm
  exact hperm.eq_of_pairwise (fun a b _ _ hab hba => (hab.asymm hba).elim) h.ascending h'.ascending

end Unique

/-! ## The two ends -/

section Ends

variable [IndexKey κ] [LawfulKey κ] {table : Table α} {column : α → Option κ}
  {order : List (κ × RowId)}

theorem StableSort.firstLeast (h : StableSort table column order) {e : κ × RowId}
    (he : order.head? = some e) : ∃ r, table.row e.2 = .ok r ∧ FirstLeast table column r := by
  obtain ⟨rest, rfl⟩ := List.head?_eq_some_iff.mp he
  obtain ⟨r, hr, hrow, hk⟩ :=
    keyAt_eq_some_iff.mp ((h.mem_iff e.1 e.2).mp List.mem_cons_self)
  refine ⟨r, hrow ▸ Table.row_of_mem hr, hr, e.1, hk, fun s hs k' hk' => ?_⟩
  rcases List.mem_cons.mp (h.mem_of_record hs hk') with hfirst | hafter
  · have hrefl : IndexKey.compare k' k' = .eq := Std.ReflCmp.compare_self
    rw [hrow, ← hfirst]
    exact ⟨by simp [IndexKey.le, hrefl], fun _ => Nat.le_refl _⟩
  · have hbefore := (List.pairwise_cons.mp h.ascending).1 _ hafter
    exact ⟨hbefore.le, fun hsame => hrow ▸ hbefore.row_le hsame⟩

theorem StableSort.lastGreatest (h : StableSort table column order) {e : κ × RowId}
    (he : order.getLast? = some e) : ∃ r, table.row e.2 = .ok r ∧ LastGreatest table column r := by
  obtain ⟨front, rfl⟩ := List.getLast?_eq_some_iff.mp he
  obtain ⟨r, hr, hrow, hk⟩ :=
    keyAt_eq_some_iff.mp ((h.mem_iff e.1 e.2).mp List.mem_concat_self)
  refine ⟨r, hrow ▸ Table.row_of_mem hr, hr, e.1, hk, fun s hs k' hk' => ?_⟩
  rcases List.mem_append.mp (h.mem_of_record hs hk') with hbefore | hlast
  · have hbefore := (List.pairwise_append.mp h.ascending).2.2 _ hbefore _ (List.mem_singleton_self e)
    exact ⟨hbefore.le, fun hsame => hrow ▸ hbefore.row_le hsame⟩
  · have hrefl : IndexKey.compare k' k' = .eq := Std.ReflCmp.compare_self
    rw [hrow, ← List.mem_singleton.mp hlast]
    exact ⟨by simp [IndexKey.le, hrefl], fun _ => Nat.le_refl _⟩

end Ends

/-! ## The order of a built index -/

section Built

variable [IndexKey κ] [LawfulKey κ] (table : Table α) (column : α → Option κ)

theorem stableSort_sortEntries : StableSort table column (sortEntries (entries table column)) where
  mem_iff k row := by rw [(sortEntries_perm _).mem_iff, mem_entries_iff]
  ascending := sortEntries_pairwise_before (entries_ascending table column)

omit [LawfulKey κ] in
theorem keys_ofColumn :
    (ofColumn table column).keys.toList = (sortEntries (entries table column)).map Prod.fst := by
  simp [ofColumn]

omit [LawfulKey κ] in
theorem rows_ofColumn :
    (ofColumn table column).rows.toList = (sortEntries (entries table column)).map Prod.snd := by
  simp [ofColumn]

/-- The least row is the first of all sorted rows, if there are any. -/
theorem least_ofColumn :
    (∃ r, (ofColumn table column).least table = .ok (some r) ∧ FirstLeast table column r) ∨
      (ofColumn table column).least table = .ok none ∧ (ofColumn table column).rows.toList = [] := by
  rw [least, demand_ofColumn, ← Array.getElem?_toList, rows_ofColumn, ← List.head?_eq_getElem?,
    List.head?_map]
  cases hhead : (sortEntries (entries table column)).head? with
  | none => exact .inr ⟨rfl, by rw [List.head?_eq_none_iff.mp hhead]; rfl⟩
  | some e =>
    obtain ⟨r, hrow, hr⟩ := (stableSort_sortEntries table column).firstLeast hhead
    refine .inl ⟨r, ?_, hr⟩
    rw [Option.map_some, Option.mapM_some, hrow]
    rfl

/-- The greatest row is the last of all sorted rows, if there are any. -/
theorem greatest_ofColumn :
    (∃ r, (ofColumn table column).greatest table = .ok (some r) ∧ LastGreatest table column r) ∨
      (ofColumn table column).greatest table = .ok none ∧
        (ofColumn table column).rows.toList = [] := by
  rw [greatest, demand_ofColumn, ← Array.getLast?_toList, rows_ofColumn, List.getLast?_map]
  cases hlast : (sortEntries (entries table column)).getLast? with
  | none => exact .inr ⟨rfl, by rw [List.getLast?_eq_none_iff.mp hlast]; rfl⟩
  | some e =>
    obtain ⟨r, hrow, hr⟩ := (stableSort_sortEntries table column).lastGreatest hlast
    refine .inl ⟨r, ?_, hr⟩
    rw [Option.map_some, Option.mapM_some, hrow]
    rfl

omit [LawfulKey κ] in
/-- A stretch of the index is a stretch of its rows. -/
theorem ids_stretch_infix (i : Index κ) (start stop : κ) :
    (i.stretch table start stop).ids <:+: i.rows.toList := by
  have hids : (i.stretch table start stop).ids =
      (i.rows.toList.drop (i.span start stop).1).take
        ((i.span start stop).2 - (i.span start stop).1) := Rows.ids_window ..
  rw [hids]
  exact (List.take_prefix _ _).isInfix.trans (List.drop_suffix _ _).isInfix

theorem ids_stretch_eq_filter (start stop : κ) :
    ((ofColumn table column).stretch table start stop).ids =
      (ofColumn table column).rows.toList.filter fun row =>
        (keyAt table column row).any (IndexKey.between start stop) := by
  rw [ids_stretch_ofColumn, rows_ofColumn]
  exact (stableSort_sortEntries table column).map_snd_filter _

end Built

/-- An index over a column of any key type lists the rows that have a key, each once, in the one
order that goes by key and then by row. A query in key order gives the part of this list that lies
between the bounds, and the least and the greatest row are the first and the last of it. -/
theorem build_is_stable_sort (t : KeyType) (table : Table α) (column : α → Option t.Value) :
    ∃ (i : Index t.Value) (sorted : Rows α),
      ((build table column).run ()).result = .ok i ∧ i.sortedRows table = .ok sorted ∧
      (∀ row, row ∈ sorted.ids ↔ ∃ k, keyAt table column row = some k) ∧ sorted.ids.Nodup ∧
      i.keys.toList.map some = sorted.ids.map (keyAt table column) ∧
      (∀ order, StableSort table column order ↔ order = i.keys.toList.zip sorted.ids) ∧
      (∀ start stop, ∃ stretch rows,
        ((i.rangeInKeyOrder table start stop).run ()).result = .ok stretch ∧
        ((i.range table start stop).run ()).result = .ok rows ∧
        stretch.ids <:+: sorted.ids ∧
        stretch.ids =
          sorted.ids.filter (fun row =>
            (keyAt table column row).any (IndexKey.between start stop)) ∧
        stretch.ids.Perm rows.ids) ∧
      ((∃ r, i.least table = .ok (some r) ∧ FirstLeast table column r) ∨
        i.least table = .ok none ∧ sorted.ids = []) ∧
      ((∃ r, i.greatest table = .ok (some r) ∧ LastGreatest table column r) ∨
        i.greatest table = .ok none ∧ sorted.ids = []) := by
  have hsort := stableSort_sortEntries table column
  have hsorted : (Rows.ofArray table (ofColumn table column).rows).ids =
      (ofColumn table column).rows.toList := Rows.ids_ofArray _ _
  refine ⟨ofColumn table column, Rows.ofArray table (ofColumn table column).rows, rfl,
    sortedRows_ofColumn table column, ?_⟩
  rw [hsorted]
  refine ⟨?members, ?once, ?keys, ?unique, fun start stop => ?stretch,
    least_ofColumn table column, greatest_ofColumn table column⟩
  case members => rw [rows_ofColumn]; exact fun row => hsort.mem_rows_iff
  case once => rw [rows_ofColumn]; exact hsort.nodup_rows
  case keys => rw [keys_ofColumn, rows_ofColumn]; exact hsort.keys_eq
  case unique =>
    have hzip : (ofColumn table column).keys.toList.zip (ofColumn table column).rows.toList =
        sortEntries (entries table column) := by
      rw [keys_ofColumn, rows_ofColumn, List.zip_map', List.map_id']
    rw [hzip]
    exact fun order => ⟨fun h => h.unique hsort, fun h => h ▸ hsort⟩
  case stretch =>
    refine ⟨_, _, result_rangeInKeyOrder_ofColumn table column start stop,
      result_range_ofColumn table column start stop, ids_stretch_infix table _ start stop,
      ids_stretch_eq_filter table column start stop, ?_⟩
    rw [Rows.ids_ofList]
    exact (List.mergeSort_perm _ _).symm

end StaticTables.Index
