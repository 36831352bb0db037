import Mathlib
import StaticTables.Hierarchy.Spread
import StaticTables.Proofs.Hierarchy.Forest

/-!
# One pass finds the subtree

A pass over the table marks a row when its parent is marked. Parents stand before their children, so
a row is looked at when its parent's mark is already final: after the rows before a place have been
looked at, the marked rows are the roots and the rows before this place that lie below one. Nothing
before the first root lies below any, which is why the pass may start there.
-/
namespace StaticTables.Hierarchy

variable {α : Type}

/-- A row belongs to the subtree of some roots if its chain of parents meets one of them that lies
in the table. -/
def InSubtree (h : Hierarchy α) (table : Table α) (roots : List (Ref α)) (row : RowId) : Prop :=
  ∃ root ∈ roots, root.index < table.size ∧ h.Reaches table row root.row

/-! ## Marks -/

namespace Membership

theorem getD_setIfInBounds_iff {marks : Array Bool} {i j : Nat} :
    (marks.setIfInBounds i true).getD j false = true ↔
      marks.getD j false = true ∨ j = i ∧ j < marks.size := by
  simp only [Array.getD_eq_getD_getElem?, Array.getElem?_setIfInBounds]
  by_cases hij : i = j
  · obtain rfl := hij
    by_cases hsize : i < marks.size <;> simp [hsize]
  · simp [hij, Ne.symm hij]

theorem getD_foldl_setIfInBounds_iff {roots : List (Ref α)} {marks : Array Bool} {j : Nat} :
    (roots.foldl (fun a r => a.setIfInBounds r.index true) marks).getD j false = true ↔
      marks.getD j false = true ∨ j < marks.size ∧ ∃ root ∈ roots, root.index = j := by
  induction roots generalizing marks with
  | nil => simp
  | cons root roots ih =>
    rw [List.foldl_cons, ih, getD_setIfInBounds_iff, Array.size_setIfInBounds]
    simp only [List.exists_mem_cons_iff]
    tauto

theorem size_foldl_setIfInBounds {roots : List (Ref α)} {marks : Array Bool} :
    (roots.foldl (fun a r => a.setIfInBounds r.index true) marks).size = marks.size := by
  induction roots generalizing marks with
  | nil => rfl
  | cons root roots ih => rw [List.foldl_cons, ih, Array.size_setIfInBounds]

theorem mem_rows_iff {m : Membership} {row : RowId} : row ∈ m.rows ↔ m.holds (⟨row⟩ : Ref α) := by
  have hmark : m.holds (⟨row⟩ : Ref α) = true ↔ m.members.toList[row.index]? = some true := by
    rw [holds, Array.getD_eq_getD_getElem?, Array.getElem?_toList, Ref.index]
    cases m.members[row.index]? <;> simp
  rw [hmark, rows, List.mem_filterMap]
  constructor
  · intro hin
    obtain ⟨⟨member, i⟩, hmem, hrow⟩ := hin
    obtain ⟨rfl, hindex⟩ := Option.ite_none_right_eq_some.mp hrow
    rw [RowId.ofIndex?_eq_some_iff.mp hindex]
    exact List.mk_mem_zipIdx_iff_getElem?.mp hmem
  · intro hget
    exact ⟨(true, row.index), List.mk_mem_zipIdx_iff_getElem?.mpr hget, RowId.ofIndex?_index row⟩

theorem rows_ascending (m : Membership) : m.rows.Pairwise (· < ·) := by
  have hplaces : m.members.toList.zipIdx.Pairwise fun a b => a.2 < b.2 := by
    rw [← List.pairwise_map, List.zipIdx_map_snd]
    exact List.pairwise_lt_range'
  refine hplaces.filterMap _ fun a b hab row hrow row' hrow' => ?_
  have hindex := RowId.ofIndex?_eq_some_iff.mp (Option.ite_none_right_eq_some.mp hrow).2
  have hindex' := RowId.ofIndex?_eq_some_iff.mp (Option.ite_none_right_eq_some.mp hrow').2
  show row.index < row'.index
  rw [hindex, hindex']
  exact hab

end Membership

/-! ## The start of the pass -/

section Start

variable {table : Table α} {roots : List (Ref α)}

theorem holds_ofRoots_iff {row : RowId} :
    (ofRoots table roots).holds (⟨row⟩ : Ref α) ↔ row.index < table.size ∧ ⟨row⟩ ∈ roots := by
  have hfresh : (Array.replicate table.size false).getD row.index false = false := by
    rw [Array.getD_eq_getD_getElem?, Array.getElem?_replicate]
    split <;> rfl
  have hroot : (∃ root ∈ roots, root.index = row.index) ↔ ⟨row⟩ ∈ roots := by
    constructor
    · intro hsome
      obtain ⟨root, hmem, hindex⟩ := hsome
      obtain rfl : root = ⟨row⟩ := Ref.ext (RowId.ext hindex)
      exact hmem
    · intro hmem
      exact ⟨⟨row⟩, hmem, rfl⟩
  rw [Membership.holds, ofRoots, Ref.index, Membership.getD_foldl_setIfInBounds_iff, hfresh,
    Array.size_replicate, hroot]
  simp

/-- The first root is the greatest lower bound of the roots in the table. -/
theorem le_firstRoot_iff {n : Nat} :
    n ≤ firstRoot table roots ↔
      n ≤ table.size ∧ ∀ root ∈ roots, root.index < table.size → n ≤ root.index := by
  unfold firstRoot
  suffices hfold : ∀ first, n ≤ roots.foldl
      (fun n r => if r.index < table.size then min n r.index else n) first ↔
        n ≤ first ∧ ∀ root ∈ roots, root.index < table.size → n ≤ root.index from hfold _
  induction roots with
  | nil => simp
  | cons root roots ih =>
    intro first
    rw [List.foldl_cons, ih, List.forall_mem_cons]
    by_cases hroot : root.index < table.size
    · simp [hroot, and_assoc]
    · simp [hroot]

end Start

/-! ## The invariant of the pass -/

/-- Before the rows from `n` on are looked at, the roots are marked, and so are the rows before `n`
that belong to the subtree. -/
structure MarkedUpTo (h : Hierarchy α) (table : Table α) (roots : List (Ref α)) (n : Nat)
    (m : Membership) : Prop where
  size_eq : m.members.size = table.size
  holds_iff : ∀ row, m.holds (⟨row⟩ : Ref α) ↔
    (row.index < table.size ∧ ⟨row⟩ ∈ roots) ∨ (row.index < n ∧ h.InSubtree table roots row)

section Pass

variable {h : Hierarchy α} {table : Table α} {roots : List (Ref α)}

theorem inSubtree_of_root {row : RowId} (hrow : row.index < table.size) (hmem : ⟨row⟩ ∈ roots) :
    h.InSubtree table roots row :=
  ⟨⟨row⟩, hmem, hrow, .refl⟩

/-- A row of the table belongs to the subtree if it is a root or its parent belongs. -/
theorem inSubtree_iff_of_record {row : RowId} {r : Record α} (hr : table.record? row = some r)
    (roots : List (Ref α)) :
    h.InSubtree table roots row ↔
      (row.index < table.size ∧ ⟨row⟩ ∈ roots) ∨
        ∃ up, h.parentRef r = some up ∧ h.InSubtree table roots up.row := by
  have hrow : row.index < table.size := Table.lt_size_of_record hr
  unfold InSubtree
  simp only [reaches_iff_of_record hr]
  constructor
  · intro hin
    obtain ⟨root, hmem, hsize, hchain⟩ := hin
    rcases hchain with rfl | ⟨up, hup, hreach⟩
    · exact .inl ⟨hrow, hmem⟩
    · exact .inr ⟨up, hup, root, hmem, hsize, hreach⟩
  · intro hin
    rcases hin with ⟨-, hmem⟩ | ⟨up, hup, root, hmem, hsize, hreach⟩
    · exact ⟨⟨row⟩, hmem, hrow, .inl rfl⟩
    · exact ⟨root, hmem, hsize, .inr ⟨up, hup, hreach⟩⟩

theorem InSubtree.lt_size {row : RowId} (hrow : h.InSubtree table roots row) :
    row.index < table.size := by
  obtain ⟨root, -, hroot, hreach⟩ := hrow
  rcases Relation.ReflTransGen.cases_head hreach with rfl | ⟨up, hup, -⟩
  · exact hroot
  · exact hup.child_lt

theorem Ordered.markedUpTo_ofRoots (ordered : h.Ordered table) (roots : List (Ref α)) :
    h.MarkedUpTo table roots (firstRoot table roots) (ofRoots table roots) where
  size_eq := by rw [ofRoots, Membership.size_foldl_setIfInBounds, Array.size_replicate]
  holds_iff row := by
    rw [holds_ofRoots_iff]
    constructor
    · exact .inl
    · intro hmarked
      rcases hmarked with hroot | ⟨hlt, root, hmem, hsize, hreach⟩
      · exact hroot
      · -- nothing before the first root reaches a root
        have hfirst := (le_firstRoot_iff.mp le_rfl).2 root hmem hsize
        have hle := ordered.reaches_le hreach
        have : root.index = root.row.index := rfl
        omega

/-- A record joins exactly if its row lies below a root: its parent stands before it, so the
parent's mark is final. -/
theorem Ordered.joins_iff (ordered : h.Ordered table) {m : Membership} {r : Record α}
    (hr : r ∈ table.records) (marked : h.MarkedUpTo table roots r.row.index m) :
    h.joins m r ↔ ∃ up, h.parentRef r = some up ∧ h.InSubtree table roots up.row := by
  unfold joins
  cases hup : h.parentRef r with
  | none => simp
  | some up =>
    obtain ⟨hlt, -⟩ := ordered.parent_step (Table.mem_records_iff.mp hr) hup
    show m.holds (⟨up.row⟩ : Ref α) ↔ _
    rw [marked.holds_iff]
    constructor
    · intro hmarked
      rcases hmarked with ⟨hsize, hmem⟩ | ⟨-, hin⟩
      · exact ⟨up, rfl, inSubtree_of_root hsize hmem⟩
      · exact ⟨up, rfl, hin⟩
    · intro hbelow
      obtain ⟨_, hsome, hin⟩ := hbelow
      obtain rfl := Option.some.inj hsome
      exact .inr ⟨hlt, hin⟩

/-- One row further there is only that row besides the rows before. -/
theorem index_lt_succ_and_iff {p : RowId → Prop} {last row : RowId} :
    row.index < last.index + 1 ∧ p row ↔
      (row.index < last.index ∧ p row) ∨ (row = last ∧ p last) := by
  rw [Nat.lt_succ_iff_lt_or_eq, or_and_right]
  refine or_congr_right ⟨?_, ?_⟩
  · intro h
    obtain ⟨hindex, hrow⟩ := h
    obtain rfl := RowId.ext hindex
    exact ⟨rfl, hrow⟩
  · intro h
    obtain ⟨rfl, hrow⟩ := h
    exact ⟨rfl, hrow⟩

theorem Ordered.markedUpTo_pass (ordered : h.Ordered table) {m : Membership} {r : Record α}
    (hr : r ∈ table.records) (marked : h.MarkedUpTo table roots r.row.index m) :
    h.MarkedUpTo table roots (r.row.index + 1) (h.pass m r) := by
  have hrecord := Table.mem_records_iff.mp hr
  have hsize : r.row.index < table.size := Table.lt_size_of_record hrecord
  have hjoins := ordered.joins_iff hr marked
  have hrow := inSubtree_iff_of_record (h := h) hrecord roots
  rw [← hjoins] at hrow
  unfold pass
  by_cases hjoin : h.joins m r
  · rw [if_pos hjoin]
    refine ⟨by rw [Array.size_setIfInBounds, marked.size_eq], fun row => ?_⟩
    have hin := hrow.mpr (.inr hjoin)
    rw [index_lt_succ_and_iff, ← or_assoc, ← marked.holds_iff]
    refine Membership.getD_setIfInBounds_iff.trans (or_congr_right ⟨?_, ?_⟩)
    · intro hplace
      obtain ⟨hindex, -⟩ := hplace
      exact ⟨RowId.ext hindex, hin⟩
    · intro hrow
      obtain ⟨rfl, -⟩ := hrow
      exact ⟨rfl, marked.size_eq.symm ▸ hsize⟩
  · rw [if_neg hjoin]
    refine ⟨marked.size_eq, fun row => ?_⟩
    rw [index_lt_succ_and_iff, ← or_assoc, ← marked.holds_iff]
    -- a row that does not join belongs only as a root, and roots are marked from the start
    refine (or_iff_left_of_imp ?_).symm
    intro hlast
    obtain ⟨rfl, hin⟩ := hlast
    exact (marked.holds_iff _).mpr (.inl ((hrow.mp hin).resolve_right hjoin))

theorem Ordered.markedUpTo_foldl (ordered : h.Ordered table) {l : List (Record α)} {n : Nat}
    {m : Membership} (hl : table.records.drop n = l) (marked : h.MarkedUpTo table roots n m) :
    h.MarkedUpTo table roots (n + l.length) (l.foldl h.pass m) := by
  induction l generalizing n m with
  | nil => exact marked
  | cons r l ih =>
    -- the first of the records that are left is that of row `n`
    obtain ⟨hr, rfl⟩ := Table.row_of_drop_records hl
    rw [List.foldl_cons, List.length_cons, Nat.add_comm l.length, ← Nat.add_assoc]
    refine ih ?_ (ordered.markedUpTo_pass hr marked)
    rw [← List.drop_drop, hl]
    rfl

theorem Ordered.holds_spread_iff (ordered : h.Ordered table) (roots : List (Ref α)) (row : RowId) :
    (h.spread table roots).holds (⟨row⟩ : Ref α) ↔ h.InSubtree table roots row := by
  have marked := ordered.markedUpTo_foldl rfl (ordered.markedUpTo_ofRoots roots)
  have hend : firstRoot table roots + (table.records.drop (firstRoot table roots)).length =
      table.size := by
    have hle : firstRoot table roots ≤ table.size := (le_firstRoot_iff.mp le_rfl).1
    rw [List.length_drop, Table.length_records]
    omega
  rw [hend] at marked
  rw [spread, marked.holds_iff]
  constructor
  · intro hmarked
    rcases hmarked with ⟨hsize, hmem⟩ | ⟨-, hin⟩
    · exact inSubtree_of_root hsize hmem
    · exact hin
  · intro hin
    exact .inr ⟨hin.lt_size, hin⟩

/-- The pass lists the rows of the subtree in table order. -/
theorem Ordered.subtree_selects (ordered : h.Ordered table) (roots : List (Ref α)) :
    ∃ rows, ((subtree table roots).run h).result = .ok rows ∧
      (∀ row, row ∈ rows.ids ↔ h.InSubtree table roots row) ∧ rows.ids.Pairwise (· < ·) := by
  refine ⟨_, rfl, fun row => ?_, ?_⟩
  · rw [Rows.ids_ofList]
    exact Membership.mem_rows_iff.trans (ordered.holds_spread_iff roots row)
  · rw [Rows.ids_ofList]
    exact Membership.rows_ascending _

end Pass

end StaticTables.Hierarchy
