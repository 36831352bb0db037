import Mathlib
import StaticTables.Proofs.Hierarchy.Lineage
import StaticTables.Proofs.Hierarchy.Spread
import StaticTables.Proofs.Table.Selection

/-!
# The trees of a hierarchy

Each row has one way up, to one root. So a hierarchy divides its table into trees, one for each
root, and of two subtrees that share a row the one contains the other: both tops lie on the way up
from this row, one of them above the other.
-/
namespace StaticTables.Hierarchy

variable {α : Type} {h : Hierarchy α} {table : Table α}

/-! ## Roots -/

theorem selected_roots (h : Hierarchy α) (table : Table α) :
    table.Selected (fun r => (h.parentRef r).isNone) (h.roots table) :=
  .of_ids rfl (Rows.ids_ofList ..)

theorem mem_roots_iff {row : RowId} : row ∈ (h.roots table).ids ↔ h.IsRoot table row := by
  rw [(selected_roots h table).mem_iff]
  constructor
  · intro hrow
    obtain ⟨r, hr, rfl, hroot⟩ := hrow
    exact ⟨r, Table.mem_records_iff.mp hr, Option.isNone_iff_eq_none.mp hroot⟩
  · intro root
    obtain ⟨r, hr, hnone⟩ := root
    obtain rfl := Table.row_eq_of_record? hr
    exact ⟨r, Table.mem_records_iff.mpr hr, rfl, Option.isNone_iff_eq_none.mpr hnone⟩

/-- Only a root itself is reached from it. -/
theorem IsRoot.eq_of_reaches {row top : RowId} (root : h.IsRoot table row)
    (hreach : h.Reaches table row top) : top = row := by
  rcases Relation.ReflTransGen.cases_head hreach with rfl | ⟨up, hup, -⟩
  · rfl
  · exact absurd hup root.not_hasParent

/-- Of two rows on one way up, one lies above the other. -/
theorem Reaches.total {row a b : RowId} (ha : h.Reaches table row a) (hb : h.Reaches table row b) :
    h.Reaches table a b ∨ h.Reaches table b a :=
  Relation.ReflTransGen.total_of_right_unique (fun _ _ _ => HasParent.unique) ha hb

theorem IsRoot.unique {row a b : RowId} (roota : h.IsRoot table a) (rootb : h.IsRoot table b)
    (ha : h.Reaches table row a) (hb : h.Reaches table row b) : a = b := by
  rcases ha.total hb with hab | hba
  · exact (roota.eq_of_reaches hab).symm
  · exact rootb.eq_of_reaches hba

/-! ## Ancestors and depth -/

/-- What is known about the rows above a row of the table. The way up is what the ancestors are,
however many are asked for, and its last row, or the row itself if it has no ancestor, is the one
root that contains the row. -/
structure Ancestry (h : Hierarchy α) (table : Table α) (row : Ref α) (chain : List (Ref α))
    (top : RowId) : Prop where
  lineage : h.Lineage table row.row chain top
  ancestors_eq : h.ancestors table row = .ok chain
  ancestorsUpTo_eq : ∀ limit, h.ancestorsUpTo table limit row = .ok (chain.take limit)
  descending : (row.row :: chain.map Ref.row).Pairwise fun below above => above < below
  depth_eq : h.depth table row = .ok chain.length
  depth_le : chain.length ≤ row.index
  depth_zero_iff : chain.length = 0 ↔ row.row ∈ (h.roots table).ids
  depth_succ : row.row ∉ (h.roots table).ids → ∃ (up : Ref α) (above : Nat),
    h.HasParent table row.row up.row ∧ h.depth table up = .ok above ∧ chain.length = above + 1
  top_eq : (row.row :: chain.map Ref.row).getLast? = some top
  top_mem : top ∈ (h.roots table).ids
  contains_eq : ∀ root ∈ (h.roots table).ids,
    h.contains table ⟨root⟩ row = .ok (decide (root = top))

theorem Ordered.exists_depth_succ (ordered : h.Ordered table) {row top : RowId}
    {chain : List (Ref α)} (lineage : h.Lineage table row chain top)
    (hrow : ¬ h.IsRoot table row) :
    ∃ (up : Ref α) (above : Nat), h.HasParent table row up.row ∧
      h.depth table up = .ok above ∧ chain.length = above + 1 := by
  cases lineage with
  | root top => exact absurd top hrow
  | child step above => exact ⟨_, _, step, ordered.depth_eq above, rfl⟩

theorem Ordered.contains_root_eq (ordered : h.Ordered table) {row : Ref α} {top root : RowId}
    {chain : List (Ref α)} (lineage : h.Lineage table row.row chain top)
    (hroot : h.IsRoot table root) :
    h.contains table ⟨root⟩ row = .ok (decide (root = top)) := by
  obtain ⟨answer, hanswer, hreach⟩ := ordered.contains_iff_reaches ⟨root⟩ row lineage.lt_size
  have hsame : h.Reaches table row.row root ↔ root = top := by
    constructor
    · exact fun habove => hroot.unique lineage.isRoot habove lineage.reaches
    · rintro rfl
      exact lineage.reaches
  rw [hanswer, Bool.eq_iff_iff.mpr (hreach.trans (hsame.trans decide_eq_true_iff.symm))]

theorem Ordered.exists_ancestry (ordered : h.Ordered table) {row : Ref α}
    (hrow : row.index < table.size) : ∃ chain top, h.Ancestry table row chain top := by
  obtain ⟨chain, top, lineage⟩ := ordered.exists_lineage hrow
  refine ⟨chain, top, ?_⟩
  exact {
    lineage
    ancestors_eq := ordered.ancestors_eq lineage
    ancestorsUpTo_eq := lineage.ancestorsUpTo_eq
    descending := ordered.lineage_descending lineage
    depth_eq := ordered.depth_eq lineage
    depth_le := ordered.length_lineage_le lineage
    depth_zero_iff := List.length_eq_zero_iff.trans (lineage.eq_nil_iff.trans mem_roots_iff.symm)
    depth_succ := fun hroot => ordered.exists_depth_succ lineage (mt mem_roots_iff.mpr hroot)
    top_eq := lineage.getLast?_eq
    top_mem := mem_roots_iff.mpr lineage.isRoot
    contains_eq := fun root hroot => ordered.contains_root_eq lineage (mem_roots_iff.mp hroot) }

/-! ## Subtrees -/

/-- The subtrees of single rows. Those of the roots share no row and leave none out, so together
they are the table, and any two that share a row are one inside the other. -/
structure Trees (h : Hierarchy α) (table : Table α) (tree : RowId → Rows α) : Prop where
  subtree_eq : ∀ top, ((subtree table [⟨top⟩]).run h).result = .ok (tree top)
  disjoint : (h.roots table).ids.Pairwise fun a b => (tree a).ids.Disjoint (tree b).ids
  cover : ∀ row : RowId, (∃ root ∈ (h.roots table).ids, row ∈ (tree root).ids) ↔
    row.index < table.size
  whole : ∃ rows, ((subtree table ((h.roots table).ids.map Ref.mk)).run h).result = .ok rows ∧
    rows.ids = table.rowIds
  laminar : ∀ a b, (tree a).ids.Disjoint (tree b).ids ∨ (tree a).ids ⊆ (tree b).ids ∨
    (tree b).ids ⊆ (tree a).ids

theorem inSubtree_singleton_iff {row top : RowId} :
    h.InSubtree table [⟨top⟩] row ↔ top.index < table.size ∧ h.Reaches table row top := by
  simp [InSubtree, Ref.index]

section Single

variable {tree : RowId → Rows α}
  (hmem : ∀ top row, row ∈ (tree top).ids ↔ h.InSubtree table [⟨top⟩] row)
include hmem

theorem disjoint_of_isRoot {a b : RowId} (roota : h.IsRoot table a) (rootb : h.IsRoot table b)
    (hne : a ≠ b) : (tree a).ids.Disjoint (tree b).ids := by
  intro row ha hb
  have hreacha := (inSubtree_singleton_iff.mp ((hmem a row).mp ha)).2
  have hreachb := (inSubtree_singleton_iff.mp ((hmem b row).mp hb)).2
  exact hne (roota.unique rootb hreacha hreachb)

theorem subset_of_reaches {a b : RowId} (hb : b.index < table.size) (hab : h.Reaches table a b) :
    (tree a).ids ⊆ (tree b).ids := by
  intro row hrow
  have hreach := (inSubtree_singleton_iff.mp ((hmem a row).mp hrow)).2
  exact (hmem b row).mpr (inSubtree_singleton_iff.mpr ⟨hb, hreach.trans hab⟩)

theorem disjoint_or_subset (a b : RowId) : (tree a).ids.Disjoint (tree b).ids ∨
    (tree a).ids ⊆ (tree b).ids ∨ (tree b).ids ⊆ (tree a).ids := by
  by_cases hshared : ∃ row, row ∈ (tree a).ids ∧ row ∈ (tree b).ids
  · obtain ⟨row, ha, hb⟩ := hshared
    obtain ⟨hsizea, hreacha⟩ := inSubtree_singleton_iff.mp ((hmem a row).mp ha)
    obtain ⟨hsizeb, hreachb⟩ := inSubtree_singleton_iff.mp ((hmem b row).mp hb)
    rcases hreacha.total hreachb with hab | hba
    · exact .inr (.inl (subset_of_reaches hmem hsizeb hab))
    · exact .inr (.inr (subset_of_reaches hmem hsizea hba))
  · exact .inl fun row ha hb => hshared ⟨row, ha, hb⟩

theorem Ordered.exists_root_iff (ordered : h.Ordered table) {row : RowId} :
    (∃ root ∈ (h.roots table).ids, row ∈ (tree root).ids) ↔ row.index < table.size := by
  constructor
  · intro hroot
    obtain ⟨root, -, hrow⟩ := hroot
    exact ((hmem root row).mp hrow).lt_size
  · intro hrow
    obtain ⟨chain, top, lineage⟩ := ordered.exists_lineage hrow
    refine ⟨top, mem_roots_iff.mpr lineage.isRoot, (hmem top row).mpr ?_⟩
    exact inSubtree_singleton_iff.mpr ⟨lineage.isRoot.lt_size, lineage.reaches⟩

end Single

theorem Ordered.subtree_roots (ordered : h.Ordered table) :
    ∃ rows, ((subtree table ((h.roots table).ids.map Ref.mk)).run h).result = .ok rows ∧
      rows.ids = table.rowIds := by
  obtain ⟨rows, hrun, hmem, hascending⟩ :=
    ordered.subtree_selects ((h.roots table).ids.map Ref.mk)
  refine ⟨rows, hrun, RowId.eq_of_ascending hascending table.rowIds_ascending fun row => ?_⟩
  rw [hmem, Table.mem_rowIds_iff]
  constructor
  · exact InSubtree.lt_size
  · intro hrow
    obtain ⟨chain, top, lineage⟩ := ordered.exists_lineage hrow
    exact ⟨⟨top⟩, List.mem_map_of_mem (mem_roots_iff.mpr lineage.isRoot), lineage.isRoot.lt_size,
      lineage.reaches⟩

theorem Ordered.exists_trees (ordered : h.Ordered table) : ∃ tree, h.Trees table tree := by
  choose tree hrun hmem _ using fun top : RowId => ordered.subtree_selects [⟨top⟩]
  refine ⟨tree, ?_⟩
  exact {
    subtree_eq := hrun
    disjoint := by
      refine (RowId.nodup_of_ascending (selected_roots h table).ascending).imp_of_mem ?_
      intro a b ha hb hne
      exact disjoint_of_isRoot hmem (mem_roots_iff.mp ha) (mem_roots_iff.mp hb) hne
    cover := fun _ => ordered.exists_root_iff hmem
    whole := ordered.subtree_roots
    laminar := disjoint_or_subset hmem }

/-! ## Hierarchies that were built -/

/-- In a hierarchy that was built from a column of parents, whatever its settings, every row of the
table has a way up that ends, and the table falls into the trees of its roots. -/
theorem forest_of_build {settings : Settings} {name : String} {table : Table α}
    {parent : α → Option (Ref α)} {h : Hierarchy α}
    (built : ((build settings name table parent).run ()).result = .ok h) :
    (∀ r, h.parentRef r = parent r.value) ∧
      (∀ row : Ref α, row.index < table.size → ∃ chain top, h.Ancestry table row chain top) ∧
        ∃ tree, h.Trees table tree := by
  have ordered := ordered_of_build built
  exact ⟨parentRef_of_build built, fun _ hrow => ordered.exists_ancestry hrow,
    ordered.exists_trees⟩

/-- Six rows in two trees that are not stored one behind the other: the rows of the second stand
between those of the first. -/
def grove : Table (Option RowId) where
  id := { value := 18 }
  name := "grove"
  origin := 0
  rows := #[none, none, RowId.ofIndex? 0, RowId.ofIndex? 1, RowId.ofIndex? 2, RowId.ofIndex? 1]
  size_le := by decide

/-- The fifth row has two ancestors. -/
theorem forest_of_build_grove :
    ∃ h : Hierarchy (Option RowId),
      ((build {} "parent" grove (Option.map Ref.mk)).run ()).result = .ok h ∧
      (∀ r, h.parentRef r = r.value.map Ref.mk) ∧
      (⟨{ index := 4 }⟩ : Ref (Option RowId)).index < grove.size ∧
      (∃ chain top, h.Ancestry grove ⟨{ index := 4 }⟩ chain top) ∧ ∃ tree, h.Trees grove tree := by
  have forest := @forest_of_build _ {} "parent" grove (Option.map Ref.mk) _ rfl
  exact ⟨_, rfl, forest.1, by decide, forest.2.1 ⟨{ index := 4 }⟩ (by decide), forest.2.2⟩

end StaticTables.Hierarchy
