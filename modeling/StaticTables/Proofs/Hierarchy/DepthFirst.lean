import Mathlib
import StaticTables.Proofs.Hierarchy.Descendants
import StaticTables.Proofs.Hierarchy.Preorder

/-!
# Tables in depth-first order

That parents stand before their children does not make a table a depth-first listing: the rows of
two subtrees may still stand between each other. It is one exactly if no row between a row and one
above it lies outside the latter's subtree. This can be seen from each row and the one before it,
from the walk down from all roots, and from the subtrees, which are then blocks of the table.
-/
namespace StaticTables.Hierarchy

variable {α : Type}

/-! ## Three descriptions -/

/-- A row that has a parent comes right behind it, or right behind a row that lies below it. -/
def DepthFirst (h : Hierarchy α) (table : Table α) : Prop :=
  ∀ row up, h.HasParent table row up →
    ∃ before : RowId, before.index + 1 = row.index ∧ (before = up ∨ h.Below table before up)

/-- The walk down from all roots enters the rows as they are stored. -/
def WalkedAsStored (h : Hierarchy α) (table : Table α) : Prop :=
  ∃ walked, ((subtreeByWalk table ((h.roots table).ids.map Ref.mk)).run h).result = .ok walked ∧
    walked.ids = table.rowIds

/-- The subtree of each row is the row itself and some rows right behind it. -/
def SubtreesAreBlocks (h : Hierarchy α) (table : Table α) : Prop :=
  ∀ row : RowId, row.index < table.size →
    ∃ rows behind, ((subtree table [⟨row⟩]).run h).result = .ok rows ∧
      rows.ids.map RowId.index = List.range' row.index (behind + 1)

/-- What stands between a row and one above it lies below the latter as well. -/
def Convex (h : Hierarchy α) (table : Table α) : Prop :=
  ∀ row between top : RowId, h.Reaches table row top → top.index ≤ between.index →
    between.index ≤ row.index → h.Reaches table between top

/-! ## Consecutive numbers -/

/-- A stretch of consecutive numbers consists of its first number and those that follow. -/
theorem exists_eq_range'_of_infix {l : List Nat} {a b n : Nat} (h : b :: l <:+: List.range' a n) :
    ∃ k, b :: l = List.range' b (k + 1) := by
  obtain ⟨before, after, happend⟩ := h
  obtain ⟨k, -, hbefore, -⟩ := List.range'_eq_append_iff.mp happend.symm
  obtain ⟨m, -, -, hl⟩ := List.range'_eq_append_iff.mp hbefore.symm
  obtain ⟨rfl, -, rfl⟩ := List.range'_eq_cons_iff.mp hl.symm
  exact ⟨_, List.range'_succ.symm⟩

variable {h : Hierarchy α} {table : Table α}

/-! ## Listings of several rows -/

theorem mem_childRows_iff {row child : RowId} :
    child ∈ h.childRows table row ↔ h.HasParent table child row := by
  rw [← rowsWith_reverse]
  exact mem_rowsWith_reverse_iff

/-- The first row stands before the second and is not above it. -/
def Aside (h : Hierarchy α) (table : Table α) (a b : RowId) : Prop :=
  a < b ∧ ¬ h.Reaches table b a

theorem Ordered.childRows_aside (ordered : h.Ordered table) (row : RowId) :
    (h.childRows table row).Pairwise (h.Aside table) := by
  have hascending : (h.childRows table row).Pairwise (· < ·) :=
    List.pairwise_map.mpr (table.records_ascending.filter _)
  refine hascending.imp_of_mem ?_
  intro a b ha hb hlt
  refine ⟨hlt, fun hreach => ?_⟩
  -- the way up from a child goes on with its parent, before which no child stands
  rcases reaches_iff_eq_or_below.mp hreach with rfl | hbelow
  · exact Nat.lt_irrefl _ hlt
  · obtain ⟨up, hup, habove⟩ := Relation.TransGen.head'_iff.mp hbelow
    obtain rfl := hup.unique (mem_childRows_iff.mp hb)
    have hle := ordered.reaches_le habove
    have hlt' : up < a := (ordered.hasParent_lt (mem_childRows_iff.mp ha)).1
    exact Nat.lt_irrefl _ (Nat.lt_of_lt_of_le hlt' hle)

theorem roots_aside (h : Hierarchy α) (table : Table α) :
    (h.roots table).ids.Pairwise (h.Aside table) := by
  refine (selected_roots h table).ascending.imp_of_mem ?_
  intro a b _ hb hlt
  refine ⟨hlt, fun hreach => ?_⟩
  obtain rfl := (mem_roots_iff.mp hb).eq_of_reaches hreach
  exact Nat.lt_irrefl _ hlt

section Pairs

variable {R : RowId → RowId → Prop}
  (down : ∀ {row below}, h.Below table below row → R row below)
  (across : ∀ {a b x y}, h.Aside table a b → h.Reaches table x a → h.Reaches table y b → R x y)
include across

theorem Ordered.pairwise_flatMap_listing (ordered : h.Ordered table) {rows : List RowId}
    (aside : rows.Pairwise (h.Aside table))
    (each : ∀ row ∈ rows, (h.listing table row).Pairwise R) :
    (rows.flatMap (h.listing table)).Pairwise R := by
  rw [List.pairwise_flatMap]
  refine ⟨each, aside.imp ?_⟩
  intro a b hab x hx y hy
  exact across hab (ordered.mem_listing_iff.mp hx) (ordered.mem_listing_iff.mp hy)

include down

/-- A listing keeps to an order if the rows below a row come after it, and the rows below one of two
siblings after those below the other. -/
theorem Ordered.pairwise_listing (ordered : h.Ordered table) (row : RowId) :
    (h.listing table row).Pairwise R := by
  induction hn : table.size - row.index using Nat.strong_induction_on generalizing row with
  | h n ih =>
    rw [ordered.preordered_listing row, List.pairwise_cons]
    constructor
    · intro below hbelow
      obtain ⟨child, hchild, hlisted⟩ := List.mem_flatMap.mp hbelow
      apply down
      exact Relation.TransGen.tail'_iff.mpr
        ⟨child, ordered.mem_listing_iff.mp hlisted, mem_childRows_iff.mp hchild⟩
    · apply ordered.pairwise_flatMap_listing across (ordered.childRows_aside row)
      intro child hchild
      have hparent := mem_childRows_iff.mp hchild
      have hlt : row.index < child.index := (ordered.hasParent_lt hparent).1
      have hsize := hparent.child_lt
      exact ih _ (by omega) child rfl

theorem Ordered.pairwise_listing_roots (ordered : h.Ordered table) :
    ((h.roots table).ids.flatMap (h.listing table)).Pairwise R :=
  ordered.pairwise_flatMap_listing across (roots_aside h table) fun row _ =>
    ordered.pairwise_listing down across row

end Pairs

/-! ## Each row is listed once -/

theorem Aside.ne {a b x y : RowId} (ordered : h.Ordered table) (aside : h.Aside table a b)
    (hx : h.Reaches table x a) (hy : h.Reaches table y b) : x ≠ y := by
  rintro rfl
  rcases hx.total hy with hab | hba
  · exact absurd aside.1 (Nat.not_lt.mpr (ordered.reaches_le hab))
  · exact aside.2 hba

theorem Ordered.below_ne (ordered : h.Ordered table) {row below : RowId}
    (hbelow : h.Below table below row) : row ≠ below := by
  rintro rfl
  exact Nat.lt_irrefl _ (ordered.below_lt hbelow)

theorem Ordered.nodup_listing (ordered : h.Ordered table) (row : RowId) :
    (h.listing table row).Nodup :=
  ordered.pairwise_listing ordered.below_ne (Aside.ne ordered) row

theorem Ordered.nodup_listing_roots (ordered : h.Ordered table) :
    ((h.roots table).ids.flatMap (h.listing table)).Nodup :=
  ordered.pairwise_listing_roots ordered.below_ne (Aside.ne ordered)

theorem Ordered.mem_listing_roots_iff (ordered : h.Ordered table) {row : RowId} :
    row ∈ (h.roots table).ids.flatMap (h.listing table) ↔ row.index < table.size := by
  simp only [List.mem_flatMap, mem_roots_iff, ordered.mem_listing_iff]
  constructor
  · intro hrow
    obtain ⟨root, hroot, hreach⟩ := hrow
    exact (inSubtree_singleton_iff.mpr ⟨hroot.lt_size, hreach⟩).lt_size
  · intro hrow
    obtain ⟨chain, top, lineage⟩ := ordered.exists_lineage hrow
    exact ⟨top, lineage.isRoot, lineage.reaches⟩

theorem Ordered.walk_from_roots (ordered : h.Ordered table) :
    ∃ walked, ((subtreeByWalk table ((h.roots table).ids.map Ref.mk)).run h).result = .ok walked ∧
      walked.ids = (h.roots table).ids.flatMap (h.listing table) := by
  obtain ⟨walked, hrun, hids⟩ := ordered.walk_lists_preorders ((h.roots table).ids.map Ref.mk)
  rw [List.flatMap_map, eraseDups_of_nodup ordered.nodup_listing_roots] at hids
  exact ⟨walked, hrun, hids⟩

theorem Ordered.walk_from_row (ordered : h.Ordered table) (row : RowId) :
    ∃ walked, ((subtreeByWalk table [⟨row⟩]).run h).result = .ok walked ∧
      walked.ids = h.listing table row := by
  obtain ⟨walked, hrun, hids⟩ := ordered.walk_lists_preorders [⟨row⟩]
  rw [List.flatMap_singleton, eraseDups_of_nodup (ordered.nodup_listing row)] at hids
  exact ⟨walked, hrun, hids⟩

/-! ## Convex tables are walked as they are stored -/

/-- From the row before a row the way up leads to all that lies above the row. -/
theorem DepthFirst.convex (depthFirst : h.DepthFirst table) : h.Convex table := by
  intro row between top hreach htop hrow
  induction hn : row.index using Nat.strong_induction_on generalizing row with
  | h n ih =>
    rcases Nat.eq_or_lt_of_le hrow with heq | hlt
    · obtain rfl := RowId.ext heq
      exact hreach
    · rcases reaches_iff_eq_or_below.mp hreach with rfl | hbelow
      · omega
      · obtain ⟨up, hup, habove⟩ := Relation.TransGen.head'_iff.mp hbelow
        obtain ⟨before, hbefore, hnear⟩ := depthFirst row up hup
        have hnext : h.Reaches table before top :=
          (reaches_iff_eq_or_below.mpr hnear).trans habove
        exact ih before.index (by omega) before hnext (by omega) rfl

theorem Convex.lt_of_aside (ordered : h.Ordered table) (convex : h.Convex table) {a b x y : RowId}
    (aside : h.Aside table a b) (hx : h.Reaches table x a) (hy : h.Reaches table y b) : x < y := by
  have hle := ordered.reaches_le hy
  -- otherwise `b` would stand between `x` and `a`
  have hlt : x.index < b.index := by
    by_contra hge
    exact aside.2 (convex x b a hx (Nat.le_of_lt aside.1) (Nat.le_of_not_lt hge))
  exact Nat.lt_of_lt_of_le hlt hle

theorem Convex.listing_ascending (ordered : h.Ordered table) (convex : h.Convex table)
    (row : RowId) : (h.listing table row).Pairwise (· < ·) :=
  ordered.pairwise_listing ordered.below_lt (convex.lt_of_aside ordered) row

theorem Convex.walkedAsStored (ordered : h.Ordered table) (convex : h.Convex table) :
    h.WalkedAsStored table := by
  obtain ⟨walked, hrun, hids⟩ := ordered.walk_from_roots
  have hascending : walked.ids.Pairwise (· < ·) := by
    rw [hids]
    exact ordered.pairwise_listing_roots ordered.below_lt (convex.lt_of_aside ordered)
  refine ⟨walked, hrun, RowId.eq_of_ascending hascending table.rowIds_ascending fun row => ?_⟩
  rw [hids, ordered.mem_listing_roots_iff, Table.mem_rowIds_iff]

/-! ## What is walked as it is stored has blocks as subtrees -/

/-- The listing of a row is a stretch of the listing of each row above it. -/
theorem Ordered.listing_infix (ordered : h.Ordered table) {row top : RowId}
    (hreach : h.Reaches table row top) : h.listing table row <:+: h.listing table top := by
  induction hreach with
  | refl => exact List.infix_rfl
  | @tail mid top _ hup ih =>
    have hmid := List.infix_flatMap_of_mem (mem_childRows_iff.mpr hup) (h.listing table)
    rw [ordered.preordered_listing top]
    exact ih.trans (hmid.trans (List.suffix_cons _ _).isInfix)

theorem Ordered.subtree_eq_listing (ordered : h.Ordered table) {row : RowId}
    (hrow : row.index < table.size) (hascending : (h.listing table row).Pairwise (· < ·)) :
    ∃ rows, ((subtree table [⟨row⟩]).run h).result = .ok rows ∧
      rows.ids = h.listing table row := by
  obtain ⟨rows, hrun, hmem, hsorted⟩ := ordered.subtree_selects [⟨row⟩]
  refine ⟨rows, hrun, RowId.eq_of_ascending hsorted hascending fun below => ?_⟩
  rw [hmem, inSubtree_singleton_iff, ordered.mem_listing_iff]
  exact and_iff_right hrow

theorem WalkedAsStored.subtreesAreBlocks (ordered : h.Ordered table)
    (stored : h.WalkedAsStored table) : h.SubtreesAreBlocks table := by
  intro row hrow
  have hroots : (h.roots table).ids.flatMap (h.listing table) = table.rowIds := by
    obtain ⟨walked, hrun, hids⟩ := ordered.walk_from_roots
    obtain ⟨walked', hrun', hids'⟩ := stored
    obtain rfl := Except.ok.inj (hrun.symm.trans hrun')
    exact hids.symm.trans hids'
  have hinfix : h.listing table row <:+: table.rowIds := by
    obtain ⟨chain, top, lineage⟩ := ordered.exists_lineage hrow
    have htop := List.infix_flatMap_of_mem (mem_roots_iff.mpr lineage.isRoot) (h.listing table)
    rw [hroots] at htop
    exact (ordered.listing_infix lineage.reaches).trans htop
  obtain ⟨rows, hrun, hids⟩ := ordered.subtree_eq_listing hrow
    (table.rowIds_ascending.sublist hinfix.sublist)
  have hmap := hinfix.map RowId.index
  rw [Table.map_index_rowIds, ordered.preordered_listing row, List.map_cons] at hmap
  obtain ⟨behind, hblock⟩ := exists_eq_range'_of_infix hmap
  refine ⟨rows, behind, hrun, ?_⟩
  rw [hids, ordered.preordered_listing row, List.map_cons, hblock]

/-! ## Blocks make a table depth-first -/

theorem SubtreesAreBlocks.depthFirst (ordered : h.Ordered table)
    (blocks : h.SubtreesAreBlocks table) : h.DepthFirst table := by
  intro row up hup
  obtain ⟨hlt, hsize⟩ := ordered.hasParent_lt hup
  obtain ⟨rows, behind, hrun, hblock⟩ := blocks up hsize
  obtain ⟨rows', hrun', hmem, -⟩ := ordered.subtree_selects [⟨up⟩]
  obtain rfl := Except.ok.inj (hrun.symm.trans hrun')
  have hrow : row ∈ rows.ids :=
    (hmem row).mpr (inSubtree_singleton_iff.mpr ⟨hsize, .single hup⟩)
  have hbounds : up.index < row.index ∧ row.index < up.index + (behind + 1) := by
    have hplace := List.mem_map_of_mem (f := RowId.index) hrow
    rw [hblock, List.mem_range'_1] at hplace
    exact ⟨hlt, hplace.2⟩
  -- the block goes on from the parent to the row without a gap
  have hbefore : row.index - 1 ∈ rows.ids.map RowId.index := by
    rw [hblock, List.mem_range'_1]
    omega
  obtain ⟨before, hbetween, hindex⟩ := List.mem_map.mp hbefore
  refine ⟨before, by omega, ?_⟩
  exact reaches_iff_eq_or_below.mp (inSubtree_singleton_iff.mp ((hmem before).mp hbetween)).2

/-! ## Hierarchies that were built -/

/-- In a hierarchy that was built from a column of parents, whatever its settings: the table is in
depth-first order exactly if the walk from all roots enters the rows as they are stored, and exactly
if all subtrees are blocks. Then the walk down from a row lists the same as the pass over the table
does. -/
theorem depthFirst_tfae {settings : Settings} {name : String} {table : Table α}
    {parent : α → Option (Ref α)} {h : Hierarchy α}
    (built : ((build settings name table parent).run ()).result = .ok h) :
    (∀ r, h.parentRef r = parent r.value) ∧
      List.TFAE [h.DepthFirst table, h.WalkedAsStored table, h.SubtreesAreBlocks table] ∧
        (h.DepthFirst table → ∀ row : RowId, row.index < table.size →
          ∃ rows walked, ((subtree table [⟨row⟩]).run h).result = .ok rows ∧
            ((subtreeByWalk table [⟨row⟩]).run h).result = .ok walked ∧ rows.ids = walked.ids) := by
  have ordered := ordered_of_build built
  refine ⟨parentRef_of_build built, ?_, ?_⟩
  · tfae_have 1 → 2 := fun depthFirst => depthFirst.convex.walkedAsStored ordered
    tfae_have 2 → 3 := fun stored => stored.subtreesAreBlocks ordered
    tfae_have 3 → 1 := fun blocks => blocks.depthFirst ordered
    tfae_finish
  · intro depthFirst row hrow
    obtain ⟨rows, hrun, hrows⟩ := ordered.subtree_eq_listing hrow
      (depthFirst.convex.listing_ascending ordered row)
    obtain ⟨walked, hwalk, hwalked⟩ := ordered.walk_from_row row
    exact ⟨rows, walked, hrun, hwalk, hrows.trans hwalked.symm⟩

/-- Eight chapters in the order of a book: the second has two sections, the first of them two
subsections, and the seventh has one section. -/
def book : Table (Option RowId) where
  id := { value := 21 }
  name := "book"
  origin := 0
  rows := #[none, none, RowId.ofIndex? 1, RowId.ofIndex? 2, RowId.ofIndex? 2, RowId.ofIndex? 1, none,
    RowId.ofIndex? 6]
  size_le := by decide

theorem depthFirst_book {h : Hierarchy (Option RowId)}
    (hread : h.parent.reference = Option.map Ref.mk) : h.DepthFirst book := by
  have hparent : ∀ row up : RowId, (book.record? row).bind Record.value = some up →
      h.HasParent book row up := by
    intro row up hrow
    obtain ⟨r, hr, hup⟩ := Option.bind_eq_some_iff.mp hrow
    exact ⟨r, hr, by rw [parentRef, hread, hup]; rfl⟩
  intro row up hup
  obtain ⟨r, hr, hvalue⟩ := hup
  rw [parentRef, hread] at hvalue
  obtain ⟨i, hi⟩ := row
  have hlt : i < 8 := Table.lt_size_of_record hr
  interval_cases i <;> cases hr <;> cases hvalue
  · exact ⟨{ index := 1 }, rfl, .inl rfl⟩
  · exact ⟨{ index := 2 }, rfl, .inl rfl⟩
  · exact ⟨{ index := 3 }, rfl, .inr (.single (hparent _ _ rfl))⟩
  · -- the sixth chapter stands behind the fifth, which lies below the second by way of the third
    exact ⟨{ index := 4 }, rfl, .inr (.tail (.single (hparent _ { index := 2 } rfl))
      (hparent _ _ rfl))⟩
  · exact ⟨{ index := 6 }, rfl, .inl rfl⟩

/-- The book is in depth-first order, so that its walk and its subtrees are as they should be. -/
theorem depthFirst_tfae_book :
    ∃ h : Hierarchy (Option RowId),
      ((build {} "parent" book (Option.map Ref.mk)).run ()).result = .ok h ∧
      (∀ r, h.parentRef r = r.value.map Ref.mk) ∧
      h.DepthFirst book ∧ h.WalkedAsStored book ∧ h.SubtreesAreBlocks book ∧
      ∀ row : RowId, row.index < book.size →
        ∃ rows walked, ((subtree book [⟨row⟩]).run h).result = .ok rows ∧
          ((subtreeByWalk book [⟨row⟩]).run h).result = .ok walked ∧ rows.ids = walked.ids := by
  let parent : Option RowId → Option (Ref (Option RowId)) := Option.map Ref.mk
  let h : Hierarchy (Option RowId) :=
    ⟨Relationship.ofValid {} { name := "parent", optionality := .optional } book book parent⟩
  have built : ((build {} "parent" book parent).run ()).result = .ok h := rfl
  have depthFirst : h.DepthFirst book := depthFirst_book rfl
  obtain ⟨hparent, tfae, same⟩ := depthFirst_tfae built
  exact ⟨h, built, hparent, depthFirst, (tfae.out 0 1).mp depthFirst,
    (tfae.out 0 2).mp depthFirst, same depthFirst⟩

end StaticTables.Hierarchy
