import Mathlib
import StaticTables.Proofs.Hierarchy.Spread
import StaticTables.Proofs.Hierarchy.Trees

/-!
# Descendants

The pass over the table marks its roots before it starts and counts a row whenever the row's parent
is marked, whether or not the row was marked as a root already. So the count is that of the rows
which lie below a root, and these are what a second look at the marks selects. Rows before the first
root are not counted, and none of them lies below a root.
-/
namespace StaticTables.Hierarchy

variable {α : Type} {h : Hierarchy α} {table : Table α} {roots : List (Ref α)}

/-! ## Proper ancestors -/

/-- The second row is a proper ancestor of the first: following parents at least once leads to
it. -/
def Below (h : Hierarchy α) (table : Table α) : RowId → RowId → Prop :=
  Relation.TransGen (h.HasParent table)

theorem below_iff_of_record {row top : RowId} {r : Record α} (hr : table.record? row = some r) :
    h.Below table row top ↔ ∃ up, h.parentRef r = some up ∧ h.Reaches table up.row top := by
  rw [Below, Relation.TransGen.head'_iff]
  constructor
  · intro hbelow
    obtain ⟨up, ⟨r', hr', hup⟩, habove⟩ := hbelow
    obtain rfl := Option.some.inj (hr.symm.trans hr')
    exact ⟨⟨up⟩, hup, habove⟩
  · intro hbelow
    obtain ⟨up, hup, habove⟩ := hbelow
    exact ⟨up.row, ⟨r, hr, hup⟩, habove⟩

theorem reaches_iff_eq_or_below {row top : RowId} :
    h.Reaches table row top ↔ row = top ∨ h.Below table row top := by
  rw [Reaches, Relation.reflTransGen_iff_eq_or_transGen, eq_comm, Below]

theorem Below.lt_size {row top : RowId} (hbelow : h.Below table row top) :
    row.index < table.size := by
  obtain ⟨up, hup, -⟩ := Relation.TransGen.head'_iff.mp hbelow
  exact hup.child_lt

theorem Ordered.below_lt (ordered : h.Ordered table) {row top : RowId}
    (hbelow : h.Below table row top) : top < row := by
  obtain ⟨up, hup, habove⟩ := Relation.TransGen.head'_iff.mp hbelow
  exact Nat.lt_of_le_of_lt (ordered.reaches_le habove) (ordered.hasParent_lt hup).1

/-- The proper ancestors of a row are the steps of its way up. -/
theorem Lineage.mem_iff_below {row last : RowId} {chain : List (Ref α)}
    (lineage : h.Lineage table row chain last) {top : RowId} :
    ⟨top⟩ ∈ chain ↔ h.Below table row top := by
  induction lineage with
  | root hroot =>
    constructor
    · intro hmem
      simp at hmem
    · intro hbelow
      obtain ⟨up, hup, -⟩ := Relation.TransGen.head'_iff.mp hbelow
      exact absurd hup hroot.not_hasParent
  | @child row last up chain step above ih =>
    obtain ⟨r, hr, hparent⟩ := step
    rw [below_iff_of_record hr, List.mem_cons, ih, hparent]
    simp only [Option.some.injEq, exists_eq_left', reaches_iff_eq_or_below]
    refine or_congr_left ⟨?_, ?_⟩
    · intro htop
      exact congrArg Ref.row htop.symm
    · intro htop
      exact Ref.ext htop.symm

/-- A row of the table is asked for its ancestors with the proper ones as the answer. -/
theorem Ordered.exists_ancestors (ordered : h.Ordered table) {row : Ref α}
    (hrow : row.index < table.size) :
    ∃ chain, h.ancestors table row = .ok chain ∧
      ∀ top, top ∈ chain ↔ h.Below table row.row top.row := by
  obtain ⟨chain, last, lineage⟩ := ordered.exists_lineage hrow
  exact ⟨chain, ordered.ancestors_eq lineage, fun _ => lineage.mem_iff_below⟩

/-! ## What joins -/

/-- A row lies below the roots if one of those in the table is a proper ancestor of it. -/
def LiesBelow (h : Hierarchy α) (table : Table α) (roots : List (Ref α)) (row : RowId) : Prop :=
  ∃ root ∈ roots, root.index < table.size ∧ h.Below table row root.row

/-- A row lies below the roots exactly if one of them is among its ancestors. -/
theorem Ordered.exists_ancestors_liesBelow_iff (ordered : h.Ordered table) {row : Ref α}
    (hrow : row.index < table.size) :
    ∃ chain, h.ancestors table row = .ok chain ∧
      (h.LiesBelow table roots row.row ↔ ∃ root ∈ roots, root ∈ chain) := by
  obtain ⟨chain, hchain, hmem⟩ := ordered.exists_ancestors hrow
  refine ⟨chain, hchain, exists_congr fun root => and_congr_right fun _ => ?_⟩
  rw [hmem]
  refine and_iff_right_of_imp fun hbelow => ?_
  have hlt : root.index < row.index := ordered.below_lt hbelow
  exact hlt.trans hrow

theorem inSubtree_iff {row : RowId} :
    h.InSubtree table roots row ↔
      (row.index < table.size ∧ ⟨row⟩ ∈ roots) ∨ h.LiesBelow table roots row := by
  unfold InSubtree LiesBelow
  simp only [reaches_iff_eq_or_below]
  constructor
  · intro hin
    obtain ⟨root, hroot, hsize, rfl | hbelow⟩ := hin
    · exact .inl ⟨hsize, hroot⟩
    · exact .inr ⟨root, hroot, hsize, hbelow⟩
  · intro hin
    rcases hin with ⟨hsize, hroot⟩ | ⟨root, hroot, hsize, hbelow⟩
    · exact ⟨⟨row⟩, hroot, hsize, .inl rfl⟩
    · exact ⟨root, hroot, hsize, .inr hbelow⟩

theorem liesBelow_iff_of_record {r : Record α} (hr : r ∈ table.records) :
    h.LiesBelow table roots r.row ↔
      ∃ up, h.parentRef r = some up ∧ h.InSubtree table roots up.row := by
  unfold LiesBelow InSubtree
  simp only [below_iff_of_record (Table.mem_records_iff.mp hr)]
  constructor
  · intro hbelow
    obtain ⟨root, hroot, hsize, up, hup, habove⟩ := hbelow
    exact ⟨up, hup, root, hroot, hsize, habove⟩
  · intro hbelow
    obtain ⟨up, hup, root, hroot, hsize, habove⟩ := hbelow
    exact ⟨root, hroot, hsize, up, hup, habove⟩

/-- With the marks of the whole pass, the records that would join are those below a root. -/
theorem Ordered.joins_spread_iff (ordered : h.Ordered table) {r : Record α}
    (hr : r ∈ table.records) :
    h.joins (h.spread table roots) r ↔ h.LiesBelow table roots r.row := by
  rw [liesBelow_iff_of_record hr]
  unfold joins
  cases h.parentRef r with
  | none => simp
  | some up =>
    simp only [Option.some.injEq, exists_eq_left']
    exact ordered.holds_spread_iff roots up.row

/-- The rows of the table that lie below the roots, as the marks tell them. -/
def rowsBelow (h : Hierarchy α) (table : Table α) (roots : List (Ref α)) : List RowId :=
  (table.records.filter (h.joins (h.spread table roots))).map Record.row

theorem Ordered.mem_rowsBelow_iff (ordered : h.Ordered table) {row : RowId} :
    row ∈ h.rowsBelow table roots ↔ h.LiesBelow table roots row := by
  simp only [rowsBelow, List.mem_map, List.mem_filter]
  constructor
  · intro hrow
    obtain ⟨r, ⟨hr, hjoins⟩, rfl⟩ := hrow
    exact (ordered.joins_spread_iff hr).mp hjoins
  · intro hbelow
    have hrow : row.index < table.size := by
      obtain ⟨root, -, -, habove⟩ := hbelow
      exact habove.lt_size
    obtain ⟨r, hr⟩ := table.exists_record hrow
    obtain rfl := Table.row_eq_of_record? hr
    have hmem := Table.mem_records_iff.mpr hr
    exact ⟨r, ⟨hmem, (ordered.joins_spread_iff hmem).mpr hbelow⟩, rfl⟩

theorem rowsBelow_ascending (h : Hierarchy α) (table : Table α) (roots : List (Ref α)) :
    (h.rowsBelow table roots).Pairwise (· < ·) :=
  List.pairwise_map.mpr (table.records_ascending.filter _)

/-- Nothing before the first root lies below one. -/
theorem Ordered.firstRoot_le_of_liesBelow (ordered : h.Ordered table) {row : RowId}
    (hbelow : h.LiesBelow table roots row) : firstRoot table roots ≤ row.index := by
  obtain ⟨root, hroot, hsize, habove⟩ := hbelow
  have hfirst := (le_firstRoot_iff.mp le_rfl).2 root hroot hsize
  exact hfirst.trans (Nat.le_of_lt (ordered.below_lt habove))

/-! ## How many join -/

/-- A pass over the rest of the table counts the records that lie below a root. -/
theorem Ordered.added_foldl (ordered : h.Ordered table) {l : List (Record α)} {n : Nat}
    {m : Membership} (hl : table.records.drop n = l) (marked : h.MarkedUpTo table roots n m) :
    (l.foldl h.pass m).added = m.added + (l.filter (h.joins (h.spread table roots))).length := by
  induction l generalizing n m with
  | nil => simp
  | cons r l ih =>
    obtain ⟨hr, rfl⟩ := Table.row_of_drop_records hl
    -- the parent's mark is final already, so the record joins now if it would join at the end
    have hjoins : h.joins m r = h.joins (h.spread table roots) r := by
      rw [Bool.eq_iff_iff, ordered.joins_spread_iff hr, liesBelow_iff_of_record hr]
      exact ordered.joins_iff hr marked
    have hrest : table.records.drop (r.row.index + 1) = l := by
      rw [← List.drop_drop, hl]
      rfl
    rw [List.foldl_cons, ih hrest (ordered.markedUpTo_pass hr marked), pass, List.filter_cons,
      ← hjoins]
    by_cases hjoin : h.joins m r
    · simp [hjoin]
      omega
    · simp [hjoin]

theorem Ordered.added_spread (ordered : h.Ordered table) (roots : List (Ref α)) :
    (h.spread table roots).added = (h.rowsBelow table roots).length := by
  have hbefore : (table.records.take (firstRoot table roots)).filter
      (h.joins (h.spread table roots)) = [] := by
    rw [List.filter_eq_nil_iff]
    intro r hr hjoins
    have hmem := List.mem_of_mem_take hr
    have hle := ordered.firstRoot_le_of_liesBelow ((ordered.joins_spread_iff hmem).mp hjoins)
    have hlt := Table.lt_of_mem_take_records hr
    omega
  have hcount := ordered.added_foldl rfl (ordered.markedUpTo_ofRoots roots)
  rw [rowsBelow, List.length_map, ← List.take_append_drop (firstRoot table roots) table.records,
    List.filter_append, hbefore, List.nil_append]
  simpa [ofRoots, spread] using hcount

/-! ## Where the pass starts -/

theorem firstRoot_isLeast (hsome : ∃ root ∈ roots, root.index < table.size) :
    IsLeast {i | i < table.size ∧ ∃ root ∈ roots, root.index = i} (firstRoot table roots) := by
  have hlower : firstRoot table roots ≤ table.size ∧ ∀ root ∈ roots, root.index < table.size →
      firstRoot table roots ≤ root.index := le_firstRoot_iff.mp le_rfl
  constructor
  · -- if no root stood there, every root would stand further on
    by_contra hnone
    obtain ⟨root, hroot, hsize⟩ := hsome
    have hbeyond : firstRoot table roots + 1 ≤ firstRoot table roots := by
      apply le_firstRoot_iff.mpr
      constructor
      · have := hlower.2 root hroot hsize
        omega
      · intro other hother hin
        have hle := hlower.2 other hother hin
        have hne : other.index ≠ firstRoot table roots := fun heq =>
          hnone ⟨heq ▸ hin, other, hother, heq⟩
        omega
    omega
  · rintro i ⟨hi, root, hroot, rfl⟩
    exact hlower.2 root hroot hi

theorem firstRoot_of_outside (hnone : ∀ root ∈ roots, table.size ≤ root.index) :
    firstRoot table roots = table.size := by
  apply Nat.le_antisymm
  · exact (le_firstRoot_iff.mp le_rfl).1
  · apply le_firstRoot_iff.mpr
    exact ⟨le_rfl, fun root hroot hin => absurd (hnone root hroot) (Nat.not_le.mpr hin)⟩

/-! ## What both queries give -/

/-- The subtree of some roots and what lies below them, which are the rows with a root among their
ancestors. Both queries leave the hierarchy alone and log the same event, with the place of the
first root and the number of rows that lie below one. -/
structure Descent (h : Hierarchy α) (table : Table α) (roots : List (Ref α))
    (members below : Rows α) (start : Nat) : Prop where
  subtree_eq : (subtree table roots).run h =
    { result := .ok members, state := h,
      log := [.hierarchyPropagate table.name start below.ids.length] }
  descendants_eq : (descendants table roots).run h =
    { result := .ok below, state := h,
      log := [.hierarchyPropagate table.name start below.ids.length] }
  members_ascending : members.ids.Pairwise (· < ·)
  below_ascending : below.ids.Pairwise (· < ·)
  mem_below_iff : ∀ row, row ∈ below.ids ↔
    ∃ root ∈ roots, root.index < table.size ∧ h.Below table row root.row
  mem_below_iff_ancestors : ∀ row : Ref α, row.index < table.size → ∃ chain,
    h.ancestors table row = .ok chain ∧ (row.row ∈ below.ids ↔ ∃ root ∈ roots, root ∈ chain)
  mem_members_iff : ∀ row, row ∈ members.ids ↔
    (row.index < table.size ∧ ⟨row⟩ ∈ roots) ∨ row ∈ below.ids
  root_mem_below_iff : ∀ root ∈ roots, root.row ∈ below.ids ↔
    ∃ other ∈ roots, other ≠ root ∧ h.Below table root.row other.row
  start_isLeast : (∃ root ∈ roots, root.index < table.size) →
    IsLeast {i | i < table.size ∧ ∃ root ∈ roots, root.index = i} start
  start_of_outside : (∀ root ∈ roots, table.size ≤ root.index) → start = table.size

/-- A root lies below the roots exactly if it lies below another one of them. -/
theorem Ordered.liesBelow_root_iff (ordered : h.Ordered table) {root : Ref α} :
    h.LiesBelow table roots root.row ↔
      ∃ other ∈ roots, other ≠ root ∧ h.Below table root.row other.row := by
  constructor
  · intro hbelow
    obtain ⟨other, hother, -, habove⟩ := hbelow
    refine ⟨other, hother, ?_, habove⟩
    rintro rfl
    exact absurd (ordered.below_lt habove) (Nat.lt_irrefl _)
  · intro hbelow
    obtain ⟨other, hother, -, habove⟩ := hbelow
    have hlt : other.index < root.index := ordered.below_lt habove
    exact ⟨other, hother, hlt.trans habove.lt_size, habove⟩

theorem Ordered.exists_descent (ordered : h.Ordered table) (roots : List (Ref α)) :
    ∃ members below start, h.Descent table roots members below start := by
  have hmembers : (Rows.ofList table (h.spread table roots).rows).ids =
      (h.spread table roots).rows := Rows.ids_ofList ..
  have hbelow : (Rows.ofList table (h.rowsBelow table roots)).ids = h.rowsBelow table roots :=
    Rows.ids_ofList ..
  refine ⟨Rows.ofList table (h.spread table roots).rows,
    Rows.ofList table (h.rowsBelow table roots), firstRoot table roots, ?_⟩
  exact {
    subtree_eq := by rw [hbelow, ← ordered.added_spread]; rfl
    descendants_eq := by rw [hbelow, ← ordered.added_spread]; rfl
    members_ascending := by rw [hmembers]; exact Membership.rows_ascending _
    below_ascending := by rw [hbelow]; exact rowsBelow_ascending ..
    mem_below_iff := fun row => by rw [hbelow, ordered.mem_rowsBelow_iff]; rfl
    mem_below_iff_ancestors := fun row hrow => by
      rw [hbelow, ordered.mem_rowsBelow_iff]
      exact ordered.exists_ancestors_liesBelow_iff hrow
    mem_members_iff := fun row => by
      rw [hmembers, hbelow, ordered.mem_rowsBelow_iff, ← inSubtree_iff, ← ordered.holds_spread_iff]
      exact Membership.mem_rows_iff
    root_mem_below_iff := fun root _ => by
      rw [hbelow, ordered.mem_rowsBelow_iff, ordered.liesBelow_root_iff]
    start_isLeast := firstRoot_isLeast
    start_of_outside := firstRoot_of_outside }

/-- In a hierarchy that was built from a column of parents, whatever its settings and whatever the
roots: the rows below the roots are those that have one of the table's as a proper ancestor, and
with the roots of the table they make up the subtree. -/
theorem subtree_is_roots_and_descendants {settings : Settings} {name : String} {table : Table α}
    {parent : α → Option (Ref α)} {h : Hierarchy α}
    (built : ((build settings name table parent).run ()).result = .ok h) (roots : List (Ref α)) :
    (∀ r, h.parentRef r = parent r.value) ∧
      ∃ members below start, h.Descent table roots members below start :=
  ⟨parentRef_of_build built, (ordered_of_build built).exists_descent roots⟩

/-- The third row of the grove and one below it are given, in the wrong order and the one twice, and
a row that does not exist. -/
theorem subtree_is_roots_and_descendants_grove :
    ∃ h : Hierarchy (Option RowId),
      ((build {} "parent" grove (Option.map Ref.mk)).run ()).result = .ok h ∧
      (∀ r, h.parentRef r = r.value.map Ref.mk) ∧
      ∃ members below start, h.Descent grove
        [⟨{ index := 4 }⟩, ⟨{ index := 9 }⟩, ⟨{ index := 2 }⟩, ⟨{ index := 4 }⟩]
        members below start :=
  ⟨_, rfl, @subtree_is_roots_and_descendants _ {} "parent" grove (Option.map Ref.mk) _ rfl
    [⟨{ index := 4 }⟩, ⟨{ index := 9 }⟩, ⟨{ index := 2 }⟩, ⟨{ index := 4 }⟩]⟩

end StaticTables.Hierarchy
