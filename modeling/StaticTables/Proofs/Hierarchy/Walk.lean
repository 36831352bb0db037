import Mathlib
import StaticTables.Hierarchy.Walk
import StaticTables.Proofs.Hierarchy.Forest

/-!
# A walk lists the subtree in pre-order

A walk that enters no row twice lists what a walk without memory would list, with every repetition
left out: when it meets a row that it has seen, everything below this row has been seen as well. A
row cannot be met again while the walk is still below it, since the way down never comes back.
-/
namespace StaticTables.Hierarchy

variable {α : Type}

/-! ## Appending what is new -/

section AppendNew

variable {β : Type} [BEq β] [LawfulBEq β]

/-- A list followed by the elements of another one that are not in it yet, each once. -/
def appendNew (seen l : List β) : List β := seen ++ (l.removeAll seen).eraseDups

omit [LawfulBEq β] in
@[simp] theorem appendNew_nil (l : List β) : appendNew [] l = l.eraseDups := by
  simp [appendNew]

theorem mem_removeAll_iff {seen l : List β} {b : β} : b ∈ l.removeAll seen ↔ b ∈ l ∧ b ∉ seen := by
  simp [List.removeAll]

theorem mem_appendNew_iff {seen l : List β} {b : β} : b ∈ appendNew seen l ↔ b ∈ seen ∨ b ∈ l := by
  rw [appendNew, List.mem_append, List.mem_eraseDups, mem_removeAll_iff]
  tauto

theorem appendNew_of_subset {seen l : List β} (h : ∀ b ∈ l, b ∈ seen) :
    appendNew seen l = seen := by
  have hnone : l.removeAll seen = [] := by
    rw [List.eq_nil_iff_forall_not_mem]
    intro b hb
    obtain ⟨hl, hseen⟩ := mem_removeAll_iff.mp hb
    exact hseen (h b hl)
  rw [appendNew, hnone, List.eraseDups_nil, List.append_nil]

/-- What a first list adds is there when a second one is looked at. -/
theorem appendNew_append (seen l l' : List β) :
    appendNew seen (l ++ l') = appendNew (appendNew seen l) l' := by
  have hsplit : (l ++ l').removeAll seen = l.removeAll seen ++ l'.removeAll seen :=
    List.filter_append ..
  have hrest : (l'.removeAll seen).removeAll (l.removeAll seen) =
      l'.removeAll (appendNew seen l) := by
    rw [List.removeAll, List.removeAll, List.removeAll, List.filter_filter]
    refine List.filter_congr fun b _ => ?_
    rw [Bool.eq_iff_iff]
    simp [mem_appendNew_iff]
    tauto
  rw [appendNew, hsplit, List.eraseDups_append, hrest, ← List.append_assoc, ← appendNew,
    ← appendNew]

theorem appendNew_cons {seen l : List β} {b : β} (hb : b ∉ seen) :
    appendNew seen (b :: l) = appendNew (seen ++ [b]) l := by
  have hone : appendNew seen [b] = seen ++ [b] := by
    simp [appendNew, List.removeAll, hb, List.eraseDups_cons]
  rw [← List.singleton_append, appendNew_append, hone]

theorem nodup_eraseDups (l : List β) : l.eraseDups.Nodup := by
  induction hn : l.length using Nat.strong_induction_on generalizing l with
  | h n ih =>
    cases l with
    | nil => exact List.nodup_nil
    | cons b l =>
      rw [List.eraseDups_cons, List.nodup_cons, List.mem_eraseDups, List.mem_filter]
      refine ⟨fun h => ?_, ih _ ?_ _ rfl⟩
      · simp at h
      · have := List.length_filter_le (fun c => !c == b) l
        rw [List.length_cons] at hn
        omega

theorem eraseDups_of_nodup {l : List β} (h : l.Nodup) : l.eraseDups = l := by
  induction l with
  | nil => rfl
  | cons b l ih =>
    obtain ⟨hb, hl⟩ := List.nodup_cons.mp h
    have hfilter : l.filter (fun c => !c == b) = l := by
      rw [List.filter_eq_self]
      intro c hc
      have hne : c ≠ b := fun heq => hb (heq ▸ hc)
      simpa using hne
    rw [List.eraseDups_cons, hfilter, ih hl]

end AppendNew

/-! ## The walk without memory -/

/-- A row, and then each child in turn with what lies below it. The bound is on the depth. -/
def preorder (children : RowId → List RowId) : Nat → RowId → List RowId
  | 0, _ => []
  | bound + 1, row => row :: (children row).flatMap (preorder children bound)

/-- Going on to children, zero or more times, leads from the first row to the second. -/
def LeadsTo (children : RowId → List RowId) : RowId → RowId → Prop :=
  Relation.ReflTransGen fun row child => child ∈ children row

section Walk

variable {children : RowId → List RowId} {rank : RowId → Nat}

theorem LeadsTo.rank_le (hrank : ∀ row, ∀ child ∈ children row, rank child < rank row)
    {row below : RowId} (h : LeadsTo children row below) : rank below ≤ rank row := by
  induction h with
  | refl => exact Nat.le_refl _
  | tail _ hchild ih => exact (hrank _ _ hchild).le.trans ih

theorem mem_preorder_iff (hrank : ∀ row, ∀ child ∈ children row, rank child < rank row)
    {bound : Nat} {row below : RowId} (hbound : rank row < bound) :
    below ∈ preorder children bound row ↔ LeadsTo children row below := by
  induction bound generalizing row with
  | zero => exact absurd hbound (Nat.not_lt_zero _)
  | succ bound ih =>
    rw [preorder, List.mem_cons, List.mem_flatMap, LeadsTo, Relation.ReflTransGen.cases_head_iff,
      eq_comm]
    refine or_congr_right (exists_congr fun child => and_congr_right fun hchild => ?_)
    exact ih (by have := hrank row child hchild; omega)

/-- Of each row at or below this one that has been seen, everything below it has been seen. -/
def SeenBelow (children : RowId → List RowId) (seen : List RowId) (row : RowId) : Prop :=
  ∀ top ∈ seen, LeadsTo children row top → ∀ below, LeadsTo children top below → below ∈ seen

/-- A walk over a list of rows lists what is new in their pre-orders, if a walk from one row does.
What the walk adds for one row is all that lies below it, so it leaves nothing half seen for the
rows that follow. -/
theorem foldl_visit_eq_appendNew {bound : Nat} {rows : List RowId}
    (hmem : ∀ row ∈ rows, ∀ below,
      below ∈ preorder children bound row ↔ LeadsTo children row below)
    (hvisit : ∀ row ∈ rows, ∀ seen, SeenBelow children seen row →
      visit children bound seen row = appendNew seen (preorder children bound row))
    {seen : List RowId} (hseen : ∀ row ∈ rows, SeenBelow children seen row) :
    rows.foldl (visit children bound) seen =
      appendNew seen (rows.flatMap (preorder children bound)) := by
  induction rows generalizing seen with
  | nil => exact (appendNew_of_subset fun _ hb => absurd hb List.not_mem_nil).symm
  | cons row rows ih =>
    rw [List.foldl_cons, List.flatMap_cons, appendNew_append,
      hvisit row List.mem_cons_self seen (hseen row List.mem_cons_self)]
    refine ih (fun r hr => hmem r (List.mem_cons_of_mem _ hr))
      (fun r hr => hvisit r (List.mem_cons_of_mem _ hr)) fun r hr top htop hlead below hbelow => ?_
    rw [mem_appendNew_iff] at htop ⊢
    -- seen before the walk from `row`, or listed by it
    rcases htop with hold | hnew
    · exact .inl (hseen r (List.mem_cons_of_mem _ hr) top hold hlead below hbelow)
    · have hrow := (hmem row List.mem_cons_self top).mp hnew
      exact .inr ((hmem row List.mem_cons_self below).mpr (hrow.trans hbelow))

theorem visit_eq_appendNew (hrank : ∀ row, ∀ child ∈ children row, rank child < rank row)
    {bound : Nat} {row : RowId} (hbound : rank row < bound) {seen : List RowId}
    (hseen : SeenBelow children seen row) :
    visit children bound seen row = appendNew seen (preorder children bound row) := by
  induction bound generalizing row seen with
  | zero => exact absurd hbound (Nat.not_lt_zero _)
  | succ bound ih =>
    rw [visit]
    by_cases hrow : row ∈ seen
    · -- nothing is entered, and all that lies below the row is there
      rw [if_pos hrow]
      refine (appendNew_of_subset fun below hbelow => ?_).symm
      exact hseen row hrow .refl below ((mem_preorder_iff hrank hbound).mp hbelow)
    · have hchild : ∀ child ∈ children row, rank child < bound := fun child h => by
        have := hrank row child h
        omega
      rw [if_neg hrow, preorder, appendNew_cons hrow]
      refine foldl_visit_eq_appendNew (fun child h below => mem_preorder_iff hrank (hchild child h))
        (fun child h seen => ih (hchild child h)) fun child h top htop hlead below hbelow => ?_
      rcases List.mem_append.mp htop with hold | hself
      · exact List.mem_append_left _ (hseen top hold (.head h hlead) below hbelow)
      · -- the row itself is not below its own child
        obtain rfl := List.mem_singleton.mp hself
        exact absurd (LeadsTo.rank_le hrank hlead) (Nat.not_le.mpr (hrank _ child h))

end Walk

/-! ## The reverse index of a hierarchy -/

section ReverseIndex

variable {h : Hierarchy α} {table : Table α}

/-- The reverse index of the parent column over the table. -/
def reverse (h : Hierarchy α) (table : Table α) : Index RowId :=
  Index.ofColumn table (Relationship.targetRow h.parent.reference)

theorem mem_rowsWith_reverse_iff {row child : RowId} :
    child ∈ (h.reverse table).rowsWith row ↔ h.HasParent table child row := by
  rw [reverse, Index.rowsWith_ofColumn, Table.mem_scan_iff]
  refine exists_congr fun r => and_congr_right fun _ => ?_
  constructor
  · intro hkey
    obtain ⟨up, hup, hsame⟩ := hkey
    obtain rfl : up = row := IndexKey.compareRow_eq_iff.mp (beq_iff_eq.mp hsame)
    obtain ⟨link, hlink, rfl⟩ := Option.map_eq_some_iff.mp hup
    exact hlink
  · intro hup
    exact ⟨row, Option.map_eq_some_iff.mpr ⟨⟨row⟩, hup, rfl⟩,
      beq_iff_eq.mpr (IndexKey.compareRow_eq_iff.mpr rfl)⟩

theorem leadsTo_reverse_iff {row below : RowId} :
    LeadsTo (h.reverse table).rowsWith row below ↔ h.Reaches table below row := by
  unfold LeadsTo Reaches
  simp only [mem_rowsWith_reverse_iff]
  exact Relation.reflTransGen_swap

/-- How many of the indexed rows stand behind a row. -/
def indexedBehind (h : Hierarchy α) (table : Table α) (row : RowId) : Nat :=
  ((h.reverse table).rows.toList.filter fun r => row < r).length

theorem indexedBehind_lt (row : RowId) :
    h.indexedBehind table row < (h.reverse table).size + 1 := by
  have hle : h.indexedBehind table row ≤ (h.reverse table).rows.toList.length :=
    List.length_filter_le ..
  exact Nat.lt_succ_of_le hle

/-- A child is an indexed row itself and stands behind its parent, so there is one row less behind
it. -/
theorem Ordered.indexedBehind_child_lt (ordered : h.Ordered table) (row : RowId) :
    ∀ child ∈ (h.reverse table).rowsWith row,
      h.indexedBehind table child < h.indexedBehind table row := by
  intro child hchild
  have hlt : row < child := by
    obtain ⟨r, hr, hup⟩ := mem_rowsWith_reverse_iff.mp hchild
    exact (ordered.parent_step hr hup).1
  have hfewer : ((h.reverse table).rows.toList.filter fun r => child < r) =
      ((h.reverse table).rows.toList.filter fun r => row < r).filter fun r => child < r := by
    rw [List.filter_filter]
    refine List.filter_congr fun r _ => ?_
    rw [Bool.eq_iff_iff, Bool.and_eq_true, decide_eq_true_eq, decide_eq_true_eq]
    exact ⟨fun hr => ⟨hr, Nat.lt_trans hlt hr⟩, And.left⟩
  have hmem : child ∈ (h.reverse table).rows.toList := by
    rw [Index.rowsWith, Array.toList_extract, List.extract_eq_take_drop] at hchild
    exact List.mem_of_mem_drop (List.mem_of_mem_take hchild)
  unfold indexedBehind
  rw [hfewer, List.length_filter_lt_length_iff_exists]
  refine ⟨child, List.mem_filter.mpr ⟨hmem, decide_eq_true hlt⟩, ?_⟩
  rw [decide_eq_true_eq]
  exact Nat.lt_irrefl _

/-- The pre-order of a row over the reverse index, with the bound of the walk. -/
def listing (h : Hierarchy α) (table : Table α) (row : RowId) : List RowId :=
  preorder (h.reverse table).rowsWith ((h.reverse table).size + 1) row

theorem Ordered.mem_listing_iff (ordered : h.Ordered table) {row below : RowId} :
    below ∈ h.listing table row ↔ h.Reaches table below row := by
  rw [listing, mem_preorder_iff ordered.indexedBehind_child_lt (indexedBehind_lt row),
    leadsTo_reverse_iff]

/-- The walk gives the rows that it has visited. -/
theorem Ordered.exists_visited (ordered : h.Ordered table) (roots : List (Ref α)) :
    ∃ rows, ((subtreeByWalk table roots).run h).result = .ok rows ∧
      rows.ids = (roots.map Ref.row).foldl
        (visit (h.reverse table).rowsWith ((h.reverse table).size + 1)) [] := by
  have hindex : ((Traced.within parent withParent (Relationship.index table)).run h).result =
      .ok (h.reverse table) := by
    rw [Traced.run_within]
    exact ordered.sourced.run_index.1
  cases roots with
  | nil => exact ⟨Rows.ofList table [], rfl, rfl⟩
  | cons root roots =>
    rw [subtreeByWalk, List.isEmpty_cons, if_neg Bool.false_ne_true, Traced.run_bind, hindex]
    exact ⟨_, rfl, Rows.ids_ofList ..⟩

/-- The walk lists the pre-orders of its roots, leaving out what it has listed before. -/
theorem Ordered.walk_lists_preorders (ordered : h.Ordered table) (roots : List (Ref α)) :
    ∃ rows, ((subtreeByWalk table roots).run h).result = .ok rows ∧
      rows.ids = (roots.flatMap fun root => h.listing table root.row).eraseDups := by
  have hwalk : (roots.map Ref.row).foldl
      (visit (h.reverse table).rowsWith ((h.reverse table).size + 1)) [] =
        ((roots.map Ref.row).flatMap (h.listing table)).eraseDups := by
    rw [← appendNew_nil]
    exact foldl_visit_eq_appendNew
      (fun row _ below => mem_preorder_iff ordered.indexedBehind_child_lt (indexedBehind_lt row))
      (fun row _ seen => visit_eq_appendNew ordered.indexedBehind_child_lt (indexedBehind_lt row))
      fun row _ top htop => absurd htop List.not_mem_nil
  obtain ⟨rows, hrun, hids⟩ := ordered.exists_visited roots
  exact ⟨rows, hrun, by rw [hids, hwalk, List.flatMap_map]⟩

end ReverseIndex

end StaticTables.Hierarchy
