import Mathlib
import StaticTables.Proofs.Hierarchy.Forest

/-!
# Lineages

A row has at most one parent, so there is one way up from it. In a hierarchy this way goes down in
row number and ends at a row without a parent after at most as many steps as there are rows before
its start. The ancestors of a row are the rows on it, whatever number of them is asked for.
-/
namespace StaticTables.Hierarchy

variable {α : Type}

/-- The row lies in the table and has no parent. -/
def IsRoot (h : Hierarchy α) (table : Table α) (row : RowId) : Prop :=
  ∃ r, table.record? row = some r ∧ h.parentRef r = none

/-- The way up from a row: its parent, the parent of this one, and so on up to a row without a
parent, which is the row itself if the way is empty. -/
inductive Lineage (h : Hierarchy α) (table : Table α) : RowId → List (Ref α) → RowId → Prop
  | root {row : RowId} (top : h.IsRoot table row) : Lineage h table row [] row
  | child {row top : RowId} {up : Ref α} {chain : List (Ref α)}
      (step : h.HasParent table row up.row) (above : Lineage h table up.row chain top) :
    Lineage h table row (up :: chain) top

variable {h : Hierarchy α} {table : Table α} {row top : RowId} {chain : List (Ref α)}

/-! ## One step up -/

theorem HasParent.unique {up other : RowId} (hup : h.HasParent table row up)
    (hother : h.HasParent table row other) : up = other := by
  obtain ⟨r, hr, hparent⟩ := hup
  obtain ⟨r', hr', hparent'⟩ := hother
  obtain rfl := Option.some.inj (hr.symm.trans hr')
  exact congrArg Ref.row (Option.some.inj (hparent.symm.trans hparent'))

theorem IsRoot.not_hasParent {up : RowId} (root : h.IsRoot table row) :
    ¬ h.HasParent table row up := by
  intro hup
  obtain ⟨r, hr, hnone⟩ := root
  obtain ⟨r', hr', hparent⟩ := hup
  obtain rfl := Option.some.inj (hr.symm.trans hr')
  rw [hnone] at hparent
  contradiction

theorem IsRoot.lt_size (root : h.IsRoot table row) : row.index < table.size := by
  obtain ⟨r, hr, -⟩ := root
  exact Table.lt_size_of_record hr

theorem isRoot_or_hasParent (h : Hierarchy α) (hrow : row.index < table.size) :
    h.IsRoot table row ∨ ∃ up : Ref α, h.HasParent table row up.row := by
  obtain ⟨r, hr⟩ := table.exists_record hrow
  cases hup : h.parentRef r with
  | none => exact .inl ⟨r, hr, hup⟩
  | some up => exact .inr ⟨up, r, hr, hup⟩

theorem Ordered.hasParent_lt (ordered : h.Ordered table) {up : RowId}
    (hup : h.HasParent table row up) : up < row ∧ up.index < table.size := by
  obtain ⟨r, hr, hparent⟩ := hup
  exact ordered.parent_step hr hparent

/-! ## The whole way -/

theorem Lineage.lt_size (lineage : h.Lineage table row chain top) : row.index < table.size := by
  cases lineage with
  | root top => exact top.lt_size
  | child step _ => exact step.child_lt

theorem Lineage.isRoot (lineage : h.Lineage table row chain top) : h.IsRoot table top := by
  induction lineage with
  | root top => exact top
  | child _ _ ih => exact ih

theorem Lineage.reaches (lineage : h.Lineage table row chain top) : h.Reaches table row top := by
  induction lineage with
  | root _ => exact .refl
  | child step _ ih => exact .head step ih

theorem Lineage.getLast?_eq (lineage : h.Lineage table row chain top) :
    (row :: chain.map Ref.row).getLast? = some top := by
  induction lineage with
  | root _ => rfl
  | child _ _ ih => exact ih

/-- The steps of the way are rows of the table. -/
theorem Lineage.inside (lineage : h.Lineage table row chain top) :
    ∀ up ∈ chain, up.index < table.size := by
  induction lineage with
  | root _ => exact fun up hup => absurd hup List.not_mem_nil
  | child _ above ih => exact List.forall_mem_cons.mpr ⟨above.lt_size, ih⟩

theorem Lineage.eq_nil_iff (lineage : h.Lineage table row chain top) :
    chain = [] ↔ h.IsRoot table row := by
  cases lineage with
  | root top => exact iff_of_true rfl top
  | child step _ => exact iff_of_false (List.cons_ne_nil _ _) fun root => root.not_hasParent step

/-- Every row of a hierarchy has a way up: its parent stands before it and has one. -/
theorem Ordered.exists_lineage (ordered : h.Ordered table) {row : RowId}
    (hrow : row.index < table.size) : ∃ chain top, h.Lineage table row chain top := by
  induction hn : row.index using Nat.strong_induction_on generalizing row with
  | h n ih =>
    rcases isRoot_or_hasParent h hrow with root | ⟨up, hup⟩
    · exact ⟨[], row, .root root⟩
    · obtain ⟨hlt, hsize⟩ := ordered.hasParent_lt hup
      obtain ⟨chain, top, above⟩ := ih up.row.index (hn ▸ hlt) hsize rfl
      exact ⟨up :: chain, top, .child hup above⟩

theorem Ordered.lineage_descending (ordered : h.Ordered table)
    (lineage : h.Lineage table row chain top) :
    (row :: chain.map Ref.row).Pairwise fun below above => above < below := by
  induction lineage with
  | root _ => exact List.pairwise_singleton _ _
  | child step above ih =>
    have hlt := (ordered.hasParent_lt step).1
    refine List.pairwise_cons.mpr ⟨List.forall_mem_cons.mpr ⟨hlt, fun other hother => ?_⟩, ih⟩
    exact Nat.lt_trans (List.rel_of_pairwise_cons ih hother) hlt

theorem Ordered.length_lineage_le (ordered : h.Ordered table)
    (lineage : h.Lineage table row chain top) : chain.length ≤ row.index := by
  induction lineage with
  | root _ => exact Nat.zero_le _
  | child step above ih => exact Nat.succ_le_of_lt (ih.trans_lt (ordered.hasParent_lt step).1)

/-! ## Asking for it -/

/-- Climbing from the parent of a record follows the way up of its row. -/
theorem Lineage.climb_eq (lineage : h.Lineage table row chain top) {r : Record α}
    (hr : table.record? row = some r) (limit : Nat) :
    h.climb table limit (h.parentRef r) = .ok (chain.take limit) := by
  induction lineage generalizing r limit with
  | root top =>
    obtain ⟨r', hr', hnone⟩ := top
    obtain rfl := Option.some.inj (hr.symm.trans hr')
    rw [hnone]
    cases limit <;> rfl
  | @child row top up chain step above ih =>
    obtain ⟨r', hr', hparent⟩ := step
    obtain rfl := Option.some.inj (hr.symm.trans hr')
    rw [hparent]
    cases limit with
    | zero => rfl
    | succ limit =>
      obtain ⟨s, hs⟩ := table.exists_record above.lt_size
      rw [climb, Table.resolve_of_record hs, List.take_succ_cons]
      show (h.climb table limit (h.parentRef s) >>= fun rest => pure (up :: rest)) = _
      rw [ih hs]
      rfl

theorem Lineage.ancestorsUpTo_eq {row : Ref α} (lineage : h.Lineage table row.row chain top)
    (limit : Nat) : h.ancestorsUpTo table limit row = .ok (chain.take limit) := by
  obtain ⟨r, hr⟩ := table.exists_record lineage.lt_size
  rw [ancestorsUpTo, Table.resolve_of_record hr]
  exact lineage.climb_eq hr limit

/-- No way up is longer than the table, so all of it is found. -/
theorem Ordered.ancestors_eq (ordered : h.Ordered table) {row : Ref α}
    (lineage : h.Lineage table row.row chain top) : h.ancestors table row = .ok chain := by
  have hle : chain.length ≤ table.size :=
    (ordered.length_lineage_le lineage).trans lineage.lt_size.le
  rw [ancestors, lineage.ancestorsUpTo_eq, List.take_of_length_le hle]

theorem Ordered.depth_eq (ordered : h.Ordered table) {row : Ref α}
    (lineage : h.Lineage table row.row chain top) : h.depth table row = .ok chain.length := by
  rw [depth, ordered.ancestors_eq lineage]
  rfl

end StaticTables.Hierarchy
