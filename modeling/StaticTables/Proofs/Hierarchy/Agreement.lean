import Mathlib
import StaticTables.Proofs.Hierarchy.Spread
import StaticTables.Proofs.Hierarchy.Walk

/-!
# Three ways to tell who belongs to a subtree

The pass over the table, the walk from parents to children and the climb towards an ancestor agree
with what a subtree is: the rows whose chain of parents meets a root.
-/
namespace StaticTables.Hierarchy

variable {α : Type}

/-- Over a hierarchy that was built from a column of parents, whatever its settings, the pass lists
the rows that reach a root in table order, the walk lists the same rows in another order, and a row
lies at or below an ancestor exactly if the pass from this ancestor lists it. -/
theorem membership_agrees {settings : Settings} {name : String} {table : Table α}
    {parent : α → Option (Ref α)} {h : Hierarchy α}
    (built : ((build settings name table parent).run ()).result = .ok h) :
    (∀ r, h.parentRef r = parent r.value) ∧
      (∀ roots : List (Ref α), (∀ root ∈ roots, root.index < table.size) →
        ∃ rows walked, ((subtree table roots).run h).result = .ok rows ∧
          ((subtreeByWalk table roots).run h).result = .ok walked ∧
          (∀ row, row ∈ rows.ids ↔ ∃ root ∈ roots, h.Reaches table row root.row) ∧
          rows.ids.Pairwise (· < ·) ∧ walked.ids.Nodup ∧ walked.ids.Perm rows.ids) ∧
        ∀ ancestor row : Ref α, row.index < table.size →
          ∃ answer rows, h.contains table ancestor row = .ok answer ∧
            ((subtree table [ancestor]).run h).result = .ok rows ∧
            (answer = true ↔ row.row ∈ rows.ids) := by
  have ordered := ordered_of_build built
  refine ⟨parentRef_of_build built, ?_, ?_⟩
  · intro roots hroots
    obtain ⟨rows, hrows, hmem, hascending⟩ := ordered.subtree_selects roots
    obtain ⟨walked, hwalked, hwalk⟩ := ordered.walk_lists_preorders roots
    have hreach : ∀ row, row ∈ rows.ids ↔ ∃ root ∈ roots, h.Reaches table row root.row := by
      intro row
      rw [hmem]
      exact exists_congr fun root => and_congr_right fun hroot => and_iff_right (hroots root hroot)
    have hnodup : walked.ids.Nodup := hwalk ▸ nodup_eraseDups _
    have honce : rows.ids.Nodup := RowId.nodup_of_ascending hascending
    refine ⟨rows, walked, hrows, hwalked, hreach, hascending, hnodup, ?_⟩
    rw [List.perm_ext_iff_of_nodup hnodup honce]
    intro row
    simp only [hreach, hwalk, List.mem_eraseDups, List.mem_flatMap, ordered.mem_listing_iff]
  · intro ancestor row hrow
    obtain ⟨answer, hanswer, hcontains⟩ := ordered.contains_iff_reaches ancestor row hrow
    obtain ⟨rows, hrows, hmem, -⟩ := ordered.subtree_selects [ancestor]
    refine ⟨answer, rows, hanswer, hrows, ?_⟩
    rw [hcontains, hmem]
    constructor
    · intro hreach
      exact ⟨ancestor, List.mem_singleton_self _, (ordered.reaches_le hreach).trans_lt hrow, hreach⟩
    · intro hin
      obtain ⟨root, hroot, -, hreach⟩ := hin
      rwa [List.mem_singleton.mp hroot] at hreach

/-- Four rows: a root, two children of it, and a child of the first child. -/
def smallTree : Table (Option RowId) where
  id := { value := 1 }
  name := "chapter"
  origin := 0
  rows := #[none, RowId.ofIndex? 0, RowId.ofIndex? 0, RowId.ofIndex? 1]
  size_le := by decide

/-- With a child given before its parent as a root, and with a row looked for below that child. -/
theorem membership_agrees_smallTree :
    ∃ h : Hierarchy (Option RowId),
      ((build {} "parent" smallTree (Option.map Ref.mk)).run ()).result = .ok h ∧
      (∀ r, h.parentRef r = r.value.map Ref.mk) ∧
      (∃ rows walked,
        ((subtree smallTree [⟨{ index := 1 }⟩, ⟨{ index := 0 }⟩]).run h).result = .ok rows ∧
        ((subtreeByWalk smallTree [⟨{ index := 1 }⟩, ⟨{ index := 0 }⟩]).run h).result =
          .ok walked ∧
        (∀ row, row ∈ rows.ids ↔
          ∃ root ∈ [(⟨{ index := 1 }⟩ : Ref (Option RowId)), ⟨{ index := 0 }⟩],
            h.Reaches smallTree row root.row) ∧
        rows.ids.Pairwise (· < ·) ∧ walked.ids.Nodup ∧ walked.ids.Perm rows.ids) ∧
      ∃ answer rows, h.contains smallTree ⟨{ index := 1 }⟩ ⟨{ index := 3 }⟩ = .ok answer ∧
        ((subtree smallTree [⟨{ index := 1 }⟩]).run h).result = .ok rows ∧
        (answer = true ↔ { index := 3 } ∈ rows.ids) := by
  have agrees := @membership_agrees _ {} "parent" smallTree (Option.map Ref.mk) _ rfl
  refine ⟨_, rfl, agrees.1, ?_, ?_⟩
  · exact agrees.2.1 [⟨{ index := 1 }⟩, ⟨{ index := 0 }⟩] (by decide)
  · exact agrees.2.2 ⟨{ index := 1 }⟩ ⟨{ index := 3 }⟩ (by decide)

end StaticTables.Hierarchy
