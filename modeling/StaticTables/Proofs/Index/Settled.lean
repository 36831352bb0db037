import Mathlib
import StaticTables.Index.Lazy
import StaticTables.Proofs.Index.Scan
import StaticTables.Proofs.Table.Selection

/-!
# Settled lazy indices

A lazy index that is only asked with one table has built nothing yet or the index of its column over
this table. Asking for the index gives the same in both cases, and the index is built from then on.
-/
namespace StaticTables

variable {α κ : Type} [IndexKey κ]

namespace LazyIndex

/-- What is built, if anything, is the index of the column over the table. -/
def Settled (l : LazyIndex α κ) (table : Table α) : Prop :=
  ∀ i, l.built = some i → i = Index.ofColumn table l.column

/-- The lazy index once it is built over a table. -/
def forced (l : LazyIndex α κ) (table : Table α) : LazyIndex α κ :=
  { l with built := some (Index.ofColumn table l.column) }

variable {l : LazyIndex α κ} {table : Table α}

theorem Settled.run_get (h : l.Settled table) :
    ((get table).run l).result = .ok (Index.ofColumn table l.column) ∧
      ((get table).run l).state = l.forced table := by
  cases hbuilt : l.built with
  | none =>
    rw [run_get_of_not_built hbuilt]
    exact ⟨rfl, rfl⟩
  | some i =>
    obtain rfl := h i hbuilt
    rw [run_get_of_built hbuilt]
    refine ⟨rfl, ?_⟩
    rw [forced, ← hbuilt]

end LazyIndex

namespace Index

variable {column : α → Option κ} {keyTest : κ → Bool} {test : Record α → Bool} {table : Table α}
  {rows : Rows α}

omit [IndexKey κ] in
/-- Rows that a query selects by their keys are selected by any test that says the same. -/
theorem Selects.selected (h : Selects table column keyTest rows)
    (htest : ∀ s, (column s.value).any keyTest = test s) : table.Selected test rows := by
  have hscan : table.scan column keyTest = table.records.filter test :=
    List.filter_congr fun s _ => htest s
  exact .of_ids_of_rest (hscan ▸ h.ids_eq) (hscan ▸ h.rest_eq)

end Index

end StaticTables
