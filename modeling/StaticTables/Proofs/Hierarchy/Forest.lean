import Mathlib
import StaticTables.Hierarchy.Ancestors
import StaticTables.Proofs.Link.Construction

/-!
# Hierarchies as forests

A construction succeeds only if every parent stands before its children. Following parents then goes
down in row number, so a chain that starts in the table stays in it and ends, and a walk towards an
ancestor may stop as soon as it has passed the ancestor's place.
-/
namespace StaticTables.Hierarchy

variable {α : Type}

/-! ## Parents -/

/-- The second row is the parent of the first. -/
def HasParent (h : Hierarchy α) (table : Table α) (row up : RowId) : Prop :=
  ∃ r, table.record? row = some r ∧ h.parentRef r = some ⟨up⟩

/-- Following parents, zero or more times, leads from the first row to the second. -/
def Reaches (h : Hierarchy α) (table : Table α) : RowId → RowId → Prop :=
  Relation.ReflTransGen (h.HasParent table)

/-- The hierarchy reads the parents of the table's records, and they stand before their children. -/
structure Ordered (h : Hierarchy α) (table : Table α) : Prop where
  sourced : h.parent.Sourced table
  parent_lt : ∀ r ∈ table.records, ∀ up, h.parentRef r = some up → up.row < r.row

/-! ## Construction -/

/-- The verdict on one record. -/
theorem verdict_eq_ok_iff {parent : α → Option (Ref α)} {table : Table α} {r : Record α} :
    (match parent r.value with
      | none => .ok ()
      | some up =>
        if r.row ≤ up.row then refuse (.hierarchyOrder table.name r.row up.row) else .ok ()) =
        Except.ok () ↔
      ∀ up, parent r.value = some up → up.row < r.row := by
  cases parent r.value with
  | none => simp
  | some up =>
    by_cases hle : r.row ≤ up.row
    · have hnot : ¬ up.row < r.row := Nat.not_lt.mpr hle
      simp [hle, hnot, refuse]
    · have hlt : up.row < r.row := Nat.not_le.mp hle
      simp [hle, hlt]

theorem check_eq_ok_iff {parent : α → Option (Ref α)} {table : Table α} :
    check parent table = .ok () ↔
      ∀ r ∈ table.records, ∀ up, parent r.value = some up → up.row < r.row := by
  unfold check
  rw [forM_eq_ok_iff]
  exact forall₂_congr fun r _ => verdict_eq_ok_iff

theorem result_build_eq_ok_iff {settings : Settings} {name : String} {table : Table α}
    {parent : α → Option (Ref α)} {h : Hierarchy α} :
    ((build settings name table parent).run ()).result = .ok h ↔
      (Relationship.check { name, optionality := .optional } table table parent = .ok () ∧
        check parent table = .ok ()) ∧
      h = ⟨Relationship.ofValid settings { name, optionality := .optional } table table parent⟩ := by
  constructor
  · intro built
    obtain ⟨r, hparent, hrest⟩ := Traced.result_bind_eq_ok_iff.mp built
    obtain ⟨⟨⟩, hverdict, hemit⟩ := Traced.result_bind_eq_ok_iff.mp hrest
    obtain ⟨hcolumn, rfl⟩ := Relationship.result_build_eq_ok_iff.mp hparent
    have horder := locate_eq_ok_iff.mp (Validation.result_enforce_eq_ok_iff.mp hverdict)
    exact ⟨⟨hcolumn, horder⟩, (Except.ok.inj hemit).symm⟩
  · rintro ⟨⟨hcolumn, horder⟩, rfl⟩
    refine Traced.result_bind_eq_ok_iff.mpr
      ⟨_, Relationship.result_build_eq_ok_iff.mpr ⟨hcolumn, rfl⟩, ?_⟩
    rw [horder]
    rfl

theorem ordered_of_build {settings : Settings} {name : String} {table : Table α}
    {parent : α → Option (Ref α)} {h : Hierarchy α}
    (built : ((build settings name table parent).run ()).result = .ok h) : h.Ordered table := by
  obtain ⟨⟨-, horder⟩, rfl⟩ := result_build_eq_ok_iff.mp built
  exact ⟨Relationship.sourced_ofValid, check_eq_ok_iff.mp horder⟩

/-- The parents in a hierarchy are those that its column held when it was built. -/
theorem parentRef_of_build {settings : Settings} {name : String} {table : Table α}
    {parent : α → Option (Ref α)} {h : Hierarchy α}
    (built : ((build settings name table parent).run ()).result = .ok h) (r : Record α) :
    h.parentRef r = parent r.value := by
  obtain ⟨-, rfl⟩ := result_build_eq_ok_iff.mp built
  rfl

/-! ## Chains of parents -/

section Chains

variable {h : Hierarchy α} {table : Table α}

theorem HasParent.child_lt {row up : RowId} (hup : h.HasParent table row up) :
    row.index < table.size := by
  obtain ⟨r, hr, -⟩ := hup
  exact Table.lt_size_of_record hr

theorem Ordered.parent_step (ordered : h.Ordered table) {row : RowId} {r : Record α} {up : Ref α}
    (hr : table.record? row = some r) (hup : h.parentRef r = some up) :
    up.index < row.index ∧ up.index < table.size := by
  obtain rfl := Table.row_eq_of_record? hr
  have hlt : up.index < r.row.index := ordered.parent_lt r (Table.mem_records_iff.mpr hr) up hup
  exact ⟨hlt, hlt.trans (Table.lt_size_of_record hr)⟩

theorem Ordered.reaches_le (ordered : h.Ordered table) {row top : RowId}
    (hreach : h.Reaches table row top) :
    top.index ≤ row.index := by
  induction hreach with
  | refl => exact Nat.le_refl _
  | tail _ hup ih =>
    obtain ⟨r, hr, hparent⟩ := hup
    exact (ordered.parent_step hr hparent).1.le.trans ih

/-- A chain from a record meets the record's own row and what the chain from its parent meets. -/
theorem reaches_iff_of_record {row top : RowId} {r : Record α} (hr : table.record? row = some r) :
    h.Reaches table row top ↔
      row = top ∨ ∃ up, h.parentRef r = some up ∧ h.Reaches table up.row top := by
  constructor
  · intro hreach
    rcases Relation.ReflTransGen.cases_head hreach with rfl | ⟨up, ⟨r', hr', hup⟩, habove⟩
    · exact .inl rfl
    · obtain rfl := Option.some.inj (hr.symm.trans hr')
      exact .inr ⟨⟨up⟩, hup, habove⟩
  · intro hchain
    rcases hchain with rfl | ⟨up, hup, habove⟩
    · exact .refl
    · exact .head ⟨r, hr, hup⟩ habove

end Chains

/-! ## Looking for an ancestor -/

section Ancestors

variable {h : Hierarchy α} {table : Table α}

theorem meets_of_resolve {ancestor step : Ref α} {limit : Nat} {r : Record α}
    (hr : table.resolve step = .ok r) :
    h.meets table ancestor (limit + 1) (some step) =
      if step.row < ancestor.row then .ok false
      else if step = ancestor then .ok true
      else h.meets table ancestor limit (h.parentRef r) := by
  rw [meets, hr]
  rfl

/-- The walk finds the ancestor if the chain meets it. The steps go down, so the limit is not
reached, and a step before the ancestor's place has nothing of that place above it. -/
theorem Ordered.meets_iff_reaches (ordered : h.Ordered table) (ancestor : Ref α) (limit : Nat)
    (current : Option (Ref α))
    (hlt : ∀ step, current = some step → step.index < limit ∧ step.index < table.size) :
    ∃ answer, h.meets table ancestor limit current = .ok answer ∧
      (answer = true ↔ ∃ step, current = some step ∧ h.Reaches table step.row ancestor.row) := by
  induction limit generalizing current with
  | zero =>
    refine ⟨false, rfl, iff_of_false Bool.false_ne_true ?_⟩
    intro hfound
    obtain ⟨step, hstep, -⟩ := hfound
    exact absurd (hlt step hstep).1 (Nat.not_lt_zero _)
  | succ limit ih =>
    cases current with
    | none => exact ⟨false, rfl, by simp⟩
    | some step =>
      obtain ⟨hlimit, hsize⟩ := hlt step rfl
      obtain ⟨r, hr⟩ := table.exists_record hsize
      simp only [meets_of_resolve (Table.resolve_of_record hr), Option.some.injEq, exists_eq_left']
      by_cases hpassed : step.row < ancestor.row
      · -- what is above the step stands before it, and so before the ancestor
        refine ⟨false, if_pos hpassed, iff_of_false Bool.false_ne_true fun hreach => ?_⟩
        exact absurd hpassed (Nat.not_lt.mpr (ordered.reaches_le hreach))
      · rw [if_neg hpassed]
        by_cases hfound : step = ancestor
        · obtain rfl := hfound
          exact ⟨true, if_pos rfl, iff_of_true rfl .refl⟩
        · have habove : ∀ up, h.parentRef r = some up →
              up.index < limit ∧ up.index < table.size := by
            intro up hup
            obtain ⟨hup, hsize⟩ := ordered.parent_step hr hup
            have : step.row.index < limit + 1 := hlimit
            exact ⟨by omega, hsize⟩
          obtain ⟨answer, hmeets, hanswer⟩ := ih _ habove
          refine ⟨answer, (if_neg hfound).trans hmeets, ?_⟩
          rw [hanswer, reaches_iff_of_record hr, or_iff_right fun e => hfound (Ref.ext e)]

theorem Ordered.contains_iff_reaches (ordered : h.Ordered table) (ancestor row : Ref α)
    (hrow : row.index < table.size) :
    ∃ answer, h.contains table ancestor row = .ok answer ∧
      (answer = true ↔ h.Reaches table row.row ancestor.row) := by
  unfold contains
  by_cases hself : row = ancestor
  · obtain rfl := hself
    exact ⟨true, if_pos rfl, iff_of_true rfl .refl⟩
  · obtain ⟨r, hr⟩ := table.exists_record hrow
    have hlt : ∀ up, h.parentRef r = some up → up.index < table.size ∧ up.index < table.size := by
      intro up hup
      obtain ⟨-, hsize⟩ := ordered.parent_step hr hup
      exact ⟨hsize, hsize⟩
    obtain ⟨answer, hmeets, hanswer⟩ := ordered.meets_iff_reaches ancestor table.size _ hlt
    refine ⟨answer, ?_, ?_⟩
    · rw [if_neg hself, Table.resolve_of_record hr]
      exact hmeets
    · rw [hanswer, reaches_iff_of_record hr, or_iff_right fun e => hself (Ref.ext e)]

end Ancestors

end StaticTables.Hierarchy
