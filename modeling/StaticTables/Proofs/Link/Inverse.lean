import Mathlib
import StaticTables.Proofs.Link.Validity
import StaticTables.Proofs.Table.Grouping

/-!
# The reverse of a reference column

Forward, a reference is read from the record that stores it; backward, the rows that point at a
target are looked up in the sorted index of the column. Both speak of the same pairs of rows. Valid
references point into the target table, so the rows found from all its targets are together the rows
that hold a reference, each found once, and one to one there is at most one for each target.
-/
namespace StaticTables.Relationship

variable {S T : Type}

/-- The source records that hold a reference to a row of the target, in stored order. -/
def referring (r : Relationship S T) (source : Table S) (link : Ref T) : List (Record S) :=
  source.records.filter fun s => r.reference s.value = some link

/-- The source records that hold a reference, in stored order. -/
def holders (r : Relationship S T) (source : Table S) : List (Record S) :=
  source.records.filter fun s => (r.reference s.value).isSome

variable {r : Relationship S T} {source : Table S} {target : Table T}

theorem BuiltOver.valid (h : r.BuiltOver source target) :
    Valid r.declaration target r.reference source.records :=
  check_eq_ok_iff.mp h.check_eq_ok

theorem mem_referring_iff {link : Ref T} {s : Record S} :
    s ∈ r.referring source link ↔ s ∈ source.records ∧ r.reference s.value = some link := by
  rw [referring, List.mem_filter, decide_eq_true_eq]

/-- Where a source record holds a reference, following it gives the record it points at. -/
theorem BuiltOver.targetOf (h : r.BuiltOver source target) {s : Record S}
    (hs : s ∈ source.records) :
    (r.reference s.value = none ∧ r.targetOf target s = .ok none) ∨
      ∃ t ∈ target.records,
        r.reference s.value = some ⟨t.row⟩ ∧ r.targetOf target s = .ok (some t) := by
  have hdemand : target.demand (.target r.name) r.target = .ok () := if_pos h.target_eq
  cases hlink : r.reference s.value with
  | none =>
    refine .inl ⟨rfl, ?_⟩
    rw [Relationship.targetOf, hdemand, hlink]
    rfl
  | some link =>
    obtain ⟨t, ht, rfl⟩ := Table.exists_mem_of_lt (h.valid.inside s hs link hlink)
    refine .inr ⟨t, ht, rfl, ?_⟩
    have hresolve : target.resolve ⟨t.row⟩ = .ok t := Table.row_of_mem ht
    rw [Relationship.targetOf, hdemand, hlink]
    show some <$> target.resolve ⟨t.row⟩ = _
    rw [hresolve]
    rfl

theorem BuiltOver.targetOf_eq_iff (h : r.BuiltOver source target) {s : Record S} {t : Record T}
    (hs : s ∈ source.records) (ht : t ∈ target.records) :
    r.targetOf target s = .ok (some t) ↔ r.reference s.value = some ⟨t.row⟩ := by
  rcases h.targetOf hs with ⟨hnone, hresult⟩ | ⟨t', ht', hlink, hresult⟩
  · simp [hnone, hresult]
  · rw [hlink, hresult]
    constructor
    · intro hsame
      rw [Option.some.inj (Except.ok.inj hsame)]
    · intro hsame
      rw [Table.eq_of_row_eq ht' ht (congrArg Ref.row (Option.some.inj hsame))]

theorem targetOfRow_of_mem {s : Record S} (hs : s ∈ source.records) :
    r.targetOfRow source target s.row = r.targetOf target s := by
  rw [targetOfRow, Table.row_of_mem hs]
  rfl

/-! ## Backward -/

theorem any_targetRow_eq (reference : S → Option (Ref T)) (link : Ref T) (v : S) :
    (targetRow reference v).any (IndexKey.same · link.row) = decide (reference v = some link) := by
  unfold targetRow
  cases reference v with
  | none => rfl
  | some other =>
    have hsame : IndexKey.same other.row link.row = true ↔ other = link := by
      rw [IndexKey.same, beq_iff_eq]
      refine IndexKey.compareRow_eq_iff.trans ⟨Ref.ext, fun h => by rw [h]⟩
    rw [Bool.eq_iff_iff]
    simpa using hsame

section Queries

variable (h : r.BuiltOver source target)
include h

theorem BuiltOver.referrers_selected (link : Ref T) :
    ∃ rows, ((Relationship.referrers source link).run r).result = .ok rows ∧
      source.Selected (fun s => r.reference s.value = some link) rows := by
  obtain ⟨rows, hfind, hrows⟩ :=
    Index.find_selects source (targetRow r.reference) link.row
  refine ⟨rows, ?_, hrows.selected fun s => any_targetRow_eq r.reference link s.value⟩
  rw [Relationship.referrers, Traced.result_bind_eq_ok_iff]
  exact ⟨_, h.sourced.run_index.1, hfind⟩

/-- From the targets in order, every row that holds a reference is found, and none twice. -/
theorem BuiltOver.flatMap_referring_perm :
    (target.records.flatMap fun t => r.referring source ⟨t.row⟩).Perm (r.holders source) := by
  have hcover : ∀ s ∈ source.records, ∀ link, r.reference s.value = some link →
      link ∈ target.refs :=
    fun s hs link hlink => Table.mem_refs_of_lt (h.valid.inside s hs link hlink)
  have hgroups := flatMap_filter_perm_of_cover target.nodup_refs hcover
  rw [Table.refs, List.flatMap_map] at hgroups
  exact hgroups

theorem BuiltOver.sum_length_referring :
    (target.records.map fun t => (r.referring source ⟨t.row⟩).length).sum =
      (r.holders source).length := by
  rw [← h.flatMap_referring_perm.length_eq, List.length_flatMap]

end Queries

/-! ## Both directions -/

/-- Three rooms. -/
def rooms : Table String where
  id := { value := 2 }
  name := "room"
  origin := 0
  rows := #["hall", "attic", "study"]
  size_le := by decide

/-- Three lamps, the second of them in no room. -/
def lamps : Table (Option RowId) where
  id := { value := 3 }
  name := "lamp"
  origin := 1
  rows := #[RowId.ofIndex? 2, none, RowId.ofIndex? 0]
  size_le := by decide

end StaticTables.Relationship
