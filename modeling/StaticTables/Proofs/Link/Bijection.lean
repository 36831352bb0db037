import Mathlib
import StaticTables.Proofs.Link.Pairing

/-!
# Pairs are partial bijections

Two reference columns pair up when each leads back where the other leads from. Each of the two scans
of the check looks at one direction only; together they say that the columns are inverse to each
other as partial functions, whatever cardinality either of them declares. The rows that point at a
row are then its partner and no other.
-/
namespace StaticTables.Partner

variable {A B : Type}

/-- Where one column leads from a row to another, the other column leads back, and conversely. -/
def MutuallyInverse (forward : Relationship A B) (backward : Relationship B A) (a : Table A)
    (b : Table B) : Prop :=
  ∀ i ∈ a.records, ∀ j ∈ b.records,
    forward.reference i.value = some ⟨j.row⟩ ↔ backward.reference j.value = some ⟨i.row⟩

variable {forward : Relationship A B} {backward : Relationship B A} {a : Table A} {b : Table B}

theorem MutuallyInverse.symm (h : MutuallyInverse forward backward a b) :
    MutuallyInverse backward forward b a :=
  fun j hj i hi => (h i hi j hj).symm

/-! ## The check -/

theorem sameTables_of_builtOver (h : forward.BuiltOver a b) :
    sameTables forward a.id b.id = .ok () :=
  if_pos ⟨h.sourced.source_eq, h.target_eq⟩

/-- One scan tells that the other column leads back from wherever the scanned one leads. -/
theorem symmetric_eq_ok_iff (h : forward.BuiltOver a b) :
    symmetric forward backward a b = .ok () ↔
      ∀ i ∈ a.records, ∀ j ∈ b.records,
        forward.reference i.value = some ⟨j.row⟩ → backward.reference j.value = some ⟨i.row⟩ := by
  rw [symmetric_eq_ok_iff_leadsBack]
  refine forall₂_congr fun i hi => ?_
  constructor
  · intro leads j hj hlink
    obtain ⟨t, ht, hsame, hback⟩ := leads _ hlink
    obtain rfl := Table.eq_of_row_eq hj ht (congrArg Ref.row hsame)
    exact hback
  · intro hall link hlink
    obtain ⟨t, ht, rfl⟩ := Table.exists_mem_of_lt (h.valid.inside i hi link hlink)
    exact ⟨t, ht, rfl, hall t ht hlink⟩

theorem check_eq_ok_iff (hforward : forward.BuiltOver a b) (hbackward : backward.BuiltOver b a) :
    check forward backward a b = .ok () ↔ MutuallyInverse forward backward a b := by
  rw [check, seq_eq_ok_iff, symmetric_eq_ok_iff hforward, symmetric_eq_ok_iff hbackward]
  constructor
  · intro h i hi j hj
    exact ⟨h.1 i hi j hj, h.2 j hj i hi⟩
  · intro h
    exact ⟨fun i hi j hj => (h i hi j hj).mp, fun j hj i hi => (h i hi j hj).mpr⟩

/-- A construction succeeds when all its checks pass. -/
theorem result_build_eq_ok_iff_checks {settings : Settings} {p : Partner A B} :
    ((build settings forward backward a b).run ()).result = .ok p ↔
      (sameTables forward a.id b.id = .ok () ∧ sameTables backward b.id a.id = .ok () ∧
        check forward backward a b = .ok ()) ∧ p = { forward, backward } := by
  constructor
  · intro h
    obtain ⟨⟨⟩, hthere, hrest⟩ := Traced.result_bind_eq_ok_iff.mp h
    obtain ⟨⟨⟩, hback, hrest⟩ := Traced.result_bind_eq_ok_iff.mp hrest
    obtain ⟨⟨⟩, hverdict, hemit⟩ := Traced.result_bind_eq_ok_iff.mp hrest
    have hcheck := locate_eq_ok_iff.mp (Validation.result_enforce_eq_ok_iff.mp hverdict)
    exact ⟨⟨hthere, hback, hcheck⟩, (Except.ok.inj hemit).symm⟩
  · rintro ⟨⟨hthere, hback, hcheck⟩, rfl⟩
    unfold build
    rw [hthere, hback, hcheck]
    rfl

theorem result_build_eq_ok_iff {settings : Settings} {p : Partner A B}
    (hforward : forward.BuiltOver a b) (hbackward : backward.BuiltOver b a) :
    ((build settings forward backward a b).run ()).result = .ok p ↔
      MutuallyInverse forward backward a b ∧ p = { forward, backward } := by
  rw [result_build_eq_ok_iff_checks, ← check_eq_ok_iff hforward hbackward]
  simp [sameTables_of_builtOver hforward, sameTables_of_builtOver hbackward]

/-! ## Partners -/

theorem MutuallyInverse.targetOf (h : MutuallyInverse forward backward a b)
    (hforward : forward.BuiltOver a b) (hbackward : backward.BuiltOver b a) {i : Record A}
    (hi : i ∈ a.records) :
    (forward.reference i.value = none ∧ forward.targetOf b i = .ok none) ∨
      ∃ j ∈ b.records, forward.reference i.value = some ⟨j.row⟩ ∧
        forward.targetOf b i = .ok (some j) ∧ backward.targetOf a j = .ok (some i) := by
  refine (hforward.targetOf hi).imp_right fun hpartner => ?_
  obtain ⟨j, hj, hlink, hresult⟩ := hpartner
  exact ⟨j, hj, hlink, hresult, (hbackward.targetOf_eq_iff hj hi).mpr ((h i hi j hj).mp hlink)⟩

/-- What points at a row is its partner: nothing, if it has none, and otherwise one row. -/
theorem MutuallyInverse.referring_eq (h : MutuallyInverse forward backward a b)
    (hbackward : backward.BuiltOver b a) {j : Record B} (hj : j ∈ b.records) :
    (forward.referring a ⟨j.row⟩).map Record.row =
      (backward.reference j.value).toList.map Ref.row := by
  rcases hbackward.targetOf hj with ⟨hnone, -⟩ | ⟨i, hi, hlink, -⟩
  · have hempty : forward.referring a ⟨j.row⟩ = [] := by
      rw [List.eq_nil_iff_forall_not_mem]
      intro i hfound
      obtain ⟨hi, hpoints⟩ := Relationship.mem_referring_iff.mp hfound
      rw [h i hi j hj, hnone] at hpoints
      contradiction
    rw [hempty, hnone]
    rfl
  · -- whatever points at the row is what the row points at
    have honly : ∀ i', i' ∈ forward.referring a ⟨j.row⟩ ↔ i' ∈ [i] := by
      intro i'
      rw [Relationship.mem_referring_iff, List.mem_singleton]
      constructor
      · intro hfound
        have hback := (h i' hfound.1 j hj).mp hfound.2
        rw [hlink] at hback
        exact (Table.eq_of_row_eq hi hfound.1 (congrArg Ref.row (Option.some.inj hback))).symm
      · intro hsame
        subst hsame
        exact ⟨hi, (h _ hi j hj).mpr hlink⟩
    have hnodup : (forward.referring a ⟨j.row⟩).Nodup := a.nodup_records.filter _
    have hperm := (List.perm_ext_iff_of_nodup hnodup (List.nodup_singleton i)).mpr honly
    rw [List.perm_singleton.mp hperm, hlink]
    rfl

theorem MutuallyInverse.length_holders (h : MutuallyInverse forward backward a b)
    (hforward : forward.BuiltOver a b) (hbackward : backward.BuiltOver b a) :
    (forward.holders a).length = (backward.holders b).length := by
  -- both sides are counted over `b`: a row is pointed at once if it has a partner, and else not
  have hcounts : ∀ j ∈ b.records,
      (forward.referring a ⟨j.row⟩).length = (backward.reference j.value).toList.length := by
    intro j hj
    simpa using congrArg List.length (h.referring_eq hbackward hj)
  calc
    (forward.holders a).length =
        (b.records.map fun j => (forward.referring a ⟨j.row⟩).length).sum :=
      hforward.sum_length_referring.symm
    _ = (b.records.map fun j => (backward.reference j.value).toList.length).sum := by
      rw [List.map_congr_left hcounts]
    _ = (b.records.filterMap fun j => backward.reference j.value).length := by
      rw [List.filterMap_eq_flatMap_toList, List.length_flatMap]
    _ = (backward.holders b).length := by
      rw [List.length_filterMap_eq_countP, List.countP_eq_length_filter]
      rfl

/-- Partners are partners of each other, there are as many on either side, and what points at a row
is its partner. -/
structure Bijective (p : Partner A B) (a : Table A) (b : Table B) : Prop where
  thereAndBack : ∀ i ∈ a.records,
    (p.forward.reference i.value = none ∧ p.ofLeft b i = .ok none) ∨
      ∃ j ∈ b.records, p.forward.reference i.value = some ⟨j.row⟩ ∧
        p.ofLeft b i = .ok (some j) ∧ p.ofRight a j = .ok (some i)
  backAndThere : ∀ j ∈ b.records,
    (p.backward.reference j.value = none ∧ p.ofRight a j = .ok none) ∨
      ∃ i ∈ a.records, p.backward.reference j.value = some ⟨i.row⟩ ∧
        p.ofRight a j = .ok (some i) ∧ p.ofLeft b i = .ok (some j)
  length_eq : (p.forward.holders a).length = (p.backward.holders b).length
  referrers : ∀ j ∈ b.records, ∃ rows,
    ((Relationship.referrers a ⟨j.row⟩).run p.forward).result = .ok rows ∧
      rows.ids = (p.backward.reference j.value).toList.map Ref.row
  referrersBack : ∀ i ∈ a.records, ∃ rows,
    ((Relationship.referrers b ⟨i.row⟩).run p.backward).result = .ok rows ∧
      rows.ids = (p.forward.reference i.value).toList.map Ref.row

theorem MutuallyInverse.referrers (h : MutuallyInverse forward backward a b)
    (hforward : forward.BuiltOver a b) (hbackward : backward.BuiltOver b a) {j : Record B}
    (hj : j ∈ b.records) :
    ∃ rows, ((Relationship.referrers a ⟨j.row⟩).run forward).result = .ok rows ∧
      rows.ids = (backward.reference j.value).toList.map Ref.row := by
  obtain ⟨rows, hrun, hrows⟩ := hforward.referrers_selected ⟨j.row⟩
  exact ⟨rows, hrun, hrows.ids_eq.trans (h.referring_eq hbackward hj)⟩

/-- Two relationships pair up exactly when their columns are mutually inverse, and the pair is then
a bijection between the rows that hold a reference on either side. -/
theorem build_iff_mutuallyInverse (settings : Settings) (hforward : forward.BuiltOver a b)
    (hbackward : backward.BuiltOver b a) :
    ((∃ p, ((build settings forward backward a b).run ()).result = .ok p) ↔
        MutuallyInverse forward backward a b) ∧
      ∀ p, ((build settings forward backward a b).run ()).result = .ok p →
        p.forward = forward ∧ p.backward = backward ∧ p.Bijective a b := by
  constructor
  · simp only [result_build_eq_ok_iff hforward hbackward, exists_and_left, exists_eq, and_true]
  · intro p hbuild
    obtain ⟨h, rfl⟩ := (result_build_eq_ok_iff hforward hbackward).mp hbuild
    exact ⟨rfl, rfl, fun i hi => h.targetOf hforward hbackward hi,
      fun j hj => h.symm.targetOf hbackward hforward hj, h.length_holders hforward hbackward,
      fun j hj => h.referrers hforward hbackward hj,
      fun i hi => h.symm.referrers hbackward hforward hi⟩

/-- The first and the last of four dancers dance with each other. -/
def dancers : Table (Option RowId) where
  id := { value := 4 }
  name := "dancer"
  origin := 0
  rows := #[RowId.ofIndex? 3, none, none, RowId.ofIndex? 0]
  size_le := by decide

/-- Whom each dancer dances with. -/
def dancing : Relationship (Option RowId) (Option RowId) :=
  Relationship.ofValid {} { name := "partner", optionality := .optional } dancers dancers
    (Option.map Ref.mk)

/-- A table paired with itself by a column that is not declared to be one to one. -/
theorem build_iff_mutuallyInverse_dancers :
    dancing.BuiltOver dancers dancers ∧
      ∃ p, ((build {} dancing dancing dancers dancers).run ()).result = .ok p ∧
        MutuallyInverse dancing dancing dancers dancers ∧ p.Bijective dancers dancers := by
  have built : dancing.BuiltOver dancers dancers :=
    ⟨_, _, _, Relationship.result_build_eq_ok_iff.mpr ⟨rfl, rfl⟩⟩
  obtain ⟨hiff, hpair⟩ := build_iff_mutuallyInverse {} built built
  have paired : ((build {} dancing dancing dancers dancers).run ()).result =
      .ok { forward := dancing, backward := dancing } := rfl
  exact ⟨built, _, paired, hiff.mp ⟨_, paired⟩, (hpair _ paired).2.2⟩

end StaticTables.Partner
