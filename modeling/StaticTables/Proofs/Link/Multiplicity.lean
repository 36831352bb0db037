import Mathlib
import StaticTables.Link.Junction
import StaticTables.Proofs.Link.Inverse

/-!
# Links counted from both sides

A junction goes from a row back to the junction rows that point at it and on along their other
column. What it finds is one scan of the junction table, so a pair of rows is linked as often from
one side as from the other, and either side, taken over all its rows, finds every junction row that
holds both references.
-/
namespace StaticTables.Junction

variable {A B J : Type}

/-- The references that the junction rows with a given reference in one column hold in the other
one, in stored order. -/
def linked (near : J → Option (Ref A)) (far : J → Option (Ref B)) (junction : Table J)
    (ref : Ref A) : List (Ref B) :=
  junction.records.filterMap fun link =>
    if near link.value = some ref then far link.value else none

/-- The junction rows that hold a reference in both columns. -/
def complete (near : J → Option (Ref A)) (far : J → Option (Ref B)) (junction : Table J) :
    List (Record J) :=
  junction.records.filter fun link => (near link.value).isSome && (far link.value).isSome

/-- The junction once the index of its left side is built. -/
def leftIndexed (x : Junction A B J) (junction : Table J) : Junction A B J :=
  x.withLeft (x.left.indexed junction)

/-- The junction once the index of its right side is built. -/
def rightIndexed (x : Junction A B J) (junction : Table J) : Junction A B J :=
  x.withRight (x.right.indexed junction)

/-- Both sides were built over the same junction table. -/
structure BuiltOver (x : Junction A B J) (junction : Table J) (a : Table A) (b : Table B) : Prop where
  left : x.left.BuiltOver junction a
  right : x.right.BuiltOver junction b

/-! ## Counting links -/

section Counting

variable (near : J → Option (Ref A)) (far : J → Option (Ref B)) (junction : Table J)

theorem count_linked (ref : Ref A) (ref' : Ref B) :
    (linked near far junction ref).count ref' =
      junction.records.countP fun link =>
        near link.value = some ref && far link.value = some ref' := by
  rw [linked, List.count_filterMap]
  refine List.countP_congr fun link _ => ?_
  by_cases hnear : near link.value = some ref <;> simp [hnear]

/-- A pair of rows is linked as often from either side. -/
theorem count_linked_comm (ref : Ref A) (ref' : Ref B) :
    (linked near far junction ref).count ref' = (linked far near junction ref').count ref := by
  rw [count_linked, count_linked]
  exact List.countP_congr fun link _ => by rw [Bool.and_comm]

theorem length_linked (ref : Ref A) :
    (linked near far junction ref).length =
      ((junction.records.filter fun link => (far link.value).isSome).filter fun link =>
        near link.value = some ref).length := by
  rw [linked, List.length_filterMap_eq_countP, List.filter_filter, ← List.countP_eq_length_filter]
  refine List.countP_congr fun link _ => ?_
  by_cases hnear : near link.value = some ref <;> simp [hnear]

variable {near} in
/-- References into the table on one side lead from its rows to every complete junction row. -/
theorem sum_length_linked {a : Table A}
    (hinside : ∀ link ∈ junction.records, ∀ ref, near link.value = some ref → ref.index < a.size) :
    (a.records.map fun t => (linked near far junction ⟨t.row⟩).length).sum =
      (complete near far junction).length := by
  -- the rows with a far reference, grouped by their near one
  have hcover : ∀ link ∈ junction.records.filter fun link => (far link.value).isSome,
      ∀ ref, near link.value = some ref → ref ∈ a.refs :=
    fun link hlink ref href =>
      Table.mem_refs_of_lt (hinside link (List.mem_filter.mp hlink).1 ref href)
  have hgroups := (flatMap_filter_perm_of_cover a.nodup_refs hcover).length_eq
  rw [Table.refs, List.flatMap_map, List.length_flatMap, List.filter_filter] at hgroups
  simp only [length_linked]
  exact hgroups

theorem complete_comm :
    (complete near far junction).length = (complete far near junction).length :=
  congrArg List.length (List.filter_congr fun _ _ => Bool.and_comm ..)

end Counting

/-! ## Following rows -/

theorem filterMapM_ok {α β : Type} (l : List α) (f : α → Option β) :
    l.filterMapM (fun x => (.ok (f x) : Except Failure (Option β))) = .ok (l.filterMap f) := by
  induction l with
  | nil => rfl
  | cons x l ih =>
    rw [List.filterMapM_cons, ih]
    cases h : f x with
    | none => rw [List.filterMap_cons_none h]; rfl
    | some y => rw [List.filterMap_cons_some h]; rfl

/-- Resolving where there is something to resolve is resolving what there is. -/
theorem filterMapM_resolve? {α β : Type} (t : Table β) (l : List α) (f : α → Option (Ref β)) :
    l.filterMapM (fun x => t.resolve? (f x)) = (l.filterMap f).mapM t.resolve := by
  induction l with
  | nil => rfl
  | cons x l ih =>
    rw [List.filterMapM_cons, ih]
    cases h : f x with
    | none => rw [List.filterMap_cons_none h]; rfl
    | some ref =>
      rw [List.filterMap_cons_some h, List.mapM_cons, Table.resolve?]
      cases t.resolve ref <;> rfl

theorem exists_mapM_resolve {t : Table B} {refs : List (Ref B)}
    (h : ∀ ref ∈ refs, ref.index < t.size) :
    ∃ records, refs.mapM t.resolve = .ok records ∧ ∀ r ∈ records, r ∈ t.records :=
  exists_mapM_eq_ok fun ref href => Table.exists_row_of_lt (h ref href)

/-- Rows whose records can be read are followed record by record. -/
theorem follow_of_rest {β : Type} {rows : Rows J} {l : List (Record J)}
    {next : Record J → Except Failure (Option β)} (h : rows.rest = .ok l) :
    follow rows next = l.filterMapM next := by
  unfold Rows.rest at h
  unfold follow
  generalize rows.ids = ids at h ⊢
  -- both sides read row by row; that all rows can be read rules out a failure in between
  induction ids generalizing l with
  | nil => cases h; rfl
  | cons id ids ih =>
    rw [List.mapM_cons] at h
    cases hrow : rows.table.row id with
    | error failure => rw [hrow] at h; contradiction
    | ok r =>
      rw [hrow] at h
      cases hrest : ids.mapM rows.table.row with
      | error failure => rw [hrest] at h; contradiction
      | ok rs =>
        rw [hrest] at h
        obtain rfl : r :: rs = l := Except.ok.inj h
        rw [List.filterMapM_cons, List.filterMapM_cons, ih hrest, hrow]
        rfl

section Follow

variable {near : Relationship J A} {far : Relationship J B} {junction : Table J} {b : Table B}
  {ref : Ref A} {rows : Rows J}

theorem filterMap_referring (f : J → Option (Ref B)) :
    (near.referring junction ref).filterMap (fun link => f link.value) =
      linked near.reference f junction ref := by
  rw [Relationship.referring, List.filterMap_filter, linked]
  simp only [decide_eq_true_eq]

theorem follow_reference (h : rows.rest = .ok (near.referring junction ref)) :
    follow rows (fun link => .ok (far.reference link.value)) =
      .ok (linked near.reference far.reference junction ref) := by
  rw [follow_of_rest h, filterMapM_ok, filterMap_referring]

theorem follow_targetOf (h : rows.rest = .ok (near.referring junction ref))
    (hfar : far.BuiltOver junction b) :
    follow rows (fun link => far.targetOf b link) =
      (linked near.reference far.reference junction ref).mapM b.resolve := by
  have hdemand : b.demand (.target far.name) far.target = .ok () := if_pos hfar.target_eq
  have htarget : (fun link : Record J => far.targetOf b link) =
      fun link => b.resolve? (far.reference link.value) := by
    funext link
    rw [Relationship.targetOf, hdemand]
    rfl
  rw [follow_of_rest h, htarget, filterMapM_resolve?, filterMap_referring]

theorem exists_mapM_linked (near : J → Option (Ref A)) (ref : Ref A)
    (hfar : far.BuiltOver junction b) :
    ∃ records, (linked near far.reference junction ref).mapM b.resolve = .ok records ∧
      ∀ r ∈ records, r ∈ b.records := by
  refine exists_mapM_resolve fun ref' href' => ?_
  obtain ⟨link, hlink, hfound⟩ := List.mem_filterMap.mp href'
  obtain ⟨-, hfound⟩ := Option.ite_none_right_eq_some.mp hfound
  exact hfar.valid.inside link hlink ref' hfound

end Follow

/-! ## Junctions -/

/-- What a junction finds from a row is one scan of the junction table, and both sides find the same
links. A query changes nothing but that the index of the side it starts from is built. -/
structure Chained (x : Junction A B J) (junction : Table J) (a : Table A) (b : Table B) : Prop where
  related : ∀ ref : Ref A,
    ((relatedRefs junction ref).run x).result =
        .ok (linked x.left.reference x.right.reference junction ref) ∧
      ∃ records, ((related junction b ref).run x).result = .ok records ∧
        (linked x.left.reference x.right.reference junction ref).mapM b.resolve = .ok records
  relatedBack : ∀ ref : Ref B,
    ((relatedBackRefs junction ref).run x).result =
        .ok (linked x.right.reference x.left.reference junction ref) ∧
      ∃ records, ((relatedBack junction a ref).run x).result = .ok records ∧
        (linked x.right.reference x.left.reference junction ref).mapM a.resolve = .ok records
  count_eq : ∀ (ref : Ref A) (ref' : Ref B),
    (linked x.left.reference x.right.reference junction ref).count ref' =
      (linked x.right.reference x.left.reference junction ref').count ref
  sum_length :
    (a.records.map fun t =>
        (linked x.left.reference x.right.reference junction ⟨t.row⟩).length).sum =
      (complete x.left.reference x.right.reference junction).length
  sum_length_back :
    (b.records.map fun t =>
        (linked x.right.reference x.left.reference junction ⟨t.row⟩).length).sum =
      (complete x.left.reference x.right.reference junction).length
  kept :
    (x.leftIndexed junction).BuiltOver junction a b ∧
      ∀ ref, ((links junction ref).run x).state = x.leftIndexed junction ∧
        ((Junction.related junction b ref).run x).state = x.leftIndexed junction ∧
        ((relatedRefs junction ref).run x).state = x.leftIndexed junction
  kept_back :
    (x.rightIndexed junction).BuiltOver junction a b ∧
      ∀ ref, ((linksBack junction ref).run x).state = x.rightIndexed junction ∧
        ((Junction.relatedBack junction a ref).run x).state = x.rightIndexed junction ∧
        ((relatedBackRefs junction ref).run x).state = x.rightIndexed junction

theorem result_build_eq_ok_iff {left : Relationship J A} {right : Relationship J B}
    {x : Junction A B J} :
    ((build left right).run ()).result = .ok x ↔ left.source = right.source ∧ x = { left, right } := by
  unfold build
  by_cases hsources : left.source = right.source
  · simp [hsources, Except.map, eq_comm]
  · simp [hsources, Traced.run_bind]

section Queries

variable {x : Junction A B J} {junction : Table J} {a : Table A} {b : Table B}

theorem BuiltOver.links (h : x.BuiltOver junction a b) (ref : Ref A) :
    ∃ rows, ((links junction ref).run x).result = .ok rows ∧
      rows.rest = .ok (x.left.referring junction ref) := by
  obtain ⟨rows, hrun, hrows⟩ := h.left.referrers_selected ref
  exact ⟨rows, hrun, hrows.rest_eq⟩

theorem BuiltOver.linksBack (h : x.BuiltOver junction a b) (ref : Ref B) :
    ∃ rows, ((linksBack junction ref).run x).result = .ok rows ∧
      rows.rest = .ok (x.right.referring junction ref) := by
  obtain ⟨rows, hrun, hrows⟩ := h.right.referrers_selected ref
  exact ⟨rows, hrun, hrows.rest_eq⟩

theorem BuiltOver.state_links (h : x.BuiltOver junction a b) (ref : Ref A) :
    ((Junction.links junction ref).run x).state = x.leftIndexed junction :=
  congrArg x.withLeft (h.left.state_referrers ref)

theorem BuiltOver.state_linksBack (h : x.BuiltOver junction a b) (ref : Ref B) :
    ((Junction.linksBack junction ref).run x).state = x.rightIndexed junction :=
  congrArg x.withRight (h.right.state_referrers ref)

theorem BuiltOver.state_links_then {α : Type} {f : Rows J → Traced (Junction A B J) α}
    (h : x.BuiltOver junction a b) (ref : Ref A) (hf : ∀ rows t, ((f rows).run t).state = t) :
    ((Junction.links junction ref >>= f).run x).state = x.leftIndexed junction := by
  rw [Traced.state_bind_of_keeps hf]
  exact h.state_links ref

theorem BuiltOver.state_linksBack_then {α : Type} {f : Rows J → Traced (Junction A B J) α}
    (h : x.BuiltOver junction a b) (ref : Ref B) (hf : ∀ rows t, ((f rows).run t).state = t) :
    ((Junction.linksBack junction ref >>= f).run x).state = x.rightIndexed junction := by
  rw [Traced.state_bind_of_keeps hf]
  exact h.state_linksBack ref

theorem BuiltOver.result_related (h : x.BuiltOver junction a b) (ref : Ref A) :
    ((relatedRefs junction ref).run x).result =
        .ok (linked x.left.reference x.right.reference junction ref) ∧
      ∃ records, ((related junction b ref).run x).result = .ok records ∧
        (linked x.left.reference x.right.reference junction ref).mapM b.resolve = .ok records := by
  obtain ⟨rows, hrun, hrest⟩ := h.links ref
  obtain ⟨records, hrecords, -⟩ := exists_mapM_linked x.left.reference ref h.right
  refine ⟨?_, records, ?_, hrecords⟩
  · refine Traced.result_bind_eq_ok_iff.mpr ⟨rows, hrun, ?_⟩
    exact follow_reference hrest
  · refine Traced.result_bind_eq_ok_iff.mpr ⟨rows, hrun, ?_⟩
    exact (follow_targetOf hrest h.right).trans hrecords

theorem BuiltOver.result_relatedBack (h : x.BuiltOver junction a b) (ref : Ref B) :
    ((relatedBackRefs junction ref).run x).result =
        .ok (linked x.right.reference x.left.reference junction ref) ∧
      ∃ records, ((relatedBack junction a ref).run x).result = .ok records ∧
        (linked x.right.reference x.left.reference junction ref).mapM a.resolve = .ok records := by
  obtain ⟨rows, hrun, hrest⟩ := h.linksBack ref
  obtain ⟨records, hrecords, -⟩ := exists_mapM_linked x.right.reference ref h.left
  refine ⟨?_, records, ?_, hrecords⟩
  · refine Traced.result_bind_eq_ok_iff.mpr ⟨rows, hrun, ?_⟩
    exact follow_reference hrest
  · refine Traced.result_bind_eq_ok_iff.mpr ⟨rows, hrun, ?_⟩
    exact (follow_targetOf hrest h.left).trans hrecords

/-- Relationships over one junction table can be chained, and the junction links the same pairs of
rows from both sides. -/
theorem chained_of_builtOver (h : x.BuiltOver junction a b) :
    ((build x.left x.right).run ()).result = .ok x ∧ x.Chained junction a b := by
  -- all that is asked of the two sides is that they are columns of one table
  have hsource : x.left.source = x.right.source :=
    h.left.sourced.source_eq.trans h.right.sourced.source_eq.symm
  constructor
  · simp [build, hsource, Except.map]
  · exact {
      related := h.result_related
      relatedBack := h.result_relatedBack
      count_eq := count_linked_comm _ _ junction
      sum_length := sum_length_linked _ junction h.left.valid.inside
      sum_length_back :=
        (sum_length_linked _ junction h.right.valid.inside).trans (complete_comm _ _ junction)
      kept :=
        ⟨⟨h.left.indexed, h.right⟩, fun ref => ⟨h.state_links ref,
          h.state_links_then ref fun _ _ => rfl, h.state_links_then ref fun _ _ => rfl⟩⟩
      kept_back :=
        ⟨⟨h.left, h.right.indexed⟩, fun ref => ⟨h.state_linksBack ref,
          h.state_linksBack_then ref fun _ _ => rfl, h.state_linksBack_then ref fun _ _ => rfl⟩⟩ }

end Queries

/-- Two pupils. -/
def pupils : Table String where
  id := { value := 5 }
  name := "pupil"
  origin := 0
  rows := #["Ada", "Max"]
  size_le := by decide

/-- Two clubs. -/
def clubs : Table String where
  id := { value := 6 }
  name := "club"
  origin := 1
  rows := #["chess", "choir"]
  size_le := by decide

/-- Who joined which club: one pair twice, and two rows that are not filled in on one side. -/
def memberships : Table (Option RowId × Option RowId) where
  id := { value := 7 }
  name := "membership"
  origin := 2
  rows := #[(RowId.ofIndex? 0, RowId.ofIndex? 1), (none, RowId.ofIndex? 1),
    (RowId.ofIndex? 0, RowId.ofIndex? 1), (RowId.ofIndex? 1, none),
    (RowId.ofIndex? 1, RowId.ofIndex? 0)]
  size_le := by decide

/-- The pupils and clubs of the memberships, with the index of one side built at its first use. -/
def joined : Junction String String (Option RowId × Option RowId) where
  left := .ofValid {} { name := "pupil", optionality := .optional } memberships pupils
    fun m => m.1.map Ref.mk
  right := .ofValid { eager := false } { name := "club", optionality := .optional } memberships
    clubs fun m => m.2.map Ref.mk

theorem chained_of_builtOver_memberships :
    joined.BuiltOver memberships pupils clubs ∧
      ((build joined.left joined.right).run ()).result = .ok joined ∧
        joined.Chained memberships pupils clubs := by
  have built : joined.BuiltOver memberships pupils clubs :=
    ⟨⟨_, _, _, Relationship.result_build_eq_ok_iff.mpr ⟨rfl, rfl⟩⟩,
      ⟨_, _, _, Relationship.result_build_eq_ok_iff.mpr ⟨rfl, rfl⟩⟩⟩
  exact ⟨built, chained_of_builtOver built⟩

end StaticTables.Junction
