import Mathlib
import StaticTables.Proofs.Link.VariantConstruction
import StaticTables.Proofs.Table.Grouping

/-!
# Rows by tag and by value

A variant column is indexed by the place of the tag and then by the row pointed at. One value is one
key, and the keys of a tag are those between the first and the last row at its place. The rows found
by tag, together with those that hold nothing, divide the table, and the rows found by value divide
the rows of their tag.
-/
namespace StaticTables.VariantColumn

variable {S τ : Type} [DecidableEq τ]

/-! ## Keys -/

instance : LawfulKey VariantKey :=
  have : Std.TransCmp IndexKey.compareRow := inferInstance
  inferInstanceAs (Std.TransCmp (IndexKey.comparePair Ord.compare IndexKey.compareRow))

theorem same_variantKey_iff {k k' : VariantKey} : IndexKey.same k k' ↔ k = k' := by
  show ((Ord.compare k.1 k'.1).then (IndexKey.compareRow k.2 k'.2) == .eq) = true ↔ _
  rw [beq_iff_eq, Ordering.then_eq_eq, Nat.compare_eq_eq, IndexKey.compareRow_eq_iff]
  exact Prod.ext_iff.symm

/-- All rows lie between the first and the last one, so only the place decides. -/
theorem between_first_last_iff {place : Nat} {k : VariantKey} :
    IndexKey.between (place, RowId.first) (place, RowId.last) k ↔ k.1 = place := by
  have hfirst : (IndexKey.compareRow RowId.first k.2).isLE :=
    Nat.isLE_compare.mpr (Nat.zero_le _)
  have hlast : (IndexKey.compareRow k.2 RowId.last).isLE :=
    Nat.isLE_compare.mpr (Nat.le_pred_of_lt k.2.index_lt)
  show ((Ord.compare place k.1).then (IndexKey.compareRow RowId.first k.2)).isLE &&
    ((Ord.compare k.1 place).then (IndexKey.compareRow k.2 RowId.last)).isLE ↔ _
  rcases Nat.lt_trichotomy k.1 place with hlt | heq | hgt
  · simp [Nat.compare_eq_gt.mpr hlt, hlt.ne]
  · simp [heq, hfirst, hlast]
  · simp [Nat.compare_eq_gt.mpr hgt, hgt.ne']

/-- Tags at the same place are the same tag. -/
theorem idxOf?_eq_some_iff_eq {tags : List τ} {tag other : τ} {place : Nat}
    (h : tags.idxOf? tag = some place) : tags.idxOf? other = some place ↔ other = tag := by
  constructor
  · intro hother
    obtain ⟨_, hget, -⟩ := List.idxOf?_eq_some_iff.mp h
    obtain ⟨_, hget', -⟩ := List.idxOf?_eq_some_iff.mp hother
    rw [← hget, hget']
  · intro hsame
    rw [hsame, h]

theorem any_columnKey_between {tags : List τ} {value : S → Option (VariantValue τ)} {tag : τ}
    {place : Nat} (h : tags.idxOf? tag = some place) (s : S) :
    (columnKey tags value s).any
        (IndexKey.between (place, RowId.first) (place, RowId.last)) =
      decide ((value s).map VariantValue.tag = some tag) := by
  unfold columnKey
  cases value s with
  | none => rfl
  | some v =>
    rw [Bool.eq_iff_iff, decide_eq_true_eq]
    show ((tags.idxOf? v.tag).map (·, v.row)).any _ = true ↔ _
    rw [Option.map_some, Option.some.injEq, ← idxOf?_eq_some_iff_eq h]
    cases tags.idxOf? v.tag with
    | none => simp
    | some place' =>
      rw [Option.map_some, Option.any_some, between_first_last_iff, Option.some.injEq]

theorem any_columnKey_same {tags : List τ} {value : S → Option (VariantValue τ)}
    {v : VariantValue τ} {key : VariantKey} (h : keyOf tags v = some key) (s : S) :
    (columnKey tags value s).any (IndexKey.same · key) = decide (value s = some v) := by
  obtain ⟨place, hplace, rfl⟩ := Option.map_eq_some_iff.mp h
  unfold columnKey
  cases value s with
  | none => rfl
  | some w =>
    rw [Bool.eq_iff_iff, decide_eq_true_eq, Option.some.injEq]
    show ((tags.idxOf? w.tag).map (·, w.row)).any _ = true ↔ _
    have hvalue : w = v ↔ w.tag = v.tag ∧ w.row = v.row := by
      cases w
      cases v
      simp
    rw [hvalue, ← idxOf?_eq_some_iff_eq hplace]
    cases tags.idxOf? w.tag with
    | none => simp
    | some place' =>
      rw [Option.map_some, Option.any_some, same_variantKey_iff, Prod.mk.injEq, Option.some.injEq]

/-! ## Queries -/

/-- The records whose value has a tag, in stored order. -/
def withTag (c : VariantColumn S τ) (source : Table S) (tag : τ) : List (Record S) :=
  source.records.filter fun s => (c.valueOf s).map VariantValue.tag = some tag

/-- The records that hold a value, in stored order. -/
def withValue (c : VariantColumn S τ) (source : Table S) (v : VariantValue τ) : List (Record S) :=
  source.records.filter fun s => c.valueOf s = some v

omit [DecidableEq τ] in
/-- The records that hold nothing, in stored order. -/
def without (c : VariantColumn S τ) (source : Table S) : List (Record S) :=
  source.records.filter fun s => (c.valueOf s).isNone

/-- The rows before a place, in order. -/
def rowsBelow (n : Nat) : List RowId := (List.range n).filterMap RowId.ofIndex?

theorem mem_rowsBelow_iff {n : Nat} {row : RowId} : row ∈ rowsBelow n ↔ row.index < n := by
  rw [rowsBelow, List.mem_filterMap]
  constructor
  · intro h
    obtain ⟨i, hi, hrow⟩ := h
    rw [RowId.ofIndex?_eq_some_iff.mp hrow]
    exact List.mem_range.mp hi
  · intro h
    exact ⟨row.index, List.mem_range.mpr h, RowId.ofIndex?_index row⟩

theorem nodup_rowsBelow (n : Nat) : (rowsBelow n).Nodup := by
  refine List.Nodup.filterMap (fun i j row hi hj => ?_) List.nodup_range
  rw [← RowId.ofIndex?_eq_some_iff.mp hi, ← RowId.ofIndex?_eq_some_iff.mp hj]

section Queries

variable {c : VariantColumn S τ} {source : Table S} {candidates : List (Candidate τ)}

theorem BuiltOver.tag_mem (h : c.BuiltOver source candidates)
    (distinct : (candidates.map Candidate.tag).Nodup) {s : Record S} (hs : s ∈ source.records)
    {v : VariantValue τ} (hv : c.valueOf s = some v) : v.tag ∈ c.tags := by
  have hfits := h.fits distinct s hs
  rw [hv] at hfits
  obtain ⟨candidate, hmem, htag, -⟩ := hfits
  rw [h.tags_eq]
  exact List.mem_map.mpr ⟨candidate, hmem, htag⟩

theorem BuiltOver.tag_ne_of_undeclared (h : c.BuiltOver source candidates)
    (distinct : (candidates.map Candidate.tag).Nodup) {tag : τ} (hundeclared : tag ∉ c.tags)
    {s : Record S} (hs : s ∈ source.records) :
    (c.valueOf s).map VariantValue.tag ≠ some tag := by
  intro htag
  obtain ⟨v, hv, rfl⟩ := Option.map_eq_some_iff.mp htag
  exact hundeclared (h.tag_mem distinct hs hv)

theorem BuiltOver.lt_length (h : c.BuiltOver source candidates)
    (distinct : (candidates.map Candidate.tag).Nodup) {candidate : Candidate τ}
    (hc : candidate ∈ candidates) {s : Record S} (hs : s ∈ source.records) {v : VariantValue τ}
    (hv : c.valueOf s = some v) (htag : v.tag = candidate.tag) :
    v.row.index < candidate.length := by
  have hfits := h.fits distinct s hs
  rw [hv] at hfits
  obtain ⟨candidate', hmem, htag', hlt⟩ := hfits
  rwa [List.inj_on_of_nodup_map distinct hmem hc (htag'.trans htag)] at hlt

theorem selected_empty {test : Record S → Bool} (h : ∀ s ∈ source.records, test s = false) :
    source.Selected test (Rows.empty source) := by
  refine .of_ids rfl ?_
  rw [List.filter_eq_nil_iff.mpr fun s hs => by simp [h s hs]]
  rfl

/-! ### By tag -/

section Runs

variable (source)

theorem run_tagged_of_undeclared {tag : τ} (h : tag ∉ c.tags) :
    (tagged source tag).run c = (pure (Rows.empty source) : Traced _ (Rows S)).run c ∧
      (countTagged source tag).run c = (pure 0 : Traced _ Nat).run c := by
  have hplace : c.tags.idxOf? tag = none := List.idxOf?_eq_none_iff.mpr h
  rw [tagged, countTagged, Traced.run_get_bind, Traced.run_get_bind, hplace]
  exact ⟨rfl, rfl⟩

theorem run_tagged_of_place {tag : τ} {place : Nat} (h : c.tags.idxOf? tag = some place) :
    (tagged source tag).run c = (index source >>= fun i => Traced.building
        (i.range source (place, RowId.first) (place, RowId.last))).run c ∧
      (countTagged source tag).run c = (index source >>= fun i =>
        pure (i.countRange (place, RowId.first) (place, RowId.last))).run c := by
  rw [tagged, countTagged, Traced.run_get_bind, Traced.run_get_bind, h]
  exact ⟨rfl, rfl⟩

theorem run_holding_of_undeclared {v : VariantValue τ} (h : v.tag ∉ c.tags) :
    (holding source v).run c = (pure (Rows.empty source) : Traced _ (Rows S)).run c := by
  rw [holding, Traced.run_get_bind, keyOf, List.idxOf?_eq_none_iff.mpr h]
  rfl

theorem run_holding_of_key {v : VariantValue τ} {key : VariantKey} (h : keyOf c.tags v = some key) :
    (holding source v).run c =
      (index source >>= fun i => Traced.building (i.find source key)).run c := by
  rw [holding, Traced.run_get_bind, h]

end Runs

theorem exists_keyOf {tags : List τ} {v : VariantValue τ} (h : v.tag ∈ tags) :
    ∃ key, keyOf tags v = some key := by
  obtain ⟨place, hplace⟩ := Option.isSome_iff_exists.mp (List.isSome_idxOf?.mpr h)
  exact ⟨(place, v.row), by rw [keyOf, hplace]; rfl⟩

theorem BuiltOver.tagged_selected (h : c.BuiltOver source candidates)
    (distinct : (candidates.map Candidate.tag).Nodup) (tag : τ) :
    ∃ rows, ((tagged source tag).run c).result = .ok rows ∧
      source.Selected (fun s => (c.valueOf s).map VariantValue.tag = some tag) rows ∧
      ((countTagged source tag).run c).result = .ok rows.ids.length := by
  cases hplace : c.tags.idxOf? tag with
  | none =>
    have hundeclared := List.idxOf?_eq_none_iff.mp hplace
    obtain ⟨htagged, hcount⟩ := run_tagged_of_undeclared source hundeclared
    rw [htagged, hcount]
    -- the column is not looked at, so that nothing is missed is due to the check at construction
    refine ⟨_, rfl, selected_empty fun s hs => decide_eq_false ?_, rfl⟩
    exact h.tag_ne_of_undeclared distinct hundeclared hs
  | some place =>
    obtain ⟨htagged, hcount⟩ := run_tagged_of_place source hplace
    obtain ⟨rows, hrange, hrows⟩ := Index.range_selects source (columnKey c.tags c.value)
      (place, RowId.first) (place, RowId.last)
    refine ⟨rows, ?_, hrows.selected fun s => any_columnKey_between hplace s.value, ?_⟩
    · rw [htagged, Traced.result_bind_eq_ok_iff]
      exact ⟨_, h.sourced.run_index.1, hrange⟩
    · rw [hcount, Traced.result_bind_eq_ok_iff]
      refine ⟨_, h.sourced.run_index.1, congrArg Except.ok ?_⟩
      rw [Index.countRange_ofColumn, hrows.ids_eq, List.length_map]

theorem BuiltOver.state_tagged (h : c.BuiltOver source candidates) (tag : τ) :
    (((tagged source tag).run c).state = c ∨
        ((tagged source tag).run c).state = c.indexed source) ∧
      (((countTagged source tag).run c).state = c ∨
        ((countTagged source tag).run c).state = c.indexed source) := by
  cases hplace : c.tags.idxOf? tag with
  | none =>
    obtain ⟨htagged, hcount⟩ :=
      run_tagged_of_undeclared source (List.idxOf?_eq_none_iff.mp hplace)
    rw [htagged, hcount]
    exact ⟨.inl rfl, .inl rfl⟩
  | some place =>
    obtain ⟨htagged, hcount⟩ := run_tagged_of_place source hplace
    rw [htagged, hcount]
    exact ⟨.inr (h.state_index_then fun _ _ => rfl), .inr (h.state_index_then fun _ _ => rfl)⟩

/-! ### By value -/

theorem BuiltOver.holding_selected (h : c.BuiltOver source candidates)
    (distinct : (candidates.map Candidate.tag).Nodup) (v : VariantValue τ) :
    ∃ rows, ((holding source v).run c).result = .ok rows ∧
      source.Selected (fun s => c.valueOf s = some v) rows := by
  by_cases htag : v.tag ∈ c.tags
  · obtain ⟨key, hkey⟩ := exists_keyOf htag
    obtain ⟨rows, hfind, hrows⟩ := Index.find_selects source (columnKey c.tags c.value) key
    refine ⟨rows, ?_, hrows.selected fun s => any_columnKey_same hkey s.value⟩
    rw [run_holding_of_key source hkey, Traced.result_bind_eq_ok_iff]
    exact ⟨_, h.sourced.run_index.1, hfind⟩
  · rw [run_holding_of_undeclared source htag]
    refine ⟨_, rfl, selected_empty fun s hs => decide_eq_false fun hv => ?_⟩
    exact h.tag_ne_of_undeclared distinct htag hs (congrArg (Option.map VariantValue.tag) hv)

theorem BuiltOver.state_holding (h : c.BuiltOver source candidates) (v : VariantValue τ) :
    ((holding source v).run c).state = c ∨
      ((holding source v).run c).state = c.indexed source := by
  by_cases htag : v.tag ∈ c.tags
  · obtain ⟨key, hkey⟩ := exists_keyOf htag
    rw [run_holding_of_key source hkey]
    exact .inr (h.state_index_then fun _ _ => rfl)
  · rw [run_holding_of_undeclared source htag]
    exact .inl rfl

/-! ### The classes of the table -/

/-- The rows of the declared tags and the rows that hold nothing are all rows, each once. -/
theorem BuiltOver.flatMap_withTag_perm (h : c.BuiltOver source candidates)
    (distinct : (candidates.map Candidate.tag).Nodup) :
    (c.tags.flatMap (c.withTag source) ++ c.without source).Perm source.records := by
  have hcover : ∀ s ∈ source.records, ∀ tag, (c.valueOf s).map VariantValue.tag = some tag →
      tag ∈ c.tags := by
    intro s hs tag htag
    by_contra hundeclared
    exact h.tag_ne_of_undeclared distinct hundeclared hs htag
  have hgroups := flatMap_filter_perm_of_cover (h.tags_eq ▸ distinct) hcover
  -- a row has a tag unless it holds nothing
  refine (hgroups.append_right _).trans ?_
  refine (List.Perm.of_eq ?_).trans
    (List.filter_append_perm (fun s => ((c.valueOf s).map VariantValue.tag).isSome) source.records)
  refine congrArg _ (List.filter_congr fun s _ => ?_)
  cases c.valueOf s <;> rfl

/-- The rows of a tag are the rows of its values, each once. -/
theorem BuiltOver.flatMap_withValue_perm (h : c.BuiltOver source candidates)
    (distinct : (candidates.map Candidate.tag).Nodup) {candidate : Candidate τ}
    (hc : candidate ∈ candidates) :
    ((rowsBelow candidate.length).flatMap fun row =>
      c.withValue source { tag := candidate.tag, row }).Perm (c.withTag source candidate.tag) := by
  have hmem : ∀ s ∈ c.withTag source candidate.tag,
      ∃ v, c.valueOf s = some v ∧ v.tag = candidate.tag ∧ v.row ∈ rowsBelow candidate.length := by
    intro s hs
    obtain ⟨hs, htag⟩ := List.mem_filter.mp hs
    obtain ⟨v, hv, htag⟩ := Option.map_eq_some_iff.mp (of_decide_eq_true htag)
    exact ⟨v, hv, htag, mem_rowsBelow_iff.mpr (h.lt_length distinct hc hs hv htag)⟩
  have hcover : ∀ s ∈ c.withTag source candidate.tag, ∀ row,
      (c.valueOf s).map VariantValue.row = some row → row ∈ rowsBelow candidate.length := by
    intro s hs row hrow
    obtain ⟨v, hv, -, hbelow⟩ := hmem s hs
    rw [hv] at hrow
    exact Option.some.inj hrow ▸ hbelow
  have hgroups := flatMap_filter_perm_of_cover (nodup_rowsBelow candidate.length) hcover
  -- every row of the tag has a row to group by, and the groups are those of the values
  have hall : (c.withTag source candidate.tag).filter
      (fun s => ((c.valueOf s).map VariantValue.row).isSome) = c.withTag source candidate.tag := by
    refine List.filter_eq_self.mpr fun s hs => ?_
    obtain ⟨v, hv, -⟩ := hmem s hs
    rw [hv]
    rfl
  have hgroup : ∀ row, (c.withTag source candidate.tag).filter
      (fun s => (c.valueOf s).map VariantValue.row = some row) =
        c.withValue source { tag := candidate.tag, row } := by
    intro row
    rw [withTag, List.filter_filter, withValue]
    refine List.filter_congr fun s _ => ?_
    cases c.valueOf s with
    | none => rfl
    | some v => cases v; simp [Bool.and_comm]
  rw [hall] at hgroups
  simpa only [hgroup] using hgroups

/-- What can be asked of a variant column divides its table: by tag, and within a tag by value. A
query changes nothing but that the index may be built, which leaves a column built over the table.
-/
structure Classified (c : VariantColumn S τ) (source : Table S)
    (candidates : List (Candidate τ)) : Prop where
  tagged : ∀ tag, ∃ rows, ((tagged source tag).run c).result = .ok rows ∧
    source.Selected (fun s => (c.valueOf s).map VariantValue.tag = some tag) rows ∧
    rows.rest = .ok (c.withTag source tag) ∧
    (tag ∉ candidates.map Candidate.tag → rows.ids = []) ∧
    ((countTagged source tag).run c).result = .ok rows.ids.length
  holding : ∀ v, ∃ rows, ((holding source v).run c).result = .ok rows ∧
    source.Selected (fun s => c.valueOf s = some v) rows ∧
    rows.rest = .ok (c.withValue source v) ∧
    (v.tag ∉ candidates.map Candidate.tag → rows.ids = [])
  vacant : source.Selected (fun s => (c.valueOf s).isNone) (c.vacant source)
  partition : ((candidates.map Candidate.tag).flatMap (c.withTag source) ++
    c.without source).Perm source.records
  union : ∀ candidate ∈ candidates,
    ((rowsBelow candidate.length).flatMap fun row =>
      c.withValue source { tag := candidate.tag, row }).Perm (c.withTag source candidate.tag)
  kept :
    (c.indexed source).BuiltOver source candidates ∧
      (∀ tag, (((VariantColumn.tagged source tag).run c).state = c ∨
          ((VariantColumn.tagged source tag).run c).state = c.indexed source) ∧
        (((countTagged source tag).run c).state = c ∨
          ((countTagged source tag).run c).state = c.indexed source)) ∧
      ∀ v, ((VariantColumn.holding source v).run c).state = c ∨
        ((VariantColumn.holding source v).run c).state = c.indexed source

theorem BuiltOver.classified (h : c.BuiltOver source candidates)
    (distinct : (candidates.map Candidate.tag).Nodup) : c.Classified source candidates where
  tagged tag := by
    obtain ⟨rows, hrun, hrows, hcount⟩ := h.tagged_selected distinct tag
    refine ⟨rows, hrun, hrows, hrows.rest_eq, fun hundeclared => ?_, hcount⟩
    refine hrows.ids_eq_nil fun s hs => decide_eq_false ?_
    exact h.tag_ne_of_undeclared distinct (h.tags_eq ▸ hundeclared) hs
  holding v := by
    obtain ⟨rows, hrun, hrows⟩ := h.holding_selected distinct v
    refine ⟨rows, hrun, hrows, hrows.rest_eq, fun hundeclared => ?_⟩
    refine hrows.ids_eq_nil fun s hs => decide_eq_false fun hv => ?_
    exact h.tag_ne_of_undeclared distinct (h.tags_eq ▸ hundeclared) hs
      (congrArg (Option.map VariantValue.tag) hv)
  vacant := .of_ids rfl (Rows.ids_ofList _ _)
  partition := h.tags_eq ▸ h.flatMap_withTag_perm distinct
  union _ hc := h.flatMap_withValue_perm distinct hc
  kept := ⟨h.indexed, h.state_tagged, h.state_holding⟩

end Queries

/-! ## Construction and queries -/

/-- Over distinct tags a strict construction succeeds when every row fits and otherwise reports the
first row that does not; the column that it gives divides the table by tags and values. -/
theorem build_reports_or_classifies {settings : Settings} (strict : settings.validation = .strict)
    (name : String) (optionality : Optionality) {candidates : List (Candidate τ)}
    (distinct : (candidates.map Candidate.tag).Nodup) (describe : τ → String) (source : Table S)
    (value : S → Option (VariantValue τ)) :
    ((∃ c, ((build settings name optionality candidates describe source value).run ()).result =
        .ok c) ↔ ∀ s ∈ source.records, Fits optionality candidates (value s.value)) ∧
      (∀ before s after, source.records = before ++ s :: after →
        (∀ r ∈ before, Fits optionality candidates (value r.value)) →
        ¬ Fits optionality candidates (value s.value) →
        ∃ cause, Flaw name optionality candidates describe s.row (value s.value) cause ∧
          ((build settings name optionality candidates describe source value).run ()).result =
            .error (.error (Error.located { cause } source.name name "variant.build"))) ∧
      ∀ c, ((build settings name optionality candidates describe source value).run ()).result =
          .ok c →
        c.tags = candidates.map Candidate.tag ∧ c.value = value ∧
          c.Classified source candidates := by
  refine ⟨?_, fun before s after hrecords hbefore hs => ?_, fun c hbuild => ?_⟩
  · rw [← @check_eq_ok_iff _ _ _ name optionality candidates describe source value distinct]
    simp only [result_build_eq_ok_iff, exists_and_left, exists_eq, and_true]
  · obtain ⟨cause, hflaw, hcheck⟩ := check_of_first_flaw distinct hrecords hbefore hs
    exact ⟨cause, hflaw, result_build_of_refuse strict hcheck⟩
  · have built : c.BuiltOver source candidates :=
      ⟨settings, name, optionality, describe, value, hbuild⟩
    obtain ⟨-, rfl⟩ := result_build_eq_ok_iff.mp hbuild
    exact ⟨rfl, rfl, built.classified distinct⟩

/-- What a place can be. -/
inductive PlaceKind where
  | city
  | country
deriving DecidableEq

/-- Three cities and two countries. -/
def places : List (Candidate PlaceKind) := [⟨.city, 3⟩, ⟨.country, 2⟩]

/-- Where people were born, as far as it is known: a city, or only a country. -/
def births : Table (Option (VariantValue PlaceKind)) where
  id := { value := 8 }
  name := "birth"
  origin := 0
  rows := #[(RowId.ofIndex? 1).map (⟨.country, ·⟩), none, (RowId.ofIndex? 2).map (⟨.city, ·⟩),
    (RowId.ofIndex? 0).map (⟨.city, ·⟩), (RowId.ofIndex? 2).map (⟨.city, ·⟩)]
  size_le := by decide

/-- The column is built if it may hold nothing, and refused for its second row if it may not. -/
theorem build_reports_or_classifies_births :
    (places.map Candidate.tag).Nodup ∧
      (∃ c, ((build {} "place" .optional places (fun _ => "") births id).run ()).result = .ok c ∧
        c.Classified births places) ∧
      ∃ cause, Flaw "place" .required places (fun _ => "") { index := 1 } none cause ∧
        ((build {} "place" .required places (fun _ => "") births id).run ()).result =
          .error (.error (Error.located { cause } "birth" "place" "variant.build")) := by
  have distinct : (places.map Candidate.tag).Nodup := by decide
  have hoptional := @build_reports_or_classifies _ _ _ {} rfl "place" .optional places distinct
    (fun _ => "") births id
  have hrequired := @build_reports_or_classifies _ _ _ {} rfl "place" .required places distinct
    (fun _ => "") births id
  refine ⟨distinct, ⟨_, rfl, (hoptional.2.2 _ rfl).2.2⟩, ?_⟩
  refine hrequired.2.1 [births.recordAt ⟨0, by decide⟩] (births.recordAt ⟨1, by decide⟩) _ rfl ?_ ?_
  · intro r hr
    obtain rfl := List.mem_singleton.mp hr
    exact ⟨⟨.country, 2⟩, by simp [places], rfl, by decide⟩
  · intro hfits
    cases hfits

end StaticTables.VariantColumn
