import Mathlib
import StaticTables.Link.Variant
import StaticTables.Proofs.Link.Construction

/-!
# Construction of variant columns

A variant column is built when every row fits: its value is absent only with leave, and otherwise
has a declared tag and points into the table of this tag. The error of a strict construction is
about the first row that does not fit.
-/
namespace StaticTables.VariantColumn

variable {S τ : Type} [DecidableEq τ]

/-! ## What a row may hold -/

/-- The value is absent and may be, or it points into the table of a declared tag. -/
def Fits (optionality : Optionality) (candidates : List (Candidate τ)) :
    Option (VariantValue τ) → Prop
  | none => optionality = .optional
  | some v => ∃ candidate ∈ candidates, candidate.tag = v.tag ∧ v.row.index < candidate.length

/-- What is to be reported about a row with a value that does not fit. -/
inductive Flaw (name : String) (optionality : Optionality) (candidates : List (Candidate τ))
    (describe : τ → String) (row : RowId) : Option (VariantValue τ) → Error.Cause → Prop
  | missing (required : optionality = .required) :
    Flaw name optionality candidates describe row none (.missingVariant name row)
  | unknown {v : VariantValue τ} (undeclared : v.tag ∉ candidates.map Candidate.tag) :
    Flaw name optionality candidates describe row (some v)
      (.unknownVariant name row (describe v.tag))
  | dangling {v : VariantValue τ} {candidate : Candidate τ} (declared : candidate ∈ candidates)
      (tag_eq : candidate.tag = v.tag) (past : candidate.length ≤ v.row.index) :
    Flaw name optionality candidates describe row (some v)
      (.danglingReference name row (describe v.tag) v.row.index candidate.length)

section Check

variable {name : String} {optionality : Optionality} {candidates : List (Candidate τ)}
  {describe : τ → String} {source : Table S} {value : S → Option (VariantValue τ)}

/-- A value fits and is passed, or it has a flaw and is refused for it. -/
theorem checkValue_fits_or_flaw (row : RowId) (v : Option (VariantValue τ)) :
    (Fits optionality candidates v ∧
        checkValue name optionality candidates describe row v = .ok ()) ∨
      ∃ cause, Flaw name optionality candidates describe row v cause ∧
        checkValue name optionality candidates describe row v = refuse cause := by
  cases v with
  | none =>
    cases optionality with
    | required => exact .inr ⟨_, .missing rfl, rfl⟩
    | optional => exact .inl ⟨rfl, rfl⟩
  | some v =>
    rw [checkValue]
    cases hfind : candidates.find? (·.tag = v.tag) with
    | none =>
      refine .inr ⟨_, .unknown fun hdeclared => ?_, rfl⟩
      obtain ⟨c, hc, hctag⟩ := List.mem_map.mp hdeclared
      exact List.find?_eq_none.mp hfind c hc (decide_eq_true hctag)
    | some c =>
      -- the candidate of the tag decides about the row
      have hc := List.mem_of_find?_eq_some hfind
      have htag := List.find?_some hfind
      by_cases hlt : v.row.index < c.length
      · exact .inl ⟨⟨c, hc, of_decide_eq_true htag, hlt⟩, if_neg (Nat.not_le.mpr hlt)⟩
      · exact .inr ⟨_, .dangling hc (of_decide_eq_true htag) (Nat.not_lt.mp hlt),
          if_pos (Nat.not_lt.mp hlt)⟩

omit [DecidableEq τ] in
theorem Flaw.not_fits (distinct : (candidates.map Candidate.tag).Nodup) {row : RowId}
    {v : Option (VariantValue τ)} {cause : Error.Cause}
    (flaw : Flaw name optionality candidates describe row v cause) :
    ¬ Fits optionality candidates v := by
  intro hfits
  cases flaw with
  | missing required =>
    rw [required] at hfits
    cases hfits
  | unknown undeclared =>
    obtain ⟨c, hc, hctag, -⟩ := hfits
    exact undeclared (List.mem_map.mpr ⟨c, hc, hctag⟩)
  | dangling declared tag_eq past =>
    obtain ⟨c, hc, hctag, hlt⟩ := hfits
    rw [List.inj_on_of_nodup_map distinct hc declared (hctag.trans tag_eq.symm)] at hlt
    exact Nat.not_lt.mpr past hlt

theorem checkValue_cases (distinct : (candidates.map Candidate.tag).Nodup) (row : RowId)
    (v : Option (VariantValue τ)) :
    (Fits optionality candidates v ∧
        checkValue name optionality candidates describe row v = .ok ()) ∨
      ¬ Fits optionality candidates v ∧
        ∃ cause, Flaw name optionality candidates describe row v cause ∧
          checkValue name optionality candidates describe row v = refuse cause := by
  rcases checkValue_fits_or_flaw row v with hfits | ⟨cause, flaw, hrefuse⟩
  · exact .inl hfits
  · exact .inr ⟨flaw.not_fits distinct, cause, flaw, hrefuse⟩

theorem checkValue_eq_ok_iff (distinct : (candidates.map Candidate.tag).Nodup) {row : RowId}
    {v : Option (VariantValue τ)} :
    checkValue name optionality candidates describe row v = .ok () ↔
      Fits optionality candidates v := by
  rcases @checkValue_cases τ _ name optionality candidates describe distinct row v with
    ⟨hfits, hok⟩ | ⟨hnot, cause, -, hrefuse⟩
  · exact iff_of_true hok hfits
  · rw [hrefuse]
    exact iff_of_false (by simp [refuse]) hnot

theorem check_eq_ok_iff (distinct : (candidates.map Candidate.tag).Nodup) :
    check name optionality candidates describe source value = .ok () ↔
      ∀ s ∈ source.records, Fits optionality candidates (value s.value) := by
  unfold check
  rw [forM_eq_ok_iff]
  exact forall₂_congr fun s _ => checkValue_eq_ok_iff distinct

theorem check_of_first_flaw (distinct : (candidates.map Candidate.tag).Nodup)
    {before after : List (Record S)} {s : Record S} (hrecords : source.records = before ++ s :: after)
    (hbefore : ∀ r ∈ before, Fits optionality candidates (value r.value))
    (hs : ¬ Fits optionality candidates (value s.value)) :
    ∃ cause, Flaw name optionality candidates describe s.row (value s.value) cause ∧
      check name optionality candidates describe source value = refuse cause := by
  rcases checkValue_cases distinct s.row (value s.value) with ⟨hfits, -⟩ | ⟨-, cause, hflaw, hrefuse⟩
  · exact absurd hfits hs
  · refine ⟨cause, hflaw, ?_⟩
    unfold check
    rw [hrecords]
    exact forM_eq_error_of_first
      (fun r hr => (checkValue_eq_ok_iff distinct).mpr (hbefore r hr)) hrefuse

end Check

/-! ## Construction -/

/-- The column that a construction gives when the check passes. -/
def ofValid (settings : Settings) (name : String) (optionality : Optionality)
    (candidates : List (Candidate τ)) (source : Table S) (value : S → Option (VariantValue τ)) :
    VariantColumn S τ where
  name := name
  source := source.id
  optionality := optionality
  tags := candidates.map Candidate.tag
  value := value
  built :=
    if settings.eager then
      some (Index.ofColumn source (columnKey (candidates.map Candidate.tag) value))
    else none

section Build

variable {settings : Settings} {name : String} {optionality : Optionality}
  {candidates : List (Candidate τ)} {describe : τ → String} {source : Table S}
  {value : S → Option (VariantValue τ)}

theorem result_build_of_valid
    (h : check name optionality candidates describe source value = .ok ()) :
    ((build settings name optionality candidates describe source value).run ()).result =
      .ok (ofValid settings name optionality candidates source value) := by
  unfold build ofValid
  rw [h]
  cases heager : settings.eager with
  | false => simp [locate, Except.map]
  | true =>
    simp [locate, Traced.run_bind, LazyIndex.force, LazyIndex.run_get_of_not_built, Except.map]

theorem result_build_eq_ok_iff {c : VariantColumn S τ} :
    ((build settings name optionality candidates describe source value).run ()).result = .ok c ↔
      check name optionality candidates describe source value = .ok () ∧
        c = ofValid settings name optionality candidates source value := by
  constructor
  · intro h
    have hcheck : check name optionality candidates describe source value = .ok () := by
      obtain ⟨⟨⟩, hverdict, -⟩ := Traced.result_bind_eq_ok_iff.mp h
      exact locate_eq_ok_iff.mp (Validation.result_enforce_eq_ok_iff.mp hverdict)
    rw [result_build_of_valid hcheck] at h
    exact ⟨hcheck, (Except.ok.inj h).symm⟩
  · intro h
    obtain ⟨hcheck, rfl⟩ := h
    exact result_build_of_valid hcheck

theorem result_build_of_refuse {cause : Error.Cause} (strict : settings.validation = .strict)
    (h : check name optionality candidates describe source value = refuse cause) :
    ((build settings name optionality candidates describe source value).run ()).result =
      .error (.error (Error.located { cause } source.name name "variant.build")) := by
  refine Traced.result_bind_of_error ?_
  rw [strict, Validation.run_enforce_strict_of_error h]

end Build

/-! ## The index -/

/-- The column holds values of this table, and its index, once there is one, is the index of their
keys. -/
structure Sourced (c : VariantColumn S τ) (source : Table S) : Prop where
  source_eq : c.source = source.id
  settled : c.lazyIndex.Settled source

/-- The column once its index is built over its table. -/
def indexed (c : VariantColumn S τ) (source : Table S) : VariantColumn S τ :=
  { c with built := some (Index.ofColumn source (columnKey c.tags c.value)) }

section Sourced

variable {c : VariantColumn S τ} {source : Table S} {candidates : List (Candidate τ)}

theorem sourced_ofValid (settings : Settings) (name : String) (optionality : Optionality)
    (value : S → Option (VariantValue τ)) :
    (ofValid settings name optionality candidates source value).Sourced source where
  source_eq := rfl
  settled i hi := by
    simp only [lazyIndex, ofValid, Option.ite_none_right_eq_some] at hi
    exact (Option.some.inj hi.2).symm

theorem Sourced.indexed (h : c.Sourced source) : (c.indexed source).Sourced source where
  source_eq := h.source_eq
  settled _ hi := (Option.some.inj hi).symm

/-- Asked with its table, a column gives the index of its keys, and has built it from then on. -/
theorem Sourced.run_index (h : c.Sourced source) :
    ((index source).run c).result = .ok (Index.ofColumn source (columnKey c.tags c.value)) ∧
      ((index source).run c).state = c.indexed source := by
  have hdemand : source.demand (.source c.name) c.source = .ok () := if_pos h.source_eq
  have hindex : (index source).run c =
      (Traced.within lazyIndex withLazyIndex (LazyIndex.get source)).run c := by
    simp [index, Traced.run_bind, hdemand]
  obtain ⟨hresult, hstate⟩ := h.settled.run_get
  rw [hindex, Traced.run_within]
  exact ⟨hresult, congrArg (withLazyIndex c) hstate⟩

end Sourced

/-! ## Columns in use -/

/-- The column is what a construction over the table gives, under some settings. -/
def BuiltOver (c : VariantColumn S τ) (source : Table S) (candidates : List (Candidate τ)) : Prop :=
  ∃ settings name optionality describe value,
    ((build settings name optionality candidates describe source value).run ()).result = .ok c

section InUse

variable {c : VariantColumn S τ} {source : Table S} {candidates : List (Candidate τ)}

theorem BuiltOver.tags_eq (h : c.BuiltOver source candidates) :
    c.tags = candidates.map Candidate.tag := by
  obtain ⟨settings, name, optionality, describe, value, hbuild⟩ := h
  obtain ⟨-, rfl⟩ := result_build_eq_ok_iff.mp hbuild
  rfl

theorem BuiltOver.fits (h : c.BuiltOver source candidates)
    (distinct : (candidates.map Candidate.tag).Nodup) :
    ∀ s ∈ source.records, Fits c.optionality candidates (c.valueOf s) := by
  obtain ⟨settings, name, optionality, describe, value, hbuild⟩ := h
  obtain ⟨hcheck, rfl⟩ := result_build_eq_ok_iff.mp hbuild
  exact (check_eq_ok_iff distinct).mp hcheck

theorem BuiltOver.sourced (h : c.BuiltOver source candidates) : c.Sourced source := by
  obtain ⟨settings, name, optionality, describe, value, hbuild⟩ := h
  obtain ⟨-, rfl⟩ := result_build_eq_ok_iff.mp hbuild
  exact sourced_ofValid settings name optionality value

/-- With its index built, a column is what an eager construction gives. -/
theorem BuiltOver.indexed (h : c.BuiltOver source candidates) :
    (c.indexed source).BuiltOver source candidates := by
  obtain ⟨settings, name, optionality, describe, value, hbuild⟩ := h
  obtain ⟨hcheck, rfl⟩ := result_build_eq_ok_iff.mp hbuild
  exact ⟨{ settings with eager := true }, name, optionality, describe, value,
    result_build_eq_ok_iff.mpr ⟨hcheck, rfl⟩⟩

/-- A query that asks for the index and then only reads leaves the index built and the rest of the
column as it was. -/
theorem BuiltOver.state_index_then {α : Type} {f : Index VariantKey → Traced (VariantColumn S τ) α}
    (h : c.BuiltOver source candidates) (hf : ∀ i t, ((f i).run t).state = t) :
    ((index source >>= f).run c).state = c.indexed source := by
  rw [Traced.state_bind_of_keeps hf]
  exact h.sourced.run_index.2

end InUse

end StaticTables.VariantColumn
