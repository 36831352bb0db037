import Mathlib
import StaticTables.Link.Relationship
import StaticTables.Proofs.Index.Settled

/-!
# What the construction of a relationship leaves

A construction succeeds exactly when the check passes, and what it gives is determined by its
arguments. From then on the reverse index is either not built yet or the index of the column over
the source table, and asking for it with that table gives this index in both cases.
-/
namespace StaticTables

/-! ## Verdicts -/

theorem Validation.result_enforce_eq_ok_iff {v : Validation} {check : Check}
    {verdict : Except Failure Unit} :
    ((v.enforce check verdict).run ()).result = .ok () ↔ verdict = .ok () := by
  cases verdict with
  | ok => simp [enforce]
  | error failure =>
    cases failure with
    | fault f => simp
    | error e => cases v <;> simp

theorem locate_eq_ok_iff {table column frame : String} {verdict : Except Failure Unit} :
    locate table column frame verdict = .ok () ↔ verdict = .ok () := by
  cases verdict with
  | ok => rfl
  | error failure => cases failure <;> simp [locate]

theorem seq_eq_ok_iff {first second : Except Failure Unit} :
    (first >>= fun _ => second) = .ok () ↔ first = .ok () ∧ second = .ok () := by
  cases first with
  | ok => exact (and_iff_right rfl).symm
  | error failure => simp [bind, Except.bind]

theorem seq_eq_error_iff {first second : Except Failure Unit} {failure : Failure} :
    (first >>= fun _ => second) = .error failure ↔
      first = .error failure ∨ first = .ok () ∧ second = .error failure := by
  cases first <;> simp [bind, Except.bind]

/-- A check of a list passes when it passes on every element. -/
theorem forM_eq_ok_iff {β : Type} {l : List β} {verdict : β → Except Failure Unit} :
    l.forM verdict = .ok () ↔ ∀ b ∈ l, verdict b = .ok () := by
  induction l with
  | nil => exact ⟨fun _ _ hb => absurd hb List.not_mem_nil, fun _ => rfl⟩
  | cons b l ih =>
    rw [List.forall_mem_cons, ← ih]
    exact seq_eq_ok_iff

/-- Where something holds of an element of a list, there is a first one of which it does. -/
theorem exists_first {β : Type} {l : List β} {p : β → Prop} (h : ∃ b ∈ l, p b) :
    ∃ before b after, l = before ++ b :: after ∧ p b ∧ ∀ c ∈ before, ¬ p c := by
  classical
  obtain ⟨b, hb⟩ := Option.isSome_iff_exists.mp (List.find?_isSome (p := (p ·)).mpr (by simpa))
  obtain ⟨hpb, before, after, hl, hbefore⟩ := List.find?_eq_some_iff_append.mp hb
  exact ⟨before, b, after, hl, of_decide_eq_true hpb, by simpa using hbefore⟩

/-- A check of a list fails as it does on the first element that it fails on. -/
theorem forM_eq_error_of_first {β : Type} {before after : List β} {b : β}
    {verdict : β → Except Failure Unit} {failure : Failure}
    (hbefore : ∀ c ∈ before, verdict c = .ok ()) (hb : verdict b = .error failure) :
    (before ++ b :: after).forM verdict = .error failure := by
  induction before with
  | nil =>
    show (verdict b >>= fun _ => after.forM verdict) = _
    rw [hb]
    rfl
  | cons c before ih =>
    obtain ⟨hc, hbefore⟩ := List.forall_mem_cons.mp hbefore
    show (verdict c >>= fun _ => (before ++ b :: after).forM verdict) = _
    rw [hc]
    exact ih hbefore

/-- A check of a list fails as it does on one of the elements, all before which it passes on. -/
theorem forM_eq_error_iff {β : Type} {l : List β} {verdict : β → Except Failure Unit}
    {failure : Failure} :
    l.forM verdict = .error failure ↔ ∃ before b after, l = before ++ b :: after ∧
      (∀ c ∈ before, verdict c = .ok ()) ∧ verdict b = .error failure := by
  constructor
  · intro h
    by_cases hall : ∀ b ∈ l, verdict b = .ok ()
    · rw [forM_eq_ok_iff.mpr hall] at h
      contradiction
    · push Not at hall
      obtain ⟨before, b, after, rfl, hb, hbefore⟩ := exists_first hall
      have hpassed : ∀ c ∈ before, verdict c = .ok () := fun c hc => not_not.mp (hbefore c hc)
      cases hverdict : verdict b with
      | ok => exact absurd hverdict hb
      | error first =>
        rw [forM_eq_error_of_first hpassed hverdict] at h
        exact ⟨before, b, after, rfl, hpassed, hverdict.trans (congrArg _ (Except.error.inj h))⟩
  · rintro ⟨before, b, after, rfl, hbefore, hb⟩
    exact forM_eq_error_of_first hbefore hb

/-- A strict construction logs and reports the error of its check, with the place where it arose. -/
theorem Validation.run_enforce_strict_of_error {check : Check} {table column frame : String}
    {verdict : Except Failure Unit} {e : Error} (h : verdict = .error (.error e)) :
    (strict.enforce check (locate table column frame verdict)).run () =
      { result := .error (.error (e.located table column frame)), state := (),
        log := [.validationFailed check (e.located table column frame)] } := by
  rw [h]
  rfl

namespace Relationship

variable {S T : Type}

/-! ## Construction -/

/-- The relationship that a construction gives when the check passes. -/
def ofValid (settings : Settings) (declaration : Declaration) (source : Table S)
    (target : Table T) (reference : S → Option (Ref T)) : Relationship S T where
  declaration := declaration
  source := source.id
  target := target.id
  reference := reference
  built := if settings.eager then some (Index.ofColumn source (targetRow reference)) else none

variable {settings : Settings} {declaration : Declaration} {source : Table S} {target : Table T}
  {reference : S → Option (Ref T)}

/-- Over valid data a construction logs the index, if it builds one, and then itself. -/
theorem run_build_of_valid (h : check declaration source target reference = .ok ()) :
    (build settings declaration source target reference).run () =
      { result := .ok (ofValid settings declaration source target reference)
        state := ()
        log :=
          (if settings.eager then
            [.indexLazyBuild source.name, .indexBuild source.name source.size
              (Index.ofColumn source (targetRow reference)).rows.size]
          else []) ++ [.relationshipBuild declaration source.name target.name] } := by
  unfold build ofValid
  rw [h]
  cases heager : settings.eager with
  | false => simp [locate, Except.map]
  | true =>
    simp [locate, Traced.run_bind, LazyIndex.force, LazyIndex.run_get_of_not_built, Except.map]

/-- A strict construction that is refused logs the failed check and nothing else. -/
theorem run_build_of_refuse {cause : Error.Cause} (strict : settings.validation = .strict)
    (h : check declaration source target reference = refuse cause) :
    (build settings declaration source target reference).run () =
      { result := .error (.error (Error.located { cause } source.name declaration.name
          "relationship.build"))
        state := ()
        log := [.validationFailed .relationship (Error.located { cause } source.name
          declaration.name "relationship.build")] } := by
  unfold build
  rw [strict, Traced.run_bind, Validation.run_enforce_strict_of_error h]

theorem result_build_eq_ok_iff {r : Relationship S T} :
    ((build settings declaration source target reference).run ()).result = .ok r ↔
      check declaration source target reference = .ok () ∧
        r = ofValid settings declaration source target reference := by
  constructor
  · intro h
    have hcheck : check declaration source target reference = .ok () := by
      unfold build at h
      obtain ⟨⟨⟩, hverdict, -⟩ := Traced.result_bind_eq_ok_iff.mp h
      exact locate_eq_ok_iff.mp (Validation.result_enforce_eq_ok_iff.mp hverdict)
    -- with the check passed, the whole outcome is known
    rw [run_build_of_valid hcheck] at h
    exact ⟨hcheck, (Except.ok.inj h).symm⟩
  · intro h
    obtain ⟨hcheck, rfl⟩ := h
    rw [run_build_of_valid hcheck]

/-! ## The reverse index -/

/-- The relationship holds references of this source table, and its reverse index, once there is
one, is the index of the column over that table. -/
structure Sourced (r : Relationship S T) (source : Table S) : Prop where
  source_eq : r.source = source.id
  built_eq : ∀ i, r.built = some i → i = Index.ofColumn source (targetRow r.reference)

theorem sourced_ofValid :
    (ofValid settings declaration source target reference).Sourced source where
  source_eq := rfl
  built_eq i hi := by
    simp only [ofValid, Option.ite_none_right_eq_some] at hi
    exact (Option.some.inj hi.2).symm

/-- The relationship once its reverse index is built over the source table. -/
def indexed (r : Relationship S T) (source : Table S) : Relationship S T :=
  { r with built := some (Index.ofColumn source (targetRow r.reference)) }

/-- Asked with the source table, a relationship gives the index of the column, and has built it
from then on. -/
theorem Sourced.run_index {r : Relationship S T} (h : r.Sourced source) :
    ((index source).run r).result = .ok (Index.ofColumn source (targetRow r.reference)) ∧
      ((index source).run r).state = r.indexed source := by
  have hdemand : source.demand (.source r.name) r.source = .ok () := if_pos h.source_eq
  have hindex : (index source).run r =
      (Traced.within lazyIndex withLazyIndex (LazyIndex.get source)).run r := by
    simp [index, Traced.run_bind, hdemand]
  have hsettled : r.lazyIndex.Settled source := h.built_eq
  obtain ⟨hresult, hstate⟩ := hsettled.run_get
  rw [hindex, Traced.run_within]
  exact ⟨hresult, congrArg (withLazyIndex r) hstate⟩

/-- A query that asks for the index and then only reads leaves the index built and the rest of the
relationship as it was. -/
theorem Sourced.state_index_then {α : Type} {f : Index RowId → Traced (Relationship S T) α}
    {r : Relationship S T} (h : r.Sourced source) (hf : ∀ i t, ((f i).run t).state = t) :
    ((index source >>= f).run r).state = r.indexed source := by
  rw [Traced.state_bind_of_keeps hf]
  exact h.run_index.2

/-! ## Relationships in use -/

/-- The relationship is what a construction over these tables gives, under some settings. -/
def BuiltOver (r : Relationship S T) (source : Table S) (target : Table T) : Prop :=
  ∃ settings declaration reference,
    ((build settings declaration source target reference).run ()).result = .ok r

section InUse

variable {r : Relationship S T}

theorem BuiltOver.sourced (h : r.BuiltOver source target) : r.Sourced source := by
  obtain ⟨settings, declaration, reference, hbuild⟩ := h
  obtain ⟨-, rfl⟩ := result_build_eq_ok_iff.mp hbuild
  exact sourced_ofValid

theorem BuiltOver.target_eq (h : r.BuiltOver source target) : r.target = target.id := by
  obtain ⟨settings, declaration, reference, hbuild⟩ := h
  obtain ⟨-, rfl⟩ := result_build_eq_ok_iff.mp hbuild
  rfl

theorem BuiltOver.check_eq_ok (h : r.BuiltOver source target) :
    check r.declaration source target r.reference = .ok () := by
  obtain ⟨settings, declaration, reference, hbuild⟩ := h
  obtain ⟨hcheck, rfl⟩ := result_build_eq_ok_iff.mp hbuild
  exact hcheck

/-- With its index built, a relationship is what an eager construction gives. -/
theorem BuiltOver.indexed (h : r.BuiltOver source target) :
    (r.indexed source).BuiltOver source target := by
  obtain ⟨settings, declaration, reference, hbuild⟩ := h
  obtain ⟨hcheck, rfl⟩ := result_build_eq_ok_iff.mp hbuild
  exact ⟨{ settings with eager := true }, declaration, reference,
    result_build_eq_ok_iff.mpr ⟨hcheck, rfl⟩⟩

theorem BuiltOver.state_referrers (h : r.BuiltOver source target) (link : Ref T) :
    ((referrers source link).run r).state = r.indexed source :=
  h.sourced.state_index_then fun _ _ => rfl

end InUse

end Relationship

end StaticTables
