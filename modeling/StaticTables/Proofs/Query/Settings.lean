import Mathlib
import StaticTables.Proofs.Hierarchy.Agreement
import StaticTables.Proofs.Link.Bijection
import StaticTables.Proofs.Link.Multiplicity
import StaticTables.Proofs.Link.VariantClasses
import StaticTables.Proofs.Query.Hierarchy
import StaticTables.Proofs.Query.Variant

/-!
# Settings and answers

The settings of a construction say how failed checks are met and when reverse indices are built.
Over data that passes, constructions under any settings give like objects, so the answers to a
sequence of queries are the same: an index that is there from the start cannot be told from one that
appears with some query.
-/
namespace StaticTables

/-! ## Relationships -/

section Relationship

variable {S T : Type}

theorem Relationship.like_ofValid (v w : Settings) (declaration : Declaration) (source : Table S)
    (target : Table T) (reference : S → Option (Ref T)) :
    (likeness source).Like (ofValid v declaration source target reference)
      (ofValid w declaration source target reference) :=
  ⟨sourced_ofValid, sourced_ofValid, rfl⟩

theorem ReferenceColumn.exists_like_build {c : ReferenceColumn S T} {v : Settings} (w : Settings)
    {r : Relationship S T} (h : ((c.build v).run ()).result = .ok r) :
    ∃ r', ((c.build w).run ()).result = .ok r' ∧ (Relationship.likeness c.source).Like r r' := by
  obtain ⟨hcheck, rfl⟩ := Relationship.result_build_eq_ok_iff.mp h
  exact ⟨_, Relationship.result_build_eq_ok_iff.mpr ⟨hcheck, rfl⟩,
    Relationship.like_ofValid v w _ _ _ _⟩

end Relationship

/-! ## Partners -/

namespace Partner

variable {A B : Type}

/-- Builds both sides of a pair and then the pair, each with settings of its own. -/
def assemble (forward : ReferenceColumn A B) (backward : ReferenceColumn B A) (a : Table A)
    (b : Table B) (there back pairing : Settings) : Build (Partner A B) := do
  let forward ← forward.build there
  let backward ← backward.build back
  build pairing forward backward a b

section Like

variable {f f' : Relationship A B} {g g' : Relationship B A} {a s : Table A} {b t : Table B}

/-- The checks of a pair do not look at the indices of its sides. -/
theorem exists_like_build (hf : (Relationship.likeness s).Like f f')
    (hg : (Relationship.likeness t).Like g g') {v : Settings} (w : Settings) {p : Partner A B}
    (h : ((build v f g a b).run ()).result = .ok p) :
    ∃ p', ((build w f' g' a b).run ()).result = .ok p' ∧ (likeness s t).Like p p' := by
  obtain ⟨hchecks, rfl⟩ := result_build_eq_ok_iff_checks.mp h
  refine ⟨⟨f', g'⟩, result_build_eq_ok_iff_checks.mpr ⟨?_, rfl⟩, hf, hg⟩
  rw [Relationship.eq_of_like hf, Relationship.eq_of_like hg]
  exact hchecks

end Like

theorem exists_like_assemble {forward : ReferenceColumn A B} {backward : ReferenceColumn B A}
    {a : Table A} {b : Table B} {there back pairing : Settings} (there' back' pairing' : Settings)
    {p : Partner A B}
    (h : ((assemble forward backward a b there back pairing).run ()).result = .ok p) :
    ∃ p', ((assemble forward backward a b there' back' pairing').run ()).result = .ok p' ∧
      (likeness forward.source backward.source).Like p p' := by
  obtain ⟨f, hforward, hrest⟩ := Traced.result_bind_eq_ok_iff.mp h
  obtain ⟨g, hbackward, hbuild⟩ := Traced.result_bind_eq_ok_iff.mp hrest
  obtain ⟨f', hforward', hf⟩ := ReferenceColumn.exists_like_build there' hforward
  obtain ⟨g', hbackward', hg⟩ := ReferenceColumn.exists_like_build back' hbackward
  obtain ⟨p', hbuild', hp⟩ := exists_like_build hf hg pairing' hbuild
  refine ⟨p', ?_, hp⟩
  exact Traced.result_bind_eq_ok_iff.mpr
    ⟨f', hforward', Traced.result_bind_eq_ok_iff.mpr ⟨g', hbackward', hbuild'⟩⟩

end Partner

/-! ## Junctions -/

namespace Junction

variable {A B J : Type}

/-- Builds both sides of a junction, each with settings of its own, and chains them. -/
def assemble (left : ReferenceColumn J A) (right : ReferenceColumn J B) (there back : Settings) :
    Build (Junction A B J) := do
  let left ← left.build there
  let right ← right.build back
  build left right

theorem exists_like_assemble {left : ReferenceColumn J A} {right : ReferenceColumn J B}
    {there back : Settings} (there' back' : Settings) {x : Junction A B J}
    (h : ((assemble left right there back).run ()).result = .ok x) :
    ∃ x', ((assemble left right there' back').run ()).result = .ok x' ∧
      (likeness left.source right.source).Like x x' := by
  obtain ⟨l, hleft, hrest⟩ := Traced.result_bind_eq_ok_iff.mp h
  obtain ⟨r, hright, hbuild⟩ := Traced.result_bind_eq_ok_iff.mp hrest
  obtain ⟨hsources, rfl⟩ := result_build_eq_ok_iff.mp hbuild
  obtain ⟨l', hleft', hl⟩ := ReferenceColumn.exists_like_build there' hleft
  obtain ⟨r', hright', hr⟩ := ReferenceColumn.exists_like_build back' hright
  refine ⟨⟨l', r'⟩, ?_, hl, hr⟩
  refine Traced.result_bind_eq_ok_iff.mpr
    ⟨l', hleft', Traced.result_bind_eq_ok_iff.mpr ⟨r', hright', ?_⟩⟩
  rw [result_build_eq_ok_iff, Relationship.eq_of_like hl, Relationship.eq_of_like hr]
  exact ⟨hsources, rfl⟩

end Junction

/-! ## Hierarchies -/

namespace Hierarchy

variable {α : Type} {name : String} {table : Table α} {parent : α → Option (Ref α)}

theorem exists_like_build {v : Settings} (w : Settings) {h : Hierarchy α}
    (built : ((build v name table parent).run ()).result = .ok h) :
    ∃ h', ((build w name table parent).run ()).result = .ok h' ∧ (likeness table).Like h h' := by
  obtain ⟨hchecks, rfl⟩ := result_build_eq_ok_iff.mp built
  exact ⟨_, result_build_eq_ok_iff.mpr ⟨hchecks, rfl⟩,
    like_of_parent (Relationship.like_ofValid v w _ _ _ _)⟩

end Hierarchy

/-! ## Variant columns -/

theorem VariantColumn.exists_like_build {S τ : Type} [DecidableEq τ] {v : Settings} (w : Settings)
    {name : String} {optionality : Optionality} {candidates : List (Candidate τ)}
    {describe : τ → String} {source : Table S} {value : S → Option (VariantValue τ)}
    {c : VariantColumn S τ}
    (h : ((build v name optionality candidates describe source value).run ()).result = .ok c) :
    ∃ c', ((build w name optionality candidates describe source value).run ()).result = .ok c' ∧
      (likeness source).Like c c' := by
  obtain ⟨hcheck, rfl⟩ := result_build_eq_ok_iff.mp h
  exact ⟨_, result_build_eq_ok_iff.mpr ⟨hcheck, rfl⟩, sourced_ofValid v name optionality value,
    sourced_ofValid w name optionality value, rfl⟩

/-! ## All kinds of objects -/

/-- What is built over the same data under any two settings answers every sequence of queries in the
same way, if each part is asked with the tables that it was built over. -/
theorem interchangeable_under_settings :
    (∀ {S T : Type} (c : ReferenceColumn S T) (v w : Settings),
      (Relationship.interface c.toEnds).Interchangeable (c.build v) (c.build w)) ∧
    (∀ {A B : Type} (forward : ReferenceColumn A B) (backward : ReferenceColumn B A) (a : Table A)
      (b : Table B) (there back pairing there' back' pairing' : Settings),
      (Partner.interface forward.toEnds backward.toEnds a b).Interchangeable
        (Partner.assemble forward backward a b there back pairing)
        (Partner.assemble forward backward a b there' back' pairing')) ∧
    (∀ {A B J : Type} (left : ReferenceColumn J A) (right : ReferenceColumn J B)
      (there back there' back' : Settings),
      (Junction.interface left.toEnds right.toEnds).Interchangeable
        (Junction.assemble left right there back) (Junction.assemble left right there' back')) ∧
    (∀ {α : Type} (name : String) (table : Table α) (parent : α → Option (Ref α))
      (v w : Settings),
      (Hierarchy.interface table).Interchangeable
        (Hierarchy.build v name table parent) (Hierarchy.build w name table parent)) ∧
    ∀ {S τ : Type} [DecidableEq τ] (name : String) (optionality : Optionality)
      (candidates : List (Candidate τ)) (describe : τ → String) (source : Table S)
      (value : S → Option (VariantValue τ)) (v w : Settings),
      (VariantColumn.interface source).Interchangeable
        (VariantColumn.build v name optionality candidates describe source value)
        (VariantColumn.build w name optionality candidates describe source value) := by
  refine ⟨?relationships, ?partners, ?junctions, ?hierarchies, ?variants⟩
  case relationships =>
    intro S T c v w
    exact Interface.interchangeable_of_like (Relationship.stable_ask c.toEnds)
      fun r => ReferenceColumn.exists_like_build w
  case partners =>
    intro A B forward backward a b there back pairing there' back' pairing'
    exact Interface.interchangeable_of_like Partner.stable_ask
      fun p => Partner.exists_like_assemble there' back' pairing'
  case junctions =>
    intro A B J left right there back there' back'
    exact Interface.interchangeable_of_like Junction.stable_ask
      fun x => Junction.exists_like_assemble there' back'
  case hierarchies =>
    intro α name table parent v w
    exact Interface.interchangeable_of_like Hierarchy.stable_ask
      fun h => Hierarchy.exists_like_build w
  case variants =>
    intro S τ _ name optionality candidates describe source value v w
    exact Interface.interchangeable_of_like (VariantColumn.stable_ask source)
      fun c => VariantColumn.exists_like_build w

section Small

open Relationship Partner Junction Hierarchy VariantColumn

/-- The column of the lamps' rooms. -/
def lampColumn : ReferenceColumn (Option RowId) String where
  source := lamps
  target := rooms
  declaration := { name := "room", cardinality := .oneToOne, optionality := .optional }
  reference := Option.map Ref.mk

/-- The column of the dancers' partners. -/
def danceColumn : ReferenceColumn (Option RowId) (Option RowId) where
  source := dancers
  target := dancers
  declaration := { name := "partner", optionality := .optional }
  reference := Option.map Ref.mk

/-- The column of the pupils in the memberships. -/
def pupilColumn : ReferenceColumn (Option RowId × Option RowId) String where
  source := memberships
  target := pupils
  declaration := { name := "pupil", optionality := .optional }
  reference m := m.1.map Ref.mk

/-- The column of the clubs in the memberships. -/
def clubColumn : ReferenceColumn (Option RowId × Option RowId) String where
  source := memberships
  target := clubs
  declaration := { name := "club", optionality := .optional }
  reference m := m.2.map Ref.mk

/-- One relationship has its index from the start, the other builds it for the first query that
needs it. An object of each other kind can be built, so that there is something to exchange. -/
theorem interchangeable_under_settings_small :
    (∃ r r', ((lampColumn.build {}).run ()).result = .ok r ∧
      ((lampColumn.build .trusted).run ()).result = .ok r' ∧
      r.built.isSome ∧ r'.built.isNone ∧
      ∀ qs, (Relationship.interface lampColumn.toEnds).answers r qs =
        (Relationship.interface lampColumn.toEnds).answers r' qs) ∧
    ((∃ p, ((Partner.assemble danceColumn danceColumn dancers dancers {} {} {}).run ()).result =
        .ok p) ∧
      (Partner.interface danceColumn.toEnds danceColumn.toEnds dancers dancers).Interchangeable
        (Partner.assemble danceColumn danceColumn dancers dancers {} {} {})
        (Partner.assemble danceColumn danceColumn dancers dancers {} .trusted .trusted)) ∧
    ((∃ x, ((Junction.assemble pupilColumn clubColumn {} {}).run ()).result = .ok x) ∧
      (Junction.interface pupilColumn.toEnds clubColumn.toEnds).Interchangeable
        (Junction.assemble pupilColumn clubColumn {} {})
        (Junction.assemble pupilColumn clubColumn .trusted {})) ∧
    ((∃ h, ((Hierarchy.build {} "parent" smallTree (Option.map Ref.mk)).run ()).result = .ok h) ∧
      (Hierarchy.interface smallTree).Interchangeable
        (Hierarchy.build {} "parent" smallTree (Option.map Ref.mk))
        (Hierarchy.build .trusted "parent" smallTree (Option.map Ref.mk))) ∧
    (∃ c, ((VariantColumn.build {} "place" .optional places (fun _ => "") births id).run
        ()).result = .ok c) ∧
      (VariantColumn.interface births).Interchangeable
        (VariantColumn.build {} "place" .optional places (fun _ => "") births id)
        (VariantColumn.build .trusted "place" .optional places (fun _ => "") births id) := by
  obtain ⟨relationships, partners, junctions, hierarchies, variants⟩ :=
    interchangeable_under_settings
  refine ⟨?lamps, ⟨?dancers, ?_⟩, ⟨?memberships, ?_⟩, ⟨?chapters, ?_⟩, ?births, ?_⟩
  case lamps =>
    have heager : ((lampColumn.build {}).run ()).result =
        .ok (.ofValid {} lampColumn.declaration lampColumn.source lampColumn.target
          lampColumn.reference) :=
      Relationship.result_build_eq_ok_iff.mpr ⟨rfl, rfl⟩
    obtain ⟨r', hlazy, hsame⟩ := relationships lampColumn {} .trusted _ heager
    obtain ⟨-, rfl⟩ := Relationship.result_build_eq_ok_iff.mp hlazy
    exact ⟨_, _, heager, hlazy, rfl, rfl, fun qs => (hsame qs).1⟩
  case dancers => exact ⟨_, rfl⟩
  case memberships => exact ⟨_, rfl⟩
  case chapters => exact ⟨_, rfl⟩
  case births => exact ⟨_, rfl⟩
  · exact partners danceColumn danceColumn dancers dancers {} {} {} {} .trusted .trusted
  · exact junctions pupilColumn clubColumn {} {} .trusted {}
  · exact hierarchies "parent" smallTree (Option.map Ref.mk) {} .trusted
  · exact variants "place" .optional places (fun _ => "") births id {} .trusted

end Small

end StaticTables
