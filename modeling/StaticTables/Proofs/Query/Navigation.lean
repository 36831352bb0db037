import Mathlib
import StaticTables.Proofs.Hierarchy.Agreement
import StaticTables.Proofs.Hierarchy.Lineage
import StaticTables.Proofs.Index.Reading
import StaticTables.Proofs.Link.Bijection
import StaticTables.Proofs.Link.Multiplicity
import StaticTables.Proofs.Naming.Labelling
import StaticTables.Proofs.Query.Hierarchy

/-!
# Navigation over checked data

What a construction has checked is all that navigation relies on: references point into their
tables, parents stand before their children, labels name rows of their table, and an index names
rows of the table it was built over. So no query with the tables that an object was built over meets
a row outside a table or a table that it does not know, however many queries came before it. What is
found are records of those tables, from which navigation can go on.
-/
namespace StaticTables

/-! ## Relationships -/

namespace Relationship

variable {S T : Type} {r r' : Relationship S T} {source : Table S} {target : Table T}

/-- What is like a relationship in use is one as well: its index is built or it is not. -/
theorem BuiltOver.of_like (h : r.BuiltOver source target) (hlike : (likeness source).Like r r') :
    r'.BuiltOver source target := by
  have heq := eq_of_like hlike
  obtain ⟨settings, declaration, reference, hbuild⟩ := h
  obtain ⟨hcheck, rfl⟩ := result_build_eq_ok_iff.mp hbuild
  cases hbuilt : r'.built with
  | none =>
    rw [hbuilt] at heq
    exact ⟨{ settings with eager := false }, declaration, reference,
      result_build_eq_ok_iff.mpr ⟨hcheck, heq⟩⟩
  | some i =>
    have hindex : i = Index.ofColumn source (targetRow reference) := by
      rw [hlike.2.1.built_eq i hbuilt, heq]
      rfl
    rw [hbuilt, hindex] at heq
    exact ⟨{ settings with eager := true }, declaration, reference,
      result_build_eq_ok_iff.mpr ⟨hcheck, heq⟩⟩

theorem BuiltOver.like_self (h : r.BuiltOver source target) : (likeness source).Like r r :=
  ⟨h.sourced, h.sourced, rfl⟩

theorem BuiltOver.after (h : r.BuiltOver source target) (qs : List (Query S T)) :
    ((interface ⟨source, target⟩).after r qs).BuiltOver source target :=
  h.of_like (Interface.like_after (I := interface ⟨source, target⟩) (stable_ask _) h.like_self qs)

/-- References and the rows that hold them are followed without a fault. -/
structure FaultFree (r : Relationship S T) (source : Table S) (target : Table T) : Prop where
  targetOf : ∀ s ∈ source.records,
    ∃ o, r.targetOf target s = .ok o ∧ ∀ t ∈ o, t ∈ target.records
  targetOfRow : ∀ row : RowId, row.index < source.size →
    ∃ o, r.targetOfRow source target row = .ok o ∧ ∀ t ∈ o, t ∈ target.records
  referrers : ∀ link,
    ∃ rows, ((referrers source link).run r).result = .ok rows ∧ rows.Readable source
  index : ∃ i, ((index source).run r).result = .ok i ∧ i.FaultFree source

theorem BuiltOver.exists_targetOf (h : r.BuiltOver source target) {s : Record S}
    (hs : s ∈ source.records) :
    ∃ o, r.targetOf target s = .ok o ∧ ∀ t ∈ o, t ∈ target.records := by
  rcases h.targetOf hs with ⟨-, hnone⟩ | ⟨t, ht, -, hsome⟩
  · exact ⟨none, hnone, by simp⟩
  · exact ⟨some t, hsome, by simpa using ht⟩

theorem BuiltOver.faultFree (h : r.BuiltOver source target) : r.FaultFree source target where
  targetOf s hs := h.exists_targetOf hs
  targetOfRow row hrow := by
    have hinside : (⟨row⟩ : Ref S).index < source.size := hrow
    obtain ⟨s, hs, hlink⟩ := Table.exists_mem_of_lt hinside
    obtain rfl : row = s.row := congrArg Ref.row hlink
    rw [targetOfRow_of_mem hs]
    exact h.exists_targetOf hs
  referrers link := by
    obtain ⟨hindex, -⟩ := h.sourced.run_index
    obtain ⟨rows, hfind, hrows⟩ :=
      (Index.faultFree_ofColumn source (targetRow r.reference)).find link.row
    exact ⟨rows, Traced.result_bind_eq_ok_iff.mpr ⟨_, hindex, hfind⟩, hrows⟩
  index := ⟨_, h.sourced.run_index.1, Index.faultFree_ofColumn source _⟩

end Relationship

/-! ## Partners -/

namespace Partner

variable {A B : Type}

/-- Both sides are relationships in use, and partners are found without a fault. -/
structure FaultFree (p : Partner A B) (a : Table A) (b : Table B) : Prop where
  forward : p.forward.FaultFree a b
  backward : p.backward.FaultFree b a
  ofLeft : ∀ r ∈ a.records, ∃ o, p.ofLeft b r = .ok o ∧ ∀ s ∈ o, s ∈ b.records
  ofRight : ∀ r ∈ b.records, ∃ o, p.ofRight a r = .ok o ∧ ∀ s ∈ o, s ∈ a.records

/-- Queries leave both sides in use. -/
theorem sides_after {p : Partner A B} {a : Table A} {b : Table B}
    (hforward : p.forward.BuiltOver a b) (hbackward : p.backward.BuiltOver b a)
    (qs : List (Query A B)) :
    ((interface ⟨a, b⟩ ⟨b, a⟩ a b).after p qs).forward.BuiltOver a b ∧
      ((interface ⟨a, b⟩ ⟨b, a⟩ a b).after p qs).backward.BuiltOver b a := by
  have hself : (likeness a b).Like p p := ⟨hforward.like_self, hbackward.like_self⟩
  have hlike : (likeness a b).Like p ((interface ⟨a, b⟩ ⟨b, a⟩ a b).after p qs) :=
    Interface.like_after (I := interface ⟨a, b⟩ ⟨b, a⟩ a b) stable_ask hself qs
  exact ⟨hforward.of_like hlike.1, hbackward.of_like hlike.2⟩

theorem faultFree_of_sides {p : Partner A B} {a : Table A} {b : Table B}
    (hforward : p.forward.BuiltOver a b) (hbackward : p.backward.BuiltOver b a) :
    p.FaultFree a b where
  forward := hforward.faultFree
  backward := hbackward.faultFree
  ofLeft _ hr := hforward.exists_targetOf hr
  ofRight _ hr := hbackward.exists_targetOf hr

end Partner

/-! ## Junctions -/

namespace Junction

variable {A B J : Type}

/-- Links are followed to the other side without a fault. -/
structure FaultFree (x : Junction A B J) (junction : Table J) (a : Table A) (b : Table B) :
    Prop where
  left : x.left.FaultFree junction a
  right : x.right.FaultFree junction b
  links : ∀ ref,
    ∃ rows, ((links junction ref).run x).result = .ok rows ∧ rows.Readable junction
  linksBack : ∀ ref,
    ∃ rows, ((linksBack junction ref).run x).result = .ok rows ∧ rows.Readable junction
  related : ∀ ref,
    ∃ l, ((related junction b ref).run x).result = .ok l ∧ ∀ r ∈ l, r ∈ b.records
  relatedBack : ∀ ref,
    ∃ l, ((relatedBack junction a ref).run x).result = .ok l ∧ ∀ r ∈ l, r ∈ a.records

section InUse

variable {x : Junction A B J} {junction : Table J} {a : Table A} {b : Table B}

theorem BuiltOver.after (h : x.BuiltOver junction a b) (qs : List (Query A B J)) :
    ((interface ⟨junction, a⟩ ⟨junction, b⟩).after x qs).BuiltOver junction a b := by
  have hself : (likeness junction junction).Like x x := ⟨h.left.like_self, h.right.like_self⟩
  have hlike : (likeness junction junction).Like x
      ((interface ⟨junction, a⟩ ⟨junction, b⟩).after x qs) :=
    Interface.like_after (I := interface ⟨junction, a⟩ ⟨junction, b⟩) stable_ask hself qs
  exact ⟨h.left.of_like hlike.1, h.right.of_like hlike.2⟩

/-- Resolved, the rows that links lead to are records of the table that they lead to. -/
theorem mem_records_of_linked {near : J → Option (Ref A)} {far : Relationship J B} {ref : Ref A}
    {l : List (Record B)} (hfar : far.BuiltOver junction b)
    (h : (linked near far.reference junction ref).mapM b.resolve = .ok l) :
    ∀ r ∈ l, r ∈ b.records := by
  obtain ⟨records, hrecords, hmem⟩ := exists_mapM_linked near ref hfar
  obtain rfl : records = l := Except.ok.inj (hrecords.symm.trans h)
  exact hmem

theorem BuiltOver.faultFree (h : x.BuiltOver junction a b) : x.FaultFree junction a b where
  left := h.left.faultFree
  right := h.right.faultFree
  links ref := h.left.faultFree.referrers ref
  linksBack ref := h.right.faultFree.referrers ref
  related ref := by
    obtain ⟨-, l, hrelated, hl⟩ := h.result_related ref
    exact ⟨l, hrelated, mem_records_of_linked h.right hl⟩
  relatedBack ref := by
    obtain ⟨-, l, hrelated, hl⟩ := h.result_relatedBack ref
    exact ⟨l, hrelated, mem_records_of_linked h.left hl⟩

end InUse

end Junction

/-! ## Hierarchies -/

namespace Hierarchy

variable {α : Type} {h h' : Hierarchy α} {table : Table α}

/-- The hierarchy is what a construction over the table gives, under some settings. -/
def BuiltOver (h : Hierarchy α) (table : Table α) : Prop :=
  ∃ settings name parent, ((build settings name table parent).run ()).result = .ok h

theorem BuiltOver.parent (built : h.BuiltOver table) : h.parent.BuiltOver table table := by
  obtain ⟨settings, name, parent, hbuild⟩ := built
  obtain ⟨⟨hcolumn, -⟩, rfl⟩ := result_build_eq_ok_iff.mp hbuild
  exact ⟨settings, _, parent, Relationship.result_build_eq_ok_iff.mpr ⟨hcolumn, rfl⟩⟩

theorem BuiltOver.ordered (built : h.BuiltOver table) : h.Ordered table := by
  obtain ⟨settings, name, parent, hbuild⟩ := built
  exact ordered_of_build hbuild

theorem Ordered.of_like (ordered : h.Ordered table) (hlike : (likeness table).Like h h') :
    h'.Ordered table where
  sourced := hlike.2.1
  parent_lt := by
    have hparent : h.parentRef = h'.parentRef := Likeness.eq_of_normal parentRef_indexed hlike
    rw [← hparent]
    exact ordered.parent_lt

/-- Parents and children are found without a fault. The ancestors of a row are rows of the table,
and come to an end that no limit keeps from being reached. -/
structure FaultFree (h : Hierarchy α) (table : Table α) : Prop where
  parent : h.parent.FaultFree table table
  parentOf : ∀ r ∈ table.records,
    ∃ o, h.parentOf table r = .ok o ∧ ∀ up ∈ o, up ∈ table.records
  children : ∀ row, ∃ rows, ((children table row).run h).result = .ok rows ∧ rows.Readable table
  ancestorsUpTo : ∀ row : Ref α, row.index < table.size →
    ∃ chain : List (Ref α), (∀ up ∈ chain, up.index < table.size) ∧
      ∀ limit, h.ancestorsUpTo table limit row = .ok (chain.take limit)
  ancestors : ∀ row : Ref α, row.index < table.size → ∃ l, h.ancestors table row = .ok l
  depth : ∀ row : Ref α, row.index < table.size → ∃ n, h.depth table row = .ok n
  contains : ∀ ancestor row : Ref α, row.index < table.size →
    ∃ answer, h.contains table ancestor row = .ok answer

theorem Ordered.exists_ancestorsUpTo (ordered : h.Ordered table) {row : Ref α}
    (hrow : row.index < table.size) :
    ∃ chain : List (Ref α), (∀ up ∈ chain, up.index < table.size) ∧
      ∀ limit, h.ancestorsUpTo table limit row = .ok (chain.take limit) := by
  obtain ⟨chain, top, lineage⟩ := ordered.exists_lineage hrow
  exact ⟨chain, lineage.inside, lineage.ancestorsUpTo_eq⟩

theorem faultFree_of_ordered (hparent : h.parent.BuiltOver table table)
    (ordered : h.Ordered table) : h.FaultFree table where
  parent := hparent.faultFree
  parentOf _ hr := hparent.exists_targetOf hr
  children row := hparent.faultFree.referrers row
  ancestorsUpTo _ hrow := ordered.exists_ancestorsUpTo hrow
  ancestors row hrow := by
    obtain ⟨chain, -, hchain⟩ := ordered.exists_ancestorsUpTo hrow
    exact ⟨_, hchain table.size⟩
  depth row hrow := by
    obtain ⟨chain, -, hchain⟩ := ordered.exists_ancestorsUpTo hrow
    exact ⟨(chain.take table.size).length, by rw [depth, ancestors, hchain]; rfl⟩
  contains ancestor row hrow := by
    obtain ⟨answer, hanswer, -⟩ := ordered.contains_iff_reaches ancestor row hrow
    exact ⟨answer, hanswer⟩

/-- Queries leave the parent column in use and in order. -/
theorem BuiltOver.after (built : h.BuiltOver table) (qs : List (Query α)) :
    ((interface table).after h qs).parent.BuiltOver table table ∧
      ((interface table).after h qs).Ordered table := by
  have hself : (likeness table).Like h h := like_of_parent built.parent.like_self
  have hlike : (likeness table).Like h ((interface table).after h qs) :=
    Interface.like_after (I := interface table) stable_ask hself qs
  exact ⟨built.parent.of_like (like_parent hlike), built.ordered.of_like hlike⟩

theorem BuiltOver.faultFree_after (built : h.BuiltOver table) (qs : List (Query α)) :
    ((interface table).after h qs).FaultFree table :=
  faultFree_of_ordered (built.after qs).1 (built.after qs).2

end Hierarchy

/-! ## Label maps -/

theorem LabelMap.Labels.exists_recordOf {Λ α : Type} {m : LabelMap Λ} {table : Table α}
    {labels : Enumeration Λ} (h : m.Labels table labels) (hdistinct : labels.Distinct table.size)
    {l : Λ} (hl : l ∈ labels.all) :
    ∃ r, m.recordOf table l = .ok r ∧ r ∈ table.records := by
  have hdemand : table.demand (.labeled m.name) m.table = .ok () := if_pos h.table_eq
  rw [recordOf, hdemand, h.labels_eq]
  exact Table.exists_row_of_lt (hdistinct.inside l hl)

/-! ## All kinds of objects -/

/-- Over the tables that an object was built over, navigation meets no fault, whatever was asked
before. -/
theorem navigation_faultFree :
    (∀ {S T : Type} {source : Table S} {target : Table T} {r : Relationship S T},
      r.BuiltOver source target →
      ∀ qs, ((Relationship.interface ⟨source, target⟩).after r qs).FaultFree source target) ∧
    (∀ {A B : Type} {a : Table A} {b : Table B} {forward : Relationship A B}
      {backward : Relationship B A} {settings : Settings} {p : Partner A B},
      forward.BuiltOver a b → backward.BuiltOver b a →
      ((Partner.build settings forward backward a b).run ()).result = .ok p →
      ∀ qs, ((Partner.interface ⟨a, b⟩ ⟨b, a⟩ a b).after p qs).FaultFree a b) ∧
    (∀ {A B J : Type} {junction : Table J} {a : Table A} {b : Table B}
      {left : Relationship J A} {right : Relationship J B} {x : Junction A B J},
      left.BuiltOver junction a → right.BuiltOver junction b →
      ((Junction.build left right).run ()).result = .ok x →
      ∀ qs, ((Junction.interface ⟨junction, a⟩ ⟨junction, b⟩).after x qs).FaultFree junction a b) ∧
    (∀ {α : Type} {table : Table α} {h : Hierarchy α}, h.BuiltOver table →
      ∀ qs, ((Hierarchy.interface table).after h qs).FaultFree table) ∧
    (∀ {Λ α : Type} {table : Table α} {labels : Enumeration Λ} {m : LabelMap Λ},
      ((LabelMap.build table labels).run ()).result = .ok m ∨
        ((LabelMap.buildTotal table labels).run ()).result = .ok m →
      ∀ l ∈ labels.all, ∃ r, m.recordOf table l = .ok r ∧ r ∈ table.records) ∧
    ∀ {α κ : Type} [IndexKey κ] {table : Table α} {column : α → Option κ} {i : Index κ},
      ((Index.build table column).run ()).result = .ok i → i.FaultFree table := by
  refine ⟨?relationships, ?partners, ?junctions, ?hierarchies, ?labels, ?indices⟩
  case relationships =>
    intro S T source target r built qs
    exact (built.after qs).faultFree
  case partners =>
    intro A B a b forward backward settings p hforward hbackward hbuild qs
    obtain ⟨-, rfl⟩ := Partner.result_build_eq_ok_iff_checks.mp hbuild
    obtain ⟨hthere, hback⟩ := Partner.sides_after (p := ⟨forward, backward⟩) hforward hbackward qs
    exact Partner.faultFree_of_sides hthere hback
  case junctions =>
    intro A B J junction a b left right x hleft hright hbuild qs
    obtain ⟨-, rfl⟩ := Junction.result_build_eq_ok_iff.mp hbuild
    have built : (Junction.mk left right).BuiltOver junction a b := ⟨hleft, hright⟩
    exact (built.after qs).faultFree
  case hierarchies =>
    intro α table h built qs
    exact built.faultFree_after qs
  case labels =>
    intro Λ α table labels m hbuild l hl
    have hpartial : ((LabelMap.build table labels).run ()).result = .ok m :=
      hbuild.elim id fun htotal => (LabelMap.buildTotal_eq_ok_iff.mp htotal).1
    exact (LabelMap.labels_of_build hpartial).exists_recordOf
      (LabelMap.exists_build_iff.mp ⟨m, hpartial⟩) hl
  case indices =>
    intro α κ _ table column i hbuild
    obtain rfl := Except.ok.inj hbuild
    exact Index.faultFree_ofColumn table column

section Small

open Relationship Partner Junction Hierarchy LabelMap

/-- An object of each kind, over tables with gaps in their columns and rows that nothing names. -/
theorem navigation_faultFree_small :
    (∃ r : Relationship (Option RowId) String, r.BuiltOver lamps rooms ∧
      ∀ qs, ((Relationship.interface ⟨lamps, rooms⟩).after r qs).FaultFree lamps rooms) ∧
    (∃ p, dancing.BuiltOver dancers dancers ∧
      ((Partner.build .trusted dancing dancing dancers dancers).run ()).result = .ok p ∧
      ∀ qs, ((Partner.interface ⟨dancers, dancers⟩ ⟨dancers, dancers⟩ dancers dancers).after p
        qs).FaultFree dancers dancers) ∧
    (joined.BuiltOver memberships pupils clubs ∧
      ((Junction.build joined.left joined.right).run ()).result = .ok joined ∧
      ∀ qs, ((Junction.interface ⟨memberships, pupils⟩ ⟨memberships, clubs⟩).after joined
        qs).FaultFree memberships pupils clubs) ∧
    (∃ h, h.BuiltOver smallTree ∧
      ∀ qs, ((Hierarchy.interface smallTree).after h qs).FaultFree smallTree) ∧
    (∃ m, ((LabelMap.build planets signs).run ()).result = .ok m ∧
      ∀ l ∈ signs.all, ∃ r, m.recordOf planets l = .ok r ∧ r ∈ planets.records) ∧
    ∃ i, ((Index.build planets some).run ()).result = .ok i ∧ i.FaultFree planets := by
  obtain ⟨relationships, partners, junctions, hierarchies, labels, indices⟩ := navigation_faultFree
  refine ⟨?lamps, ?dancers, ?memberships, ?chapters, ?planets, ?names⟩
  case lamps =>
    have built : (Relationship.ofValid {}
        { name := "room", cardinality := .oneToOne, optionality := .optional } lamps rooms
        (Option.map Ref.mk)).BuiltOver lamps rooms :=
      ⟨_, _, _, Relationship.result_build_eq_ok_iff.mpr ⟨rfl, rfl⟩⟩
    exact ⟨_, built, relationships built⟩
  case dancers =>
    have built : dancing.BuiltOver dancers dancers :=
      ⟨_, _, _, Relationship.result_build_eq_ok_iff.mpr ⟨rfl, rfl⟩⟩
    have paired : ((Partner.build .trusted dancing dancing dancers dancers).run ()).result =
        .ok { forward := dancing, backward := dancing } := rfl
    exact ⟨_, built, paired, partners built built paired⟩
  case memberships =>
    have left : joined.left.BuiltOver memberships pupils :=
      ⟨_, _, _, Relationship.result_build_eq_ok_iff.mpr ⟨rfl, rfl⟩⟩
    have right : joined.right.BuiltOver memberships clubs :=
      ⟨_, _, _, Relationship.result_build_eq_ok_iff.mpr ⟨rfl, rfl⟩⟩
    exact ⟨⟨left, right⟩, rfl, junctions left right rfl⟩
  case chapters =>
    have built : (Hierarchy.mk (.ofValid {} { name := "parent", optionality := .optional }
        smallTree smallTree (Option.map Ref.mk))).BuiltOver smallTree :=
      ⟨{}, "parent", Option.map Ref.mk,
        Hierarchy.result_build_eq_ok_iff.mpr ⟨⟨rfl, rfl⟩, rfl⟩⟩
    exact ⟨_, built, hierarchies built⟩
  case planets => exact ⟨_, rfl, labels (.inl rfl)⟩
  case names => exact ⟨_, rfl, indices rfl⟩

end Small

end StaticTables
