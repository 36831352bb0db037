import Mathlib
import StaticTables.Proofs.Link.VariantClasses
import StaticTables.Proofs.Query.Navigation
import StaticTables.Proofs.Query.Variant

/-!
# Rows that are handed out

Rows come from an index of a table, from a scan of it or from marks on its rows. So they are rows of
the table, whatever key, reference or root the query was given. The walk down a hierarchy is the one
exception: it enters its roots before it has looked anything up, and hands out a root that does not
lie in the table like any other row.
-/
namespace StaticTables

namespace Traced

variable {σ τ α : Type} {table : Table α}

/-- A part that gives rows gives them within the whole. -/
theorem GivesRowsOf.within {part : σ → τ} {put : σ → τ → σ} {m : Traced τ (Rows α)} {s : σ}
    (h : m.GivesRowsOf (part s) table) : (Traced.within part put m).GivesRowsOf s table := h

/-- Once its first step has succeeded, a query gives the rows that the rest of it gives. -/
theorem GivesRowsOf.bind {β : Type} {m : Traced σ β} {f : β → Traced σ (Rows α)} {s : σ} {b : β}
    (hm : (m.run s).result = .ok b) (h : (f b).GivesRowsOf (m.run s).state table) :
    (m >>= f).GivesRowsOf s table := by
  obtain ⟨rows, hrows, hinside⟩ := h
  exact ⟨rows, result_bind_eq_ok_iff.mpr ⟨b, hm, hrows⟩, hinside⟩

/-- What a query does after looking at the object decides. -/
theorem GivesRowsOf.get_bind {f : σ → Traced σ (Rows α)} {s : σ} (h : (f s).GivesRowsOf s table) :
    (get >>= f).GivesRowsOf s table := h

theorem GivesRowsOf.building {b : Build (Rows α)} {s : σ} (h : b.GivesRowsOf () table) :
    (Traced.building b).GivesRowsOf s table := h

end Traced

/-! ## Relationships and junctions -/

namespace Relationship

variable {S T : Type}

/-- Rows that point at something are rows of the source table. -/
structure RowsInside (r : Relationship S T) (source : Table S) : Prop where
  referrers : ∀ link, (referrers source link).GivesRowsOf r source
  referrersOf : ∀ (target : Table T) record, (referrersOf source target record).GivesRowsOf r source
  index : ∃ i, ((index source).run r).result = .ok i ∧ i.RowsInside source

variable {r : Relationship S T} {source : Table S}

theorem Sourced.givesRowsOf_referrers (h : r.Sourced source) (link : Ref T) :
    (Relationship.referrers source link).GivesRowsOf r source :=
  .bind h.run_index.1 ((Index.rowsInside_ofColumn source _).find link.row).building

theorem Sourced.rowsInside (h : r.Sourced source) : r.RowsInside source where
  referrers := h.givesRowsOf_referrers
  referrersOf target record := by
    unfold Relationship.referrersOf
    cases target.refOf record with
    | none => exact (Rows.inside_empty source).given rfl
    | some link => exact h.givesRowsOf_referrers link
  index := ⟨_, h.run_index.1, Index.rowsInside_ofColumn source _⟩

end Relationship

namespace Junction

variable {A B J : Type}

/-- Links are rows of the junction table. -/
structure RowsInside (x : Junction A B J) (junction : Table J) : Prop where
  left : x.left.RowsInside junction
  right : x.right.RowsInside junction
  links : ∀ ref, (links junction ref).GivesRowsOf x junction
  linksBack : ∀ ref, (linksBack junction ref).GivesRowsOf x junction

theorem BuiltOver.rowsInside {x : Junction A B J} {junction : Table J} {a : Table A} {b : Table B}
    (h : x.BuiltOver junction a b) : x.RowsInside junction where
  left := h.left.sourced.rowsInside
  right := h.right.sourced.rowsInside
  links ref := (h.left.sourced.givesRowsOf_referrers ref).within
  linksBack ref := (h.right.sourced.givesRowsOf_referrers ref).within

end Junction

/-! ## Variant columns -/

namespace VariantColumn

variable {S τ : Type} [DecidableEq τ]

/-- Rows with a tag, with a value or without one are rows of the table. -/
structure RowsInside (c : VariantColumn S τ) (source : Table S) : Prop where
  holding : ∀ v, (holding source v).GivesRowsOf c source
  tagged : ∀ tag, (tagged source tag).GivesRowsOf c source
  vacant : (c.vacant source).Inside source ∧ (c.vacant source).Readable source

variable {c : VariantColumn S τ} {source : Table S} {candidates : List (Candidate τ)}

theorem Sourced.rowsInside (h : c.Sourced source) : c.RowsInside source where
  holding v := by
    refine .get_bind ?_
    cases keyOf c.tags v with
    | none => exact (Rows.inside_empty source).given rfl
    | some key =>
      exact .bind h.run_index.1 ((Index.rowsInside_ofColumn source _).find key).building
  tagged tag := by
    refine .get_bind ?_
    cases c.tags.idxOf? tag with
    | none => exact (Rows.inside_empty source).given rfl
    | some place =>
      exact .bind h.run_index.1 ((Index.rowsInside_ofColumn source _).range _ _).building
  vacant := by
    have hinside : (c.vacant source).Inside source :=
      Rows.inside_map_row fun _ hr => List.mem_of_mem_filter hr
    exact ⟨hinside, hinside.readable⟩

theorem BuiltOver.sourced_after (h : c.BuiltOver source candidates) (qs : List (Query S τ)) :
    ((interface source).after c qs).Sourced source := by
  have hself : (likeness source).Like c c := ⟨h.sourced, h.sourced, rfl⟩
  have hlike : (likeness source).Like c ((interface source).after c qs) :=
    Interface.like_after (I := interface source) (stable_ask source) hself qs
  exact hlike.2.1

end VariantColumn

/-! ## Hierarchies -/

namespace Hierarchy

variable {α : Type} {h : Hierarchy α} {table : Table α}

/-- Children, roots and what lies below roots are rows of the table. -/
structure RowsInside (h : Hierarchy α) (table : Table α) : Prop where
  parent : h.parent.RowsInside table
  children : ∀ row, (children table row).GivesRowsOf h table
  roots : (h.roots table).Inside table ∧ (h.roots table).Readable table
  subtree : ∀ roots, (subtree table roots).GivesRowsOf h table
  descendants : ∀ roots, (descendants table roots).GivesRowsOf h table

theorem Ordered.rowsInside (ordered : h.Ordered table) : h.RowsInside table where
  parent := ordered.sourced.rowsInside
  children row := (ordered.sourced.givesRowsOf_referrers row).within
  roots := by
    have hinside : (h.roots table).Inside table :=
      Rows.inside_map_row fun _ hr => List.mem_of_mem_filter hr
    exact ⟨hinside, hinside.readable⟩
  subtree roots := by
    refine (Rows.inside_ofList fun row hrow => ?_).given rfl
    exact ((ordered.holds_spread_iff roots row).mp (Membership.mem_rows_iff.mp hrow)).lt_size
  descendants roots :=
    (Rows.inside_map_row fun _ hr => List.mem_of_mem_filter hr).given rfl

/-! ### The walk -/

theorem table_subtreeByWalk {roots : List (Ref α)} {rows : Rows α}
    (hrun : ((subtreeByWalk table roots).run h).result = .ok rows) : rows.table = table := by
  cases roots with
  | nil =>
    obtain rfl := Except.ok.inj hrun
    rfl
  | cons root roots =>
    obtain ⟨index, -, hrest⟩ := Traced.result_bind_eq_ok_iff.mp hrun
    obtain ⟨⟨⟩, -, hrows⟩ := Traced.result_bind_eq_ok_iff.mp hrest
    obtain rfl := Except.ok.inj hrows
    rfl

theorem Reaches.lt_size_or_eq {row top : RowId} (hreach : h.Reaches table row top) :
    row.index < table.size ∨ row = top := by
  rcases Relation.ReflTransGen.cases_head hreach with heq | ⟨up, hup, -⟩
  · exact .inr heq
  · exact .inl hup.child_lt

/-- Rows of the table and the given roots, in the table or not. So these are rows of the table, and
can be read to the end, exactly if all roots are rows of it. -/
structure Walked (rows : Rows α) (table : Table α) (roots : List (Ref α)) : Prop where
  inside_or_root : ∀ row ∈ rows.ids, row.index < table.size ∨ ∃ root ∈ roots, root.row = row
  root_mem : ∀ root ∈ roots, root.row ∈ rows.ids
  inside_iff : rows.Inside table ↔ ∀ root ∈ roots, root.index < table.size
  rest_iff : (∃ l, rows.rest = .ok l) ↔ ∀ root ∈ roots, root.index < table.size

theorem Ordered.exists_walked (ordered : h.Ordered table) (roots : List (Ref α)) :
    ∃ rows, ((subtreeByWalk table roots).run h).result = .ok rows ∧ Walked rows table roots := by
  obtain ⟨rows, hrun, hids⟩ := ordered.walk_lists_preorders roots
  have htable : rows.table = table := table_subtreeByWalk hrun
  have hmem : ∀ row, row ∈ rows.ids ↔ ∃ root ∈ roots, h.Reaches table row root.row := by
    intro row
    rw [hids, List.mem_eraseDups, List.mem_flatMap]
    exact exists_congr fun root => and_congr_right fun _ => ordered.mem_listing_iff
  have hroots : ∀ root ∈ roots, root.row ∈ rows.ids := fun root hroot =>
    (hmem root.row).mpr ⟨root, hroot, .refl⟩
  have hinside : (∀ row ∈ rows.ids, row.index < table.size) ↔
      ∀ root ∈ roots, root.index < table.size := by
    constructor
    · exact fun hrows root hroot => hrows root.row (hroots root hroot)
    · intro hin row hrow
      obtain ⟨root, hroot, hreach⟩ := (hmem row).mp hrow
      rcases hreach.lt_size_or_eq with hlt | rfl
      · exact hlt
      · exact hin root hroot
  refine ⟨rows, hrun, fun row hrow => ?_, hroots, ?_, ?_⟩
  · obtain ⟨root, hroot, hreach⟩ := (hmem row).mp hrow
    exact hreach.lt_size_or_eq.imp_right fun heq => ⟨root, hroot, heq.symm⟩
  · rw [← hinside]
    exact ⟨Rows.Inside.lt_size, fun hrows => ⟨htable, hrows⟩⟩
  · rw [← hinside, Rows.exists_rest_iff, htable]

/-- From a root outside the table the walk goes nowhere, and reading what it found is a fault. -/
theorem Ordered.walk_from_outside (ordered : h.Ordered table) {root : Ref α}
    (hroot : table.size ≤ root.index) :
    ∃ rows, ((subtreeByWalk table [root]).run h).result = .ok rows ∧ rows.ids = [root.row] ∧
      rows.rest = .error (.fault (.outOfBounds table.size root.index)) := by
  obtain ⟨rows, hrun, hids⟩ := ordered.walk_lists_preorders [root]
  have hmem : ∀ row, row ∈ rows.ids ↔ row ∈ [root.row] := by
    intro row
    rw [hids, List.mem_eraseDups, List.flatMap_singleton, ordered.mem_listing_iff,
      List.mem_singleton]
    constructor
    · intro hreach
      refine hreach.lt_size_or_eq.resolve_left fun hlt => ?_
      have : root.row.index ≤ row.index := ordered.reaches_le hreach
      exact absurd (hroot.trans this) (Nat.not_le.mpr hlt)
    · rintro rfl
      exact .refl
  have hnodup : rows.ids.Nodup := hids ▸ nodup_eraseDups _
  have hsingle : rows.ids = [root.row] :=
    List.perm_singleton.mp
      ((List.perm_ext_iff_of_nodup hnodup (List.nodup_singleton _)).mpr hmem)
  refine ⟨rows, hrun, hsingle, ?_⟩
  rw [Rows.rest, hsingle, table_subtreeByWalk hrun, List.mapM_cons, Table.row_of_le _ hroot]
  rfl

end Hierarchy

/-! ## All that hands out rows -/

/-- Whatever is built over a table hands out rows of it, whatever was asked before. The walk down a
hierarchy alone does so only if its roots are rows of the table. -/
theorem rows_handed_out {α : Type} (table : Table α) :
    (∀ {κ : Type} [IndexKey κ] {column : α → Option κ} {i : Index κ},
      ((Index.build table column).run ()).result = .ok i → i.RowsInside table) ∧
    (∀ {T : Type} {target : Table T} {r : Relationship α T}, r.BuiltOver table target →
      ∀ qs, ((Relationship.interface ⟨table, target⟩).after r qs).RowsInside table) ∧
    (∀ {A B : Type} {a : Table A} {b : Table B} {left : Relationship α A}
      {right : Relationship α B} {x : Junction A B α},
      left.BuiltOver table a → right.BuiltOver table b →
      ((Junction.build left right).run ()).result = .ok x →
      ∀ qs, ((Junction.interface ⟨table, a⟩ ⟨table, b⟩).after x qs).RowsInside table) ∧
    (∀ {τ : Type} [DecidableEq τ] {candidates : List (Candidate τ)} {c : VariantColumn α τ},
      c.BuiltOver table candidates →
      ∀ qs, ((VariantColumn.interface table).after c qs).RowsInside table) ∧
    ∀ {h : Hierarchy α}, h.BuiltOver table →
      ∀ qs, ((Hierarchy.interface table).after h qs).RowsInside table ∧
        ∀ roots, ∃ rows,
          ((Hierarchy.subtreeByWalk table roots).run
            ((Hierarchy.interface table).after h qs)).result = .ok rows ∧
          Hierarchy.Walked rows table roots := by
  refine ⟨?indices, ?relationships, ?junctions, ?variants, ?hierarchies⟩
  case indices =>
    intro κ _ column i hbuild
    obtain rfl := Except.ok.inj hbuild
    exact Index.rowsInside_ofColumn table column
  case relationships =>
    intro T target r built qs
    exact (built.after qs).sourced.rowsInside
  case junctions =>
    intro A B a b left right x hleft hright hbuild qs
    obtain ⟨-, rfl⟩ := Junction.result_build_eq_ok_iff.mp hbuild
    have built : (Junction.mk left right).BuiltOver table a b := ⟨hleft, hright⟩
    exact (built.after qs).rowsInside
  case variants =>
    intro τ _ candidates c built qs
    exact (built.sourced_after qs).rowsInside
  case hierarchies =>
    intro h built qs
    have ordered := (built.after qs).2
    exact ⟨ordered.rowsInside, ordered.exists_walked⟩

section Small

open Hierarchy VariantColumn

/-- The parents of the chapters, as a relationship from the chapters to themselves. -/
def parents : Relationship (Option RowId) (Option RowId) :=
  .ofValid {} { name := "parent", optionality := .optional } smallTree smallTree (Option.map Ref.mk)

/-- The chapters with an index, a relationship, a junction, a variant column and a hierarchy over
their parents. -/
theorem rows_handed_out_smallTree :
    (∃ i, ((Index.build smallTree id).run ()).result = .ok i ∧ i.RowsInside smallTree) ∧
    (parents.BuiltOver smallTree smallTree ∧
      ∀ qs, ((Relationship.interface ⟨smallTree, smallTree⟩).after parents qs).RowsInside
        smallTree) ∧
    (((Junction.build parents parents).run ()).result = .ok { left := parents, right := parents } ∧
      ∀ qs, ((Junction.interface ⟨smallTree, smallTree⟩ ⟨smallTree, smallTree⟩).after
        { left := parents, right := parents } qs).RowsInside smallTree) ∧
    (∃ c : VariantColumn (Option RowId) PlaceKind, c.BuiltOver smallTree [⟨.city, 2⟩] ∧
      ∀ qs, ((VariantColumn.interface smallTree).after c qs).RowsInside smallTree) ∧
    (Hierarchy.mk parents).BuiltOver smallTree ∧
      ∃ rows, ((subtreeByWalk smallTree [⟨{ index := 1 }⟩, ⟨{ index := 7 }⟩]).run ⟨parents⟩).result =
          .ok rows ∧ Walked rows smallTree [⟨{ index := 1 }⟩, ⟨{ index := 7 }⟩] := by
  obtain ⟨indices, relationships, junctions, variants, hierarchies⟩ := rows_handed_out smallTree
  have related : parents.BuiltOver smallTree smallTree :=
    ⟨_, _, _, Relationship.result_build_eq_ok_iff.mpr ⟨rfl, rfl⟩⟩
  have tree : (Hierarchy.mk parents).BuiltOver smallTree :=
    ⟨{}, "parent", Option.map Ref.mk, Hierarchy.result_build_eq_ok_iff.mpr ⟨⟨rfl, rfl⟩, rfl⟩⟩
  have tagged : (VariantColumn.ofValid {} "parent" .optional [⟨PlaceKind.city, 2⟩] smallTree
      (Option.map (⟨.city, ·⟩))).BuiltOver smallTree [⟨.city, 2⟩] :=
    ⟨_, _, _, fun _ => "", _, VariantColumn.result_build_eq_ok_iff.mpr ⟨rfl, rfl⟩⟩
  exact ⟨⟨_, rfl, indices rfl⟩, ⟨related, relationships related⟩,
    ⟨rfl, junctions related related rfl⟩, ⟨_, tagged, variants tagged⟩, tree,
    (hierarchies tree []).2 _⟩

/-- Below a fifth row of the four chapters the pass finds nothing. The walk hands that row out, and
reading it is a fault. -/
theorem walk_hands_out_fifth_chapter :
    (Hierarchy.mk parents).BuiltOver smallTree ∧ smallTree.size = 4 ∧
      (∃ rows, ((subtreeByWalk smallTree [⟨{ index := 4 }⟩]).run ⟨parents⟩).result = .ok rows ∧
        rows.ids = [{ index := 4 }] ∧ rows.rest = .error (.fault (.outOfBounds 4 4))) ∧
      ∃ rows, ((subtree smallTree [⟨{ index := 4 }⟩]).run ⟨parents⟩).result = .ok rows ∧
        rows.ids = [] := by
  have tree : (Hierarchy.mk parents).BuiltOver smallTree :=
    ⟨{}, "parent", Option.map Ref.mk, Hierarchy.result_build_eq_ok_iff.mpr ⟨⟨rfl, rfl⟩, rfl⟩⟩
  have outside : smallTree.size ≤ (⟨{ index := 4 }⟩ : Ref (Option RowId)).index := by decide
  exact ⟨tree, rfl, tree.ordered.walk_from_outside outside, _, rfl, by decide⟩

end Small

end StaticTables
