import Mathlib
import StaticTables.Proofs.Hierarchy.Forest
import StaticTables.Proofs.Link.Bijection
import StaticTables.Proofs.Link.Multiplicity
import StaticTables.Proofs.Session.Agreement
import StaticTables.Session.Construct

/-!
# Definitions build the same in like sessions

A definition looks at nothing but tables, which like sessions have in common. So it comes to the
same, and the object that it builds belongs to the session wherever its tables are those of the
session.
-/
namespace StaticTables.Session

open StaticTables.Session.Action

variable {catalog : Catalog} {apart : Option String} {s t : Session}

/-! ## What is built -/

/-- The next table is told from others by how many there are. -/
theorem reads_origin : Reads (likeness catalog apart) (look fun s => .ok s.tables) :=
  reads_look fun hst => congrArg Except.ok (Like.tables_eq hst)

theorem reads_relationship (spec : RelationshipSpec) :
    Reads (likeness catalog apart) spec.build :=
  (reads_table _).bind fun _ => (reads_table _).bind fun _ => reads_building _

theorem reads_construct (definition : Definition) :
    Reads (likeness catalog apart) (construct definition) := by
  cases definition with
  | table id name columns rows =>
    exact reads_origin.bind fun _ => (reads_building _).bind fun _ => reads_pure _
  | index table column filtered =>
    exact (reads_declaredTable table).bind fun _ => (reads_choice _).bind fun _ =>
      (reads_building _).bind fun _ => reads_pure _
  | lazyIndex table column filtered =>
    exact (reads_declaredTable table).bind fun _ => (reads_choice _).bind fun _ => reads_pure _
  | relationship spec => exact (reads_relationship spec).bind fun _ => reads_pure _
  | partner a b forward backward settings =>
    exact (reads_table a).bind fun _ => (reads_table b).bind fun _ =>
      (reads_relationship forward).bind fun _ => (reads_relationship backward).bind fun _ =>
        (reads_building _).bind fun _ => reads_pure _
  | junction left right =>
    exact (reads_relationship left).bind fun _ => (reads_relationship right).bind fun _ =>
      (reads_building _).bind fun _ => reads_pure _
  | hierarchy table name column settings =>
    exact (reads_table table).bind fun _ => (reads_building _).bind fun _ => reads_pure _
  | variant table column name tags lengths optionality settings =>
    exact (reads_table table).bind fun _ => (reads_building _).bind fun _ => reads_pure _
  | labels table labels declared isPartial =>
    exact (reads_table table).bind fun _ => (reads_building _).bind fun _ => reads_pure _
  | keys name labels declared keys => exact (reads_result _).bind fun _ => reads_pure _
  | external name records => exact (reads_building _).bind fun _ => reads_pure _

/-! ## What belongs to the session -/

/-- What a step gives has a property, in every session that is in order. -/
structure Gives {α : Type} (L : Likeness Session) (m : Action α) (P : α → Prop) : Prop where
  holds : ∀ {s a}, L.Like s s → (m.run.run s).result = .ok (.ok a) → P a

section Gives

variable {α β : Type} {L : Likeness Session} {m : Action α} {f : α → Action β} {P : α → Prop}
  {Q : β → Prop}

theorem gives_any : Gives L m fun _ => True := ⟨fun _ _ => trivial⟩

theorem gives_pure {a : α} (h : P a) : Gives L (pure a) P where
  holds {s b} _ hb := by
    obtain rfl : a = b := Except.ok.inj (Except.ok.inj hb)
    exact h

theorem gives_bind (hm : Reads L m) (hP : Gives L m P) (hf : ∀ a, P a → Gives L (f a) Q) :
    Gives L (m >>= f) Q where
  holds {s b} hs hb := by
    obtain ⟨r, hr, hb⟩ := Traced.result_bind_eq_ok_iff.mp hb
    have hstate : (m.run.run s).state = s := hm.state_eq s
    cases r with
    | error refusal => exact absurd (Except.ok.inj hb) nofun
    | ok a =>
      refine (hf a (hP.holds hs hr)).holds hs ?_
      rw [← hstate]
      exact hb

theorem gives_building (b : Build α) :
    Gives L (building b) fun a => (b.run ()).result = .ok a where
  holds {s a} _ ha := by
    have hrun : ((building b).run.run s).result = (b.run ()).result.map .ok := by
      show ((Except.ok <$> Traced.building b : Traced Session (Except Refusal α)).run s).result = _
      rw [Traced.run_map, Traced.run_building]
    rw [hrun] at ha
    cases hresult : (b.run ()).result with
    | error failure => rw [hresult] at ha; contradiction
    | ok a' =>
      rw [hresult] at ha
      exact congrArg Except.ok (Except.ok.inj (Except.ok.inj ha))

theorem gives_table (name : String) :
    Gives (likeness catalog apart) (Action.table name) fun t =>
      catalog t.id = some t where
  holds hs ha := ((Like.table hs name).related (Except.ok.inj ha) (Except.ok.inj ha)).2

end Gives

theorem like_of_sourced {r : Relationship Fields Fields} {source : Table Fields}
    (h : r.Sourced source) (known : catalog source.id = some source) :
    (Relationship.likenessAmong catalog).Like r r :=
  have among : r.KnownAmong catalog := ⟨source, h.source_eq.symm ▸ known, h⟩
  ⟨among, among, rfl⟩

theorem gives_relationship (spec : RelationshipSpec) :
    Gives (likeness catalog apart) spec.build fun r =>
      (Relationship.likenessAmong catalog).Like r r := by
  refine gives_bind (reads_table _) (gives_table _) fun source known => ?_
  refine gives_bind (reads_table _) (gives_table _) fun target _ => ?_
  refine ⟨fun hs hr => ?_⟩
  exact like_of_sourced
    (Relationship.BuiltOver.sourced ⟨_, _, _, (gives_building _).holds hs hr⟩) known

/-- The object belongs to a session, provided that the session knows it if it is a table. -/
def Object.Belongs (catalog : Catalog) (o : Object) : Prop :=
  (∀ columns t, o = .table columns t → catalog t.id = some t) → ∀ apart, o.Like catalog apart o

theorem gives_construct (definition : Definition) :
    Gives (likeness catalog apart) (construct definition) (Object.Belongs catalog) := by
  cases definition with
  | table id name columns rows =>
    refine gives_bind reads_origin gives_any fun _ _ => ?_
    refine gives_bind (reads_building _) gives_any fun t _ => ?_
    exact gives_pure fun known _ => .table (known _ t rfl)
  | index table column filtered =>
    refine gives_bind (reads_declaredTable table) gives_any fun _ _ => ?_
    refine gives_bind (reads_choice _) gives_any fun _ _ => ?_
    exact gives_bind (reads_building _) gives_any fun _ _ => gives_pure fun _ _ => .index
  | lazyIndex table column filtered =>
    refine gives_bind (reads_declaredTable table) gives_any fun _ _ => ?_
    refine gives_bind (reads_choice _) gives_any fun _ _ => ?_
    exact gives_pure fun _ _ => .lazyIndex rfl fun _ => rfl
  | relationship spec =>
    refine gives_bind (reads_relationship spec) (gives_relationship spec) fun _ hr => ?_
    exact gives_pure fun _ _ => .relationship hr
  | partner a b forward backward settings =>
    refine gives_bind (reads_table a) gives_any fun _ _ => ?_
    refine gives_bind (reads_table b) gives_any fun _ _ => ?_
    refine gives_bind (reads_relationship forward) (gives_relationship forward) fun _ hf => ?_
    refine gives_bind (reads_relationship backward) (gives_relationship backward) fun _ hb => ?_
    refine gives_bind (reads_building _) (gives_building _) fun p hp => ?_
    obtain ⟨-, rfl⟩ := Partner.result_build_eq_ok_iff_checks.mp hp
    exact gives_pure fun _ _ => .partner hf hb
  | junction left right =>
    refine gives_bind (reads_relationship left) (gives_relationship left) fun _ hl => ?_
    refine gives_bind (reads_relationship right) (gives_relationship right) fun _ hr => ?_
    refine gives_bind (reads_building _) (gives_building _) fun x hx => ?_
    obtain ⟨-, rfl⟩ := Junction.result_build_eq_ok_iff.mp hx
    exact gives_pure fun _ _ => .junction hl hr
  | hierarchy table name column settings =>
    refine gives_bind (reads_table table) (gives_table table) fun t known => ?_
    refine gives_bind (reads_building _) (gives_building _) fun h hh => ?_
    have hlike := like_of_sourced (Hierarchy.ordered_of_build hh).sourced known
    exact gives_pure fun _ _ => .hierarchy hlike
  | variant table column name tags lengths optionality settings =>
    refine gives_bind (reads_table table) (gives_table table) fun t known => ?_
    refine gives_bind (reads_building _) (gives_building _) fun c hc => ?_
    have hsourced : c.Sourced t := VariantColumn.BuiltOver.sourced ⟨_, _, _, _, _, hc⟩
    have among : c.KnownAmong catalog := ⟨t, hsourced.source_eq.symm ▸ known, hsourced⟩
    exact gives_pure fun _ _ => .variant ⟨among, among, rfl⟩
  | labels table labels declared isPartial =>
    refine gives_bind (reads_table table) gives_any fun _ _ => ?_
    exact gives_bind (reads_building _) gives_any fun _ _ => gives_pure fun _ _ => .labels
  | keys name labels declared keys =>
    exact gives_bind (reads_result _) gives_any fun _ _ => gives_pure fun _ _ => .keys
  | external name records =>
    exact gives_bind (reads_building _) gives_any fun _ _ => gives_pure fun _ _ => .external

end StaticTables.Session
