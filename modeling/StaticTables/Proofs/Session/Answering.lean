import Mathlib
import StaticTables.Proofs.Session.Agreement
import StaticTables.Session.Answer

/-!
# Questions leave no trace in later answers

Like sessions answer a question alike, and a question leaves its session like it was. The two
exceptions are the structural text of an object, which shows whether its index is built, and a lazy
index under a name of its own, which takes whatever table it is first given.
-/
namespace StaticTables.Session

open StaticTables.Session.Action StaticTables.Traced

variable {catalog : Catalog} {apart : Option String} {s t : Session}

/-! ## Questions that change nothing -/

theorem reads_answerTable (v : View) (table : Table Fields) (q : TableQuery) :
    Reads (likeness catalog apart) (answerTable v table q) := by
  cases q with
  | get position => exact (reads_result _).bind fun _ => reads_pure _
  | row row => exact (reads_result _).bind fun _ => reads_pure _
  | resolve reference => exact (reads_result _).bind fun _ => reads_pure _
  | resolveOptional reference => exact (reads_result _).bind fun _ => reads_pure _
  | reference position => exact (reads_result _).bind fun _ => reads_pure _
  | rowOf record => exact (reads_record record).bind fun _ => reads_pure _
  | select ids => exact reads_result _
  | selectShared ids => exact reads_result _
  | _ => exact reads_pure _

theorem reads_answerIndex (v : View) (table : Option (Table Fields)) (type : KeyType)
    (i : Index type.Value) (q : IndexQuery) :
    Reads (likeness catalog apart) (answerIndex v table type i q) := by
  cases q with
  | info => exact reads_pure _
  | keys => exact reads_pure _
  | rowsWith value => exact (reads_choice _).bind fun _ => reads_pure _
  | contains value => exact (reads_choice _).bind fun _ => reads_pure _
  | countRange start stop =>
    exact (reads_choice _).bind fun _ => (reads_choice _).bind fun _ => reads_pure _
  | find value =>
    exact (reads_choice _).bind fun _ => (reads_choice _).bind fun _ =>
      (reads_building _).bind fun _ => reads_result _
  | findFirst value =>
    exact (reads_choice _).bind fun _ => (reads_choice _).bind fun _ =>
      (reads_result _).bind fun _ => reads_pure _
  | range start stop =>
    exact (reads_choice _).bind fun _ => (reads_choice _).bind fun _ =>
      (reads_choice _).bind fun _ => (reads_building _).bind fun _ => reads_result _
  | rangeInKeyOrder start stop =>
    exact (reads_choice _).bind fun _ => (reads_choice _).bind fun _ =>
      (reads_choice _).bind fun _ => (reads_building _).bind fun _ => reads_result _
  | sortedRows =>
    exact (reads_choice _).bind fun _ => (reads_result _).bind fun _ => reads_result _
  | least => exact (reads_choice _).bind fun _ => (reads_result _).bind fun _ => reads_pure _
  | greatest => exact (reads_choice _).bind fun _ => (reads_result _).bind fun _ => reads_pure _

theorem reads_answerLabels (v : View) (labels : List NamedLabel) (m : LabelMap NamedLabel)
    (q : LabelQuery) : Reads (likeness catalog apart) (answerLabels v labels m q) := by
  cases q with
  | info => exact reads_pure _
  | labelAt position => exact (reads_result _).bind fun _ => reads_pure _
  | rowOf label => exact (reads_choice _).bind fun _ => reads_pure _
  | recordOf table label =>
    exact (reads_table _).bind fun _ => (reads_choice _).bind fun _ =>
      (reads_result _).bind fun _ => reads_pure _
  | labelOf table record =>
    exact (reads_table _).bind fun _ => (reads_record _).bind fun _ => reads_pure _

theorem reads_answerKeys (labels : List NamedLabel) (k : LabelKeys NamedLabel ExternalKey)
    (q : KeyQuery) : Reads (likeness catalog apart) (answerKeys labels k q) := by
  cases q with
  | keyOf label => exact (reads_choice _).bind fun _ => reads_pure _
  | labelOf key => exact reads_pure _
  | findRecord label records => exact (reads_choice _).bind fun _ => reads_pure _

/-! ## Questions that may build an index -/

theorem alike_answerRelationship (v : View) (hst : Like catalog apart s t) {path : Path}
    {r r' : Relationship Fields Fields} (hs : s.relationship path = .ok r)
    (ht : t.relationship path = .ok r') (q : RelationshipQuery) :
    Alike (likeness catalog apart) (answerRelationship v path r q).run s
      (answerRelationship v path r' q).run t := by
  obtain ⟨i, rfl⟩ : ∃ i, r' = { r with built := i } :=
    ⟨_, Relationship.eq_of_likeAmong ((hst.relationship path).related hs ht)⟩
  cases q with
  | info => exact (reads_pure _).stable.alike hst
  | reference record => exact ((reads_record _).bind fun _ => reads_pure _).stable.alike hst
  | targetOf target record =>
    exact ((reads_table _).bind fun _ => (reads_record _).bind fun _ =>
      (reads_result _).bind fun _ => reads_pure _).stable.alike hst
  | targetOfRow source target row =>
    exact ((reads_table _).bind fun _ => (reads_table _).bind fun _ =>
      (reads_result _).bind fun _ => reads_pure _).stable.alike hst
  | referrers source row =>
    exact alike_table_bind hst fun a known =>
      alike_bind_stable hst
        (alike_onRelationship hst hs ht ((Relationship.indistinctAmong known).stable_referrers _))
        fun _ => (reads_result _).stable
  | referrersOf source target record =>
    exact alike_table_bind hst fun a known => (reads_table target).alike_bind hst fun b _ =>
      (reads_record record).alike_bind hst fun r _ =>
        alike_bind_stable hst
          (alike_onRelationship hst hs ht
            ((Relationship.indistinctAmong known).stable_ask (e := ⟨a, b⟩) (.referrersOf r)))
          fun _ => (reads_result _).stable
  | countReferrers source row =>
    exact alike_table_bind hst fun a known =>
      alike_bind_stable hst
        (alike_onRelationship hst hs ht
          ((Relationship.indistinctAmong known).stable_ask (e := ⟨a, a⟩) (.countReferrers ⟨row⟩)))
        fun _ => (reads_pure _).stable
  | unreferenced source target =>
    exact alike_table_bind hst fun a known => (reads_table target).alike_bind hst fun b _ =>
      alike_bind_stable hst
        (alike_onRelationship hst hs ht
          ((Relationship.indistinctAmong known).stable_ask (e := ⟨a, b⟩) .unreferenced))
        fun _ => (reads_pure _).stable

theorem alike_answerPartner (v : View) (hst : Like catalog apart s t) {p p' : Partner Fields Fields}
    (hforward : (Relationship.likenessAmong catalog).Like p.forward p'.forward)
    (hbackward : (Relationship.likenessAmong catalog).Like p.backward p'.backward)
    (q : PartnerQuery) :
    Alike (likeness catalog apart) (answerPartner v p q).run s (answerPartner v p' q).run t := by
  obtain ⟨forward, backward⟩ := p
  obtain ⟨forward', backward'⟩ := p'
  obtain ⟨i, rfl⟩ : ∃ i, forward' = { forward with built := i } :=
    ⟨_, Relationship.eq_of_likeAmong hforward⟩
  obtain ⟨j, rfl⟩ : ∃ j, backward' = { backward with built := j } :=
    ⟨_, Relationship.eq_of_likeAmong hbackward⟩
  cases q with
  | ofLeft table record =>
    exact ((reads_table _).bind fun _ => (reads_record _).bind fun _ =>
      (reads_result _).bind fun _ => reads_pure _).stable.alike hst
  | ofRight table record =>
    exact ((reads_table _).bind fun _ => (reads_record _).bind fun _ =>
      (reads_result _).bind fun _ => reads_pure _).stable.alike hst

/-- The likeness of junctions among the tables of a catalog, side by side. -/
abbrev junctionLikeness (catalog : Catalog) : Likeness (Junction Fields Fields Fields) :=
  ((Relationship.likenessAmong catalog).on Junction.left).and
    ((Relationship.likenessAmong catalog).on Junction.right)

theorem alike_onJunction {α : Type} (hst : Like catalog apart s t) {name : String}
    {x x' : Junction Fields Fields Fields} {m : Traced (Junction Fields Fields Fields) α}
    (hs : s.junction name = .ok x) (ht : t.junction name = .ok x')
    (hm : m.Stable (junctionLikeness catalog)) :
    Alike (likeness catalog apart) (answerJunction.on name x m).run s
      (answerJunction.on name x' m).run t :=
  alike_onNamed hst hm ((hst.junction name).related hs ht) (object_of_junction hs)
    (object_of_junction ht) fun hx => .junction hx.1 hx.2

theorem alike_answerJunction (v : View) (hst : Like catalog apart s t) {name : String}
    {x x' : Junction Fields Fields Fields} (hs : s.junction name = .ok x)
    (ht : t.junction name = .ok x') {junction : Table Fields}
    (known : catalog junction.id = some junction) (row : RowId) (q : JunctionQuery) :
    Alike (likeness catalog apart) (answerJunction v name x junction row q).run s
      (answerJunction v name x' junction row q).run t := by
  -- a side is asked with the junction table, whichever table the other side is given
  have hstable (a b : Table Fields) (q : Junction.Query Fields Fields Fields) :
      ((Junction.interface ⟨junction, a⟩ ⟨junction, b⟩).ask q).Stable (junctionLikeness catalog) :=
    Junction.stable_ask_of (Relationship.indistinctAmong known) (Relationship.indistinctAmong known) q
  cases q with
  | links =>
    exact alike_bind_stable hst (alike_onJunction hst hs ht (hstable junction junction (.links ⟨row⟩)))
      fun _ => (reads_result _).stable
  | linksBack =>
    exact alike_bind_stable hst
      (alike_onJunction hst hs ht (hstable junction junction (.linksBack ⟨row⟩)))
      fun _ => (reads_result _).stable
  | related table =>
    exact (reads_table table).alike_bind hst fun b _ =>
      alike_bind_stable hst (alike_onJunction hst hs ht (hstable junction b (.related ⟨row⟩)))
        fun _ => (reads_pure _).stable
  | relatedBack table =>
    exact (reads_table table).alike_bind hst fun a _ =>
      alike_bind_stable hst (alike_onJunction hst hs ht (hstable a junction (.relatedBack ⟨row⟩)))
        fun _ => (reads_pure _).stable
  | relatedRefs =>
    exact alike_bind_stable hst
      (alike_onJunction hst hs ht (hstable junction junction (.relatedRefs ⟨row⟩)))
      fun _ => (reads_pure _).stable
  | relatedBackRefs =>
    exact alike_bind_stable hst
      (alike_onJunction hst hs ht (hstable junction junction (.relatedBackRefs ⟨row⟩)))
      fun _ => (reads_pure _).stable

theorem alike_onHierarchy {α : Type} (hst : Like catalog apart s t) {name : String}
    {h h' : Hierarchy Fields} {m : Traced (Hierarchy Fields) α} (hs : s.hierarchy name = .ok h)
    (ht : t.hierarchy name = .ok h')
    (hm : m.Stable ((Relationship.likenessAmong catalog).on Hierarchy.parent)) :
    Alike (likeness catalog apart) (answerHierarchy.on name h m).run s
      (answerHierarchy.on name h' m).run t :=
  alike_onNamed hst hm ((hst.hierarchy name).related hs ht) (object_of_hierarchy hs)
    (object_of_hierarchy ht) .hierarchy

theorem alike_answerHierarchy (v : View) (hst : Like catalog apart s t) {name : String}
    {h h' : Hierarchy Fields} (hs : s.hierarchy name = .ok h) (ht : t.hierarchy name = .ok h')
    {table : Table Fields} (known : catalog table.id = some table) (q : HierarchyQuery) :
    Alike (likeness catalog apart) (answerHierarchy v name h table q).run s
      (answerHierarchy v name h' table q).run t := by
  have hL := Relationship.indistinctAmong (T := Fields) known
  obtain ⟨i, rfl⟩ : ∃ i, h' = ⟨{ h.parent with built := i }⟩ :=
    ⟨_, Hierarchy.eq_of_like hL ((hst.hierarchy name).related hs ht)⟩
  have hparent := h.parentRef_built i
  cases q with
  | parent record =>
    exact ((reads_record _).bind fun _ => (reads_result _).bind fun _ => reads_pure _).stable.alike hst
  | roots => exact (reads_result _).stable.alike hst
  | ancestors row limit =>
    cases limit with
    | none =>
      rw [answerHierarchy, answerHierarchy, Hierarchy.ancestors, Hierarchy.ancestors,
        Hierarchy.ancestorsUpTo_congr hparent]
      exact ((reads_result _).bind fun _ => reads_pure _).stable.alike hst
    | some limit =>
      rw [answerHierarchy, answerHierarchy, Hierarchy.ancestorsUpTo_congr hparent]
      exact ((reads_result _).bind fun _ => reads_pure _).stable.alike hst
  | depth row =>
    rw [answerHierarchy, answerHierarchy, Hierarchy.depth, Hierarchy.depth, Hierarchy.ancestors,
      Hierarchy.ancestors, Hierarchy.ancestorsUpTo_congr hparent]
    exact ((reads_result _).bind fun _ => reads_pure _).stable.alike hst
  | contains ancestor row =>
    rw [answerHierarchy, answerHierarchy, Hierarchy.contains_congr hparent]
    exact ((reads_result _).bind fun _ => reads_pure _).stable.alike hst
  | children row =>
    exact alike_bind_stable hst
      (alike_onHierarchy hst hs ht (Hierarchy.stable_ask_of hL (.children ⟨row⟩)))
      fun _ => (reads_result _).stable
  | subtree roots =>
    exact alike_bind_stable hst
      (alike_onHierarchy hst hs ht (Hierarchy.stable_ask_of hL (.subtree (roots.map Ref.mk))))
      fun _ => (reads_result _).stable
  | descendants roots =>
    exact alike_bind_stable hst
      (alike_onHierarchy hst hs ht (Hierarchy.stable_ask_of hL (.descendants (roots.map Ref.mk))))
      fun _ => (reads_result _).stable
  | subtreeByWalk roots =>
    exact alike_bind_stable hst
      (alike_onHierarchy hst hs ht (Hierarchy.stable_ask_of hL (.subtreeByWalk (roots.map Ref.mk))))
      fun _ => (reads_result _).stable

/-- A variant column that is found comes with the same texts of its tags, from an object like it. -/
theorem alike_variantColumn_bind {α : Type} (hst : Like catalog apart s t) {name : String}
    {f f' : List String × VariantColumn Fields Nat → Action α}
    (hf : ∀ tags c c', s.object name = .ok (.variant tags c) → t.object name = .ok (.variant tags c') →
      (VariantColumn.likenessAmong catalog).Like c c' →
      Alike (likeness catalog apart) (f (tags, c)).run s (f' (tags, c')).run t) :
    Alike (likeness catalog apart) (variantColumn name >>= f).run s
      (variantColumn name >>= f').run t := by
  unfold variantColumn
  rw [bind_assoc, bind_assoc]
  refine alike_look_bind hst (hst.object name) fun o o' ho ho' hlike => ?_
  cases hlike with
  | variant like => exact hf _ _ _ ho ho' like
  | _ => exact (reads_throw .noSuchObject).stable.alike hst

theorem alike_onVariant {α : Type} (hst : Like catalog apart s t) {name : String}
    {tags : List String} {c c' : VariantColumn Fields Nat}
    {m : Traced (VariantColumn Fields Nat) α} (hs : s.object name = .ok (.variant tags c))
    (ht : t.object name = .ok (.variant tags c'))
    (hlike : (VariantColumn.likenessAmong catalog).Like c c')
    (hm : m.Stable (VariantColumn.likenessAmong catalog)) :
    Alike (likeness catalog apart) (answerVariant.on name tags c m).run s
      (answerVariant.on name tags c' m).run t :=
  alike_onNamed hst hm hlike hs ht .variant

theorem alike_answerVariant (v : View) (hst : Like catalog apart s t) {name : String}
    {tags : List String} {c c' : VariantColumn Fields Nat}
    (hs : s.object name = .ok (.variant tags c)) (ht : t.object name = .ok (.variant tags c'))
    (hlike : (VariantColumn.likenessAmong catalog).Like c c') {table : Table Fields}
    (known : catalog table.id = some table) (q : VariantQuery) :
    Alike (likeness catalog apart) (answerVariant v name tags c table q).run s
      (answerVariant v name tags c' table q).run t := by
  have hL := VariantColumn.indistinctAmong (τ := Nat) known
  cases q with
  | holding tag row =>
    exact (reads_choice _).alike_bind hst fun tag _ =>
      alike_bind_stable hst (alike_onVariant hst hs ht hlike (hL.stable_ask (.holding ⟨tag, row⟩)))
        fun _ => (reads_result _).stable
  | tagged tag =>
    exact (reads_choice _).alike_bind hst fun tag _ =>
      alike_bind_stable hst (alike_onVariant hst hs ht hlike (hL.stable_ask (.tagged tag)))
        fun _ => (reads_result _).stable
  | countTagged tag =>
    exact (reads_choice _).alike_bind hst fun tag _ =>
      alike_bind_stable hst (alike_onVariant hst hs ht hlike (hL.stable_ask (.countTagged tag)))
        fun _ => (reads_pure _).stable
  | vacant =>
    obtain ⟨i, rfl⟩ : ∃ i, c' = { c with built := i } := ⟨_, VariantColumn.eq_of_likeAmong hlike⟩
    exact (reads_result _).stable.alike hst

/-! ## Indices -/

/-- The first table is looked up and has to be there. -/
theorem alike_given_bind {α : Type} (hst : Like catalog apart s t) (table : Option String)
    {f f' : Table Fields → Action α}
    (hf : ∀ a, catalog a.id = some a → Alike (likeness catalog apart) (f a).run s (f' a).run t) :
    Alike (likeness catalog apart)
      ((do let a ← given (← table.mapM Action.table); f a) : Action α).run s
      ((do let a ← given (← table.mapM Action.table); f' a) : Action α).run t := by
  cases table with
  | none => exact ((reads_throw .noSuchObject).stable.alike hst)
  | some name =>
    rw [Option.mapM_some, map_eq_pure_bind, bind_assoc, bind_assoc]
    refine alike_table_bind hst fun a known => ?_
    have hgiven (g : Table Fields → Action α) :
        (pure (some a) >>= fun t => liftM (given t) >>= g : Action α) = g a := by
      rw [pure_bind]
      exact pure_bind a g
    rw [hgiven, hgiven]
    exact hf a known

theorem alike_answerReverse (v : View) (hst : Like catalog apart s t) (table other : Option String)
    (query : IndexQuery) (path : Path) :
    Alike (likeness catalog apart) (answerIndexPath v table other query (.reverse path)).run s
      (answerIndexPath v table other query (.reverse path)).run t :=
  alike_look_bind hst (hst.relationship path) fun _ _ hr hr' _ =>
    alike_given_bind hst table fun _ known =>
      alike_bind_stable hst
        (alike_onRelationship hst hr hr' (Relationship.indistinctAmong known).stable_index)
        fun _ => ((reads_mapM_table other).bind fun _ => reads_answerIndex ..).stable

/-! ### Lazy indices -/

section Lazy

variable {name : String} {type : KeyType} {l : LazyIndex Fields type.Value} {α : Type}
  {m : Traced (LazyIndex Fields type.Value) α}

theorem agree_onLazyIndex (hst : Like catalog apart s t) :
    Agree (likeness catalog apart) (onLazyIndex name type l m).run s
      (onLazyIndex name type l m).run t where
  result_eq := by rw [onLazyIndex, Action.run_within, Action.run_within]
  like_state := by
    rw [onLazyIndex, Action.run_within, Action.run_within]
    exact hst.put (.lazyIndex rfl fun _ => rfl)

/-- A lazy index that is set apart may be built. -/
theorem keeps_onLazyIndex (hs : Like catalog apart s s)
    (hobject : s.object name = .ok (.lazyIndex type l)) (hapart : apart = some name)
    (hcolumn : (m.run l).state.column = l.column) :
    (onLazyIndex name type l m).run.Keeps (likeness catalog apart) s := by
  unfold Keeps
  rw [onLazyIndex, Action.run_within]
  exact hs.put_of_found hobject (.lazyIndex hcolumn.symm fun hnot => absurd hapart hnot)

theorem eq_of_column_of_built {l' : LazyIndex Fields type.Value} (hcolumn : l.column = l'.column)
    (hbuilt : l.built = l'.built) : l = l' := by
  cases l
  cases l'
  rw [LazyIndex.mk.injEq]
  exact ⟨hcolumn, hbuilt⟩

theorem column_state_get (table : Table Fields) (l : LazyIndex Fields type.Value) :
    ((LazyIndex.get table).run l).state.column = l.column := by
  cases hbuilt : l.built with
  | none => rw [LazyIndex.run_get_of_not_built hbuilt]
  | some i => rw [LazyIndex.run_get_of_built hbuilt]

theorem column_state_force (table : Table Fields) (l : LazyIndex Fields type.Value) :
    ((LazyIndex.force table).run l).state.column = l.column := by
  rw [LazyIndex.force, state_bind_of_keeps fun _ _ => rfl]
  exact column_state_get table l

end Lazy

section Named

variable {name : String}

/-- An index under a name that is not set apart is asked the same on both sides. -/
theorem agree_answerIndexPath (v : View) (hst : Like catalog apart s t) (table other : Option String)
    (query : IndexQuery) (hapart : apart ≠ some name) :
    Agree (likeness catalog apart) (answerIndexPath v table other query (.object name)).run s
      (answerIndexPath v table other query (.object name)).run t := by
  refine agree_look_bind hst (hst.object name) fun o o' hlike => ?_
  refine (reads_mapM_table table).agree_bind hst fun a => ?_
  cases hlike with
  | index =>
    exact ((reads_mapM_table other).bind fun _ => reads_answerIndex ..).stable.agree hst
  | @lazyIndex type l l' hcolumn hbuilt =>
    obtain rfl : l = l' := eq_of_column_of_built hcolumn (hbuilt hapart)
    refine (reads_choice (given a)).agree_bind hst fun a => ?_
    refine Action.agree_bind (agree_onLazyIndex hst) fun i _ => ?_
    exact ((reads_mapM_table other).bind fun _ => reads_answerIndex ..).stable.agree
      (agree_onLazyIndex hst).like_state
  | _ => exact (reads_throw .noSuchObject).stable.agree hst

/-- A lazy index that is asked may be built, and only if it is set apart does that not matter. -/
theorem keeps_answerIndexPath (v : View) (hs : Like catalog apart s s) (table other : Option String)
    (query : IndexQuery)
    (hapart : ∀ type l, s.object name = .ok (.lazyIndex type l) → apart = some name) :
    (answerIndexPath v table other query (.object name)).run.Keeps (likeness catalog apart) s := by
  refine keeps_look_bind hs fun o ho => ?_
  refine (reads_mapM_table table).keeps_bind hs fun a => ?_
  cases o with
  | index type i =>
    exact ((reads_mapM_table other).bind fun _ => reads_answerIndex ..).stable.keeps hs
  | lazyIndex type l =>
    refine (reads_choice (given a)).keeps_bind hs fun a => ?_
    have hbuild := keeps_onLazyIndex hs ho (hapart type l ho) (column_state_get a l)
    refine Action.keeps_bind hbuild fun i _ => ?_
    exact ((reads_mapM_table other).bind fun _ => reads_answerIndex ..).stable.keeps
      (Like.right hbuild)
  | _ => exact (reads_throw .noSuchObject).stable.keeps hs

theorem agree_answerLazy (hst : Like catalog apart s t) (query : LazyQuery)
    (hapart : apart ≠ some name) :
    Agree (likeness catalog apart) (answerLazy name query).run s (answerLazy name query).run t := by
  refine agree_look_bind hst (hst.object name) fun o o' hlike => ?_
  cases hlike with
  | @lazyIndex type l l' hcolumn hbuilt =>
    obtain rfl : l = l' := eq_of_column_of_built hcolumn (hbuilt hapart)
    cases query with
    | isBuilt => exact (reads_pure _).stable.agree hst
    | built => exact (reads_pure _).stable.agree hst
    | force table =>
      refine (reads_table table).agree_bind hst fun a => ?_
      exact Action.agree_bind (agree_onLazyIndex hst) fun _ _ =>
        (reads_pure _).stable.agree (agree_onLazyIndex hst).like_state
  | _ => exact (reads_throw .noSuchObject).stable.agree hst

theorem keeps_answerLazy (hs : Like catalog apart s s) (query : LazyQuery)
    (hapart : ∀ type l, s.object name = .ok (.lazyIndex type l) → apart = some name) :
    (answerLazy name query).run.Keeps (likeness catalog apart) s := by
  refine keeps_look_bind hs fun o ho => ?_
  cases o with
  | lazyIndex type l =>
    cases query with
    | isBuilt => exact (reads_pure _).stable.keeps hs
    | built => exact (reads_pure _).stable.keeps hs
    | force table =>
      refine (reads_table table).keeps_bind hs fun a => ?_
      have hbuild := keeps_onLazyIndex hs ho (hapart type l ho) (column_state_force a l)
      exact Action.keeps_bind hbuild fun _ _ =>
        (reads_pure _).stable.keeps (Like.right hbuild)
  | _ => exact (reads_throw .noSuchObject).stable.keeps hs

end Named

/-! ## Questions of every kind -/

theorem alike_answerExternal (hst : Like catalog apart s t)
    (i : KeyedRecords ExternalKey ExternalRecord) (q : ExternalQuery) :
    Alike (likeness catalog apart) (answerExternal i q).run s (answerExternal i q).run t := by
  cases q with
  | info => exact (reads_pure _).stable.alike hst
  | record key => exact (reads_pure _).stable.alike hst
  | recordOf name label =>
    refine alike_look_bind hst (hst.object name) fun o o' _ _ hlike => ?_
    cases hlike with
    | keys => exact ((reads_choice _).bind fun _ => reads_pure _).stable.alike hst
    | _ => exact (reads_throw .noSuchObject).stable.alike hst

/-- Whether a question is for the structural text of an object. -/
def Query.isInspect : Query → Bool
  | .inspect _ => true
  | _ => false

/-- The name under which a question asks an index. -/
def Query.namedIndex : Query → Option String
  | .index (.object name) _ _ _ => some name
  | .lazyIndex name _ => some name
  | _ => none

theorem alike_answer (hst : Like catalog apart s t) (v : View) (q : Query)
    (hinspect : q.isInspect = false) (hnamed : q.namedIndex = none) :
    Alike (likeness catalog apart) (answer v q).run s (answer v q).run t := by
  cases q with
  | inspect path => contradiction
  | lazyIndex name query => contradiction
  | index path table other query =>
    cases path with
    | object name => contradiction
    | reverse path => exact alike_answerReverse v hst table other query path
  | table name query =>
    exact ((reads_table name).bind fun t => reads_answerTable v t query).stable.alike hst
  | relationship path query =>
    exact alike_look_bind hst (hst.relationship path) fun _ _ hs ht _ =>
      alike_answerRelationship v hst hs ht query
  | partner name query =>
    exact alike_look_bind hst (hst.partner name) fun _ _ _ _ hlike =>
      alike_answerPartner v hst hlike.1 hlike.2 query
  | junction name junction row query =>
    exact alike_look_bind hst (hst.junction name) fun _ _ hs ht _ =>
      alike_table_bind hst fun _ known => alike_answerJunction v hst hs ht known row query
  | parentRef name record =>
    exact alike_look_bind hst (hst.hierarchy name) fun h h' _ _ hlike => by
      have hparent : h'.parentRef = h.parentRef := by
        unfold Hierarchy.parentRef
        rw [Relationship.eq_of_likeAmong hlike]
      rw [hparent]
      exact ((reads_record record).bind fun _ => reads_pure _).stable.alike hst
  | hierarchy name table query =>
    exact alike_look_bind hst (hst.hierarchy name) fun _ _ hs ht _ =>
      alike_table_bind hst fun _ known => alike_answerHierarchy v hst hs ht known query
  | variantInfo name =>
    exact alike_variantColumn_bind hst fun tags c c' _ _ hlike => by
      rw [VariantColumn.eq_of_likeAmong hlike]
      exact (reads_pure _).stable.alike hst
  | variantOf name record =>
    exact alike_variantColumn_bind hst fun tags c c' _ _ hlike => by
      rw [VariantColumn.eq_of_likeAmong hlike]
      exact ((reads_record record).bind fun _ => reads_pure _).stable.alike hst
  | variant name table query =>
    exact alike_variantColumn_bind hst fun _ _ _ hs ht hlike =>
      alike_table_bind hst fun _ known => alike_answerVariant v hst hs ht hlike known query
  | labels name query =>
    refine alike_look_bind hst (hst.object name) fun o o' _ _ hlike => ?_
    cases hlike with
    | labels => exact (reads_answerLabels v _ _ query).stable.alike hst
    | _ => exact (reads_throw .noSuchObject).stable.alike hst
  | keys name query =>
    refine alike_look_bind hst (hst.object name) fun o o' _ _ hlike => ?_
    cases hlike with
    | keys => exact (reads_answerKeys _ _ query).stable.alike hst
    | _ => exact (reads_throw .noSuchObject).stable.alike hst
  | external name query =>
    refine alike_look_bind hst (hst.object name) fun o o' _ _ hlike => ?_
    cases hlike with
    | external => exact alike_answerExternal hst _ query
    | _ => exact (reads_throw .noSuchObject).stable.alike hst

/-- Like sessions agree on a question, unless it is put to the lazy index that is set apart. -/
theorem agree_answer (hst : Like catalog apart s t) (v : View) (q : Query)
    (hinspect : q.isInspect = false) (hnamed : ∀ name, q.namedIndex = some name → apart ≠ some name) :
    Agree (likeness catalog apart) (answer v q).run s (answer v q).run t := by
  cases hname : q.namedIndex with
  | none => exact (alike_answer hst v q hinspect hname).agree hst
  | some name =>
    have hapart := hnamed name hname
    cases q with
    | lazyIndex name query =>
      obtain rfl := Option.some.inj hname
      exact agree_answerLazy hst query hapart
    | index path table other query =>
      cases path with
      | object name =>
        obtain rfl := Option.some.inj hname
        exact agree_answerIndexPath v hst table other query hapart
      | reverse path => contradiction
    | _ => contradiction

/-- The name of a lazy index that a question is put to. -/
def lazyAsked (s : Session) (q : Query) : Option String :=
  q.namedIndex.filter fun name =>
    match s.object name with
    | .ok (.lazyIndex ..) => true
    | _ => false

theorem lazyAsked_eq_some {name : String} {type : KeyType} {l : LazyIndex Fields type.Value}
    {q : Query} (hname : q.namedIndex = some name) (h : s.object name = .ok (.lazyIndex type l)) :
    s.lazyAsked q = some name := by
  rw [lazyAsked, hname, Option.filter_some, h]
  rfl

/-- A question leaves its session like it was, but for the lazy index that it is put to. -/
theorem keeps_answer (hs : Like catalog apart s s) (v : View) (q : Query)
    (hapart : ∀ name, s.lazyAsked q = some name → apart = some name) :
    (answer v q).run.Keeps (likeness catalog apart) s := by
  cases hname : q.namedIndex with
  | none =>
    cases hinspect : q.isInspect with
    | false => exact (alike_answer hs v q hinspect hname).left
    | true =>
      cases q with
      | inspect path =>
        exact keeps_look_bind hs fun text _ => ((reads_pure _).stable.alike hs).left
      | _ => contradiction
  | some name =>
    have hlazy type (l : LazyIndex Fields type.Value) (h : s.object name = .ok (.lazyIndex type l)) :
        apart = some name := hapart name (lazyAsked_eq_some hname h)
    cases q with
    | lazyIndex name query =>
      obtain rfl := Option.some.inj hname
      exact keeps_answerLazy hs query hlazy
    | index path table other query =>
      cases path with
      | object name =>
        obtain rfl := Option.some.inj hname
        exact keeps_answerIndexPath v hs table other query hlazy
      | reverse path => contradiction
    | _ => contradiction

end StaticTables.Session
