import StaticTables.Session.Action

/-!
Questions to relationships and to what is made of them: pairs, junctions, hierarchies, and the
variant columns beside them. Tables are looked up first, then the record is read, then the question
is asked. A computation over one object leaves its new state under the same name.
-/
namespace StaticTables.Session

def answerRelationship (v : View) (path : Path) (r : Relationship Fields Fields) :
    RelationshipQuery → Action Reply
  | .info => return .relationshipInfo r.declaration r.source r.target
  | .reference record => do
    let record ← Action.record record
    return .row ((r.reference record.value).map Ref.row)
  | .targetOf target record => do
    let target ← Action.table target
    let record ← Action.record record
    return v.record target (← r.targetOf target record)
  | .targetOfRow source target row => do
    let source ← Action.table source
    let target ← Action.table target
    return v.record target (← r.targetOfRow source target row)
  | .referrers source row => do
    let source ← Action.table source
    v.rows (← on (Relationship.referrers source ⟨row⟩))
  | .referrersOf source target record => do
    let source ← Action.table source
    let target ← Action.table target
    let record ← Action.record record
    v.rows (← on (Relationship.referrersOf source target record))
  | .countReferrers source row => do
    let source ← Action.table source
    return .number (← on (Relationship.countReferrers source ⟨row⟩))
  | .unreferenced source target => do
    let source ← Action.table source
    let target ← Action.table target
    return v.records target (← on (Relationship.unreferenced source target))
where
  on {α : Type} (m : Traced (Relationship Fields Fields) α) : Action α :=
    Action.onRelationship path r m

def answerPartner (v : View) (p : Partner Fields Fields) : PartnerQuery → Action Reply
  | .ofLeft table record => do
    let t ← Action.table table
    let record ← Action.record record
    return v.record t (← p.ofLeft t record)
  | .ofRight table record => do
    let t ← Action.table table
    let record ← Action.record record
    return v.record t (← p.ofRight t record)

def answerJunction (v : View) (name : String) (x : Junction Fields Fields Fields)
    (junction : Table Fields) (row : RowId) : JunctionQuery → Action Reply
  | .links => do v.rows (← on (Junction.links junction ⟨row⟩))
  | .linksBack => do v.rows (← on (Junction.linksBack junction ⟨row⟩))
  | .related table => do
    let t ← Action.table table
    return v.records t (← on (Junction.related junction t ⟨row⟩))
  | .relatedBack table => do
    let t ← Action.table table
    return v.records t (← on (Junction.relatedBack junction t ⟨row⟩))
  | .relatedRefs => return .rowList ((← on (Junction.relatedRefs junction ⟨row⟩)).map Ref.row)
  | .relatedBackRefs =>
    return .rowList ((← on (Junction.relatedBackRefs junction ⟨row⟩)).map Ref.row)
where
  on {α : Type} (m : Traced (Junction Fields Fields Fields) α) : Action α :=
    Action.within x (fun s x => s.put name (.junction x)) m

def answerHierarchy (v : View) (name : String) (h : Hierarchy Fields) (t : Table Fields) :
    HierarchyQuery → Action Reply
  | .parent record => do
    let record ← Action.record record
    return v.record t (← h.parentOf t record)
  | .children row => do v.rows (← on (Hierarchy.children t ⟨row⟩))
  | .roots => v.rows (h.roots t)
  | .ancestors row none => return .rowList ((← h.ancestors t ⟨row⟩).map Ref.row)
  | .ancestors row (some limit) =>
    return .rowList ((← h.ancestorsUpTo t limit ⟨row⟩).map Ref.row)
  | .depth row => return .number (← h.depth t ⟨row⟩)
  | .contains ancestor row => return .flag (← h.contains t ⟨ancestor⟩ ⟨row⟩)
  | .subtree roots => do v.rows (← on (Hierarchy.subtree t (roots.map Ref.mk)))
  | .descendants roots => do v.rows (← on (Hierarchy.descendants t (roots.map Ref.mk)))
  | .subtreeByWalk roots => do v.rows (← on (Hierarchy.subtreeByWalk t (roots.map Ref.mk)))
where
  on {α : Type} (m : Traced (Hierarchy Fields) α) : Action α :=
    Action.within h (fun s h => s.put name (.hierarchy h)) m

/-- The variant column of a name, with the texts of its tags. -/
def variantColumn (name : String) : Action (List String × VariantColumn Fields Nat) := do
  match ← Action.object name with
  | .variant tags c => return (tags, c)
  | _ => throw .noSuchObject

/-- The number of the tag with a text. -/
def tagNumber (tags : List String) (text : String) : Except Refusal Nat :=
  match tags.idxOf? text with
  | some i => .ok i
  | none => .error .unfit

def answerVariant (v : View) (name : String) (tags : List String) (c : VariantColumn Fields Nat)
    (t : Table Fields) : VariantQuery → Action Reply
  | .holding tag row => do
    let tag ← tagNumber tags tag
    v.rows (← on (VariantColumn.holding t { tag, row }))
  | .tagged tag => do v.rows (← on (VariantColumn.tagged t (← tagNumber tags tag)))
  | .countTagged tag =>
    return .number (← on (VariantColumn.countTagged t (← tagNumber tags tag)))
  | .vacant => v.rows (c.vacant t)
where
  on {α : Type} (m : Traced (VariantColumn Fields Nat) α) : Action α :=
    Action.within c (fun s c => s.put name (.variant tags c)) m

end StaticTables.Session
