import Mathlib
import StaticTables.Hierarchy.Ancestors
import StaticTables.Hierarchy.Spread
import StaticTables.Hierarchy.Walk
import StaticTables.Proofs.Query.Linked

/-!
# Queries to hierarchies

Hierarchies are alike when their parent columns are. What is told from the parents of records is the
same for like hierarchies, and children are found through the index of the parent column.
-/
namespace StaticTables.Hierarchy

variable {α : Type}

/-- What a hierarchy can be asked with its table, its structural text apart. -/
inductive Query (α : Type) where
  | parent (q : Relationship.Query α α)
  | parentRef (record : Record α)
  | parentOf (record : Record α)
  | children (row : Ref α)
  | roots
  | ancestorsUpTo (limit : Nat) (row : Ref α)
  | ancestors (row : Ref α)
  | depth (row : Ref α)
  | contains (ancestor row : Ref α)
  | subtree (roots : List (Ref α))
  | descendants (roots : List (Ref α))
  | subtreeByWalk (roots : List (Ref α))

def Query.Answer : Query α → Type
  | parent q => q.Answer
  | parentRef _ => Option (Ref α)
  | parentOf _ => Option (Record α)
  | ancestorsUpTo _ _ | ancestors _ => List (Ref α)
  | depth _ => Nat
  | contains _ _ => Bool
  | children _ | roots | subtree _ | descendants _ | subtreeByWalk _ => Rows α

/-- What a hierarchy over a table can be asked. -/
def interface (table : Table α) : Interface (Hierarchy α) where
  Query := Query α
  Answer := Query.Answer
  ask
    | .parent q => Traced.within parent withParent (Relationship.ask ⟨table, table⟩ q)
    | .parentRef record => Traced.look fun h => .ok (h.parentRef record)
    | .parentOf record => Traced.look fun h => h.parentOf table record
    | .children row => children table row
    | .roots => Traced.look fun h => .ok (h.roots table)
    | .ancestorsUpTo limit row => Traced.look fun h => h.ancestorsUpTo table limit row
    | .ancestors row => Traced.look fun h => h.ancestors table row
    | .depth row => Traced.look fun h => h.depth table row
    | .contains ancestor row => Traced.look fun h => h.contains table ancestor row
    | .subtree roots => subtree table roots
    | .descendants roots => descendants table roots
    | .subtreeByWalk roots => subtreeByWalk table roots

/-- The hierarchy once the index of its parent column is built. -/
def indexed (h : Hierarchy α) (table : Table α) : Hierarchy α where
  parent := h.parent.indexed table

/-- Hierarchies are alike when their parent columns are. -/
def likeness (table : Table α) : Likeness (Hierarchy α) :=
  .upTo (·.parent.Sourced table) (·.indexed table)

section Stable

variable {table : Table α}

theorem like_parent {h h' : Hierarchy α} (hlike : (likeness table).Like h h') :
    (Relationship.likeness table).Like h.parent h'.parent :=
  ⟨hlike.1, hlike.2.1, congrArg parent hlike.2.2⟩

theorem like_of_parent {h h' : Hierarchy α}
    (hlike : (Relationship.likeness table).Like h.parent h'.parent) : (likeness table).Like h h' :=
  ⟨hlike.1, hlike.2.1, congrArg mk hlike.2.2⟩

theorem parentRef_indexed (h : Hierarchy α) : (h.indexed table).parentRef = h.parentRef := rfl

/-- A chain of parents depends on the parents alone. -/
theorem climb_congr {h h' : Hierarchy α} (hparent : h'.parentRef = h.parentRef) (limit : Nat)
    (current : Option (Ref α)) : h'.climb table limit current = h.climb table limit current := by
  induction limit generalizing current with
  | zero => rfl
  | succ limit ih =>
    cases current with
    | none => rfl
    | some step => simp only [climb, hparent, ih]

theorem meets_congr {h h' : Hierarchy α} (hparent : h'.parentRef = h.parentRef) (ancestor : Ref α)
    (limit : Nat) (current : Option (Ref α)) :
    h'.meets table ancestor limit current = h.meets table ancestor limit current := by
  induction limit generalizing current with
  | zero => rfl
  | succ limit ih =>
    cases current with
    | none => rfl
    | some step => simp only [meets, hparent, ih]

theorem ancestorsUpTo_congr {h h' : Hierarchy α} (hparent : h'.parentRef = h.parentRef)
    (limit : Nat) (row : Ref α) :
    h'.ancestorsUpTo table limit row = h.ancestorsUpTo table limit row := by
  simp only [ancestorsUpTo, hparent, climb_congr hparent]

theorem contains_congr {h h' : Hierarchy α} (hparent : h'.parentRef = h.parentRef)
    (ancestor row : Ref α) : h'.contains table ancestor row = h.contains table ancestor row := by
  simp only [contains, hparent, meets_congr hparent]

variable {L : Likeness (Relationship α α)}

theorem eq_of_like (hL : Relationship.Indistinct L table) {h h' : Hierarchy α}
    (hlike : (L.on parent).Like h h') : h' = ⟨{ h.parent with built := h'.parent.built }⟩ :=
  congrArg mk (hL.eq_of_like hlike)

theorem stable_look (hL : Relationship.Indistinct L table) {β : Type}
    {f : Hierarchy α → Except Failure β} (hf : ∀ h i, f ⟨{ h.parent with built := i }⟩ = f h) :
    (Traced.look f).Stable (L.on parent) :=
  Traced.stable_look fun hlike => by
    rw [eq_of_like hL hlike]
    exact (hf _ _).symm

theorem stable_get_bind (hL : Relationship.Indistinct L table) {β : Type}
    {f : Hierarchy α → Traced (Hierarchy α) β} (hstable : ∀ h, (f h).Stable (L.on parent))
    (hf : ∀ h i, f ⟨{ h.parent with built := i }⟩ = f h) :
    (Traced.get >>= f).Stable (L.on parent) :=
  Traced.stable_get_bind hstable fun hlike => by
    rw [eq_of_like hL hlike]
    exact (hf _ _).symm

theorem parentRef_built (h : Hierarchy α) (i : Option (Index RowId)) :
    parentRef ⟨{ h.parent with built := i }⟩ = h.parentRef := rfl

theorem stable_within {β : Type} {m : Traced (Relationship α α) β} (h : m.Stable L) :
    (Traced.within parent withParent m).Stable (L.on parent) :=
  h.within id fun _ hside => hside

theorem stable_propagate (hL : Relationship.Indistinct L table) (roots : List (Ref α)) :
    (propagate table roots).Stable (L.on parent) :=
  stable_get_bind hL (fun _ => (Traced.stable_emit _).bind fun _ => Traced.stable_pure _)
    fun _ _ => rfl

theorem stable_ask_of (hL : Relationship.Indistinct L table) (q : Query α) :
    ((interface table).ask q).Stable (L.on parent) := by
  cases q with
  | parent q => exact stable_within (hL.stable_ask (e := ⟨table, table⟩) q)
  | children row => exact stable_within (hL.stable_referrers row)
  | ancestorsUpTo limit row =>
    exact stable_look hL fun h i => ancestorsUpTo_congr (h.parentRef_built i) limit row
  | ancestors row =>
    exact stable_look hL fun h i => ancestorsUpTo_congr (h.parentRef_built i) _ row
  | depth row =>
    refine stable_look hL fun h i => ?_
    rw [depth, depth, ancestors, ancestors, ancestorsUpTo_congr (h.parentRef_built i)]
  | contains ancestor row =>
    exact stable_look hL fun h i => contains_congr (h.parentRef_built i) ancestor row
  | subtree roots => exact (stable_propagate hL roots).bind fun _ => Traced.stable_pure _
  | descendants roots =>
    exact (stable_propagate hL roots).bind fun _ =>
      stable_get_bind hL (fun _ => Traced.stable_pure _) fun _ _ => rfl
  | subtreeByWalk roots =>
    show (subtreeByWalk table roots).Stable (L.on parent)
    unfold subtreeByWalk
    split
    · exact Traced.stable_pure _
    · exact (stable_within hL.stable_index).bind fun _ =>
        (Traced.stable_emitAll _).bind fun _ => Traced.stable_pure _
  | _ => exact stable_look hL fun _ _ => rfl

theorem stable_ask (q : Query α) : ((interface table).ask q).Stable (likeness table) :=
  (stable_ask_of (Relationship.indistinct table) q).congr ⟨like_parent, like_of_parent⟩

end Stable

end StaticTables.Hierarchy
