import Mathlib
import StaticTables.Link.Junction
import StaticTables.Link.Partner
import StaticTables.Proofs.Link.Construction
import StaticTables.Proofs.Query.Interface

/-!
# Queries to relationships, partners and junctions

Two relationships over a source table are alike when they differ at most in whether the reverse
index is built. All that a relationship can be asked with its tables is stable under this likeness,
and so is what its two sides can be asked through a partner or a junction.
-/
namespace StaticTables

/-- The tables that a reference column leads from and to. -/
structure Ends (S T : Type) where
  source : Table S
  target : Table T

/-- A reference column: what a relationship is built from, but for the settings. -/
structure ReferenceColumn (S T : Type) extends Ends S T where
  declaration : Declaration
  reference : S → Option (Ref T)

/-- Builds the relationship over a column. -/
def ReferenceColumn.build {S T : Type} (c : ReferenceColumn S T) (settings : Settings) :
    Build (Relationship S T) :=
  Relationship.build settings c.declaration c.source c.target c.reference

namespace Relationship

variable {S T : Type}

/-- What a relationship can be asked with its tables, its structural text apart. -/
inductive Query (S T : Type) where
  | declaration
  | source
  | target
  | reference (record : Record S)
  | targetOf (record : Record S)
  | targetOfRow (row : RowId)
  | index
  | referrers (link : Ref T)
  | referrersOf (record : Record T)
  | countReferrers (link : Ref T)
  | unreferenced

def Query.Answer : Query S T → Type
  | declaration => Declaration
  | source | target => TableId
  | reference _ => Option (Ref T)
  | targetOf _ | targetOfRow _ => Option (Record T)
  | index => Index RowId
  | referrers _ | referrersOf _ => Rows S
  | countReferrers _ => Nat
  | unreferenced => List (Record T)

def ask (e : Ends S T) : (q : Query S T) → Traced (Relationship S T) q.Answer
  | .declaration => Traced.look fun r => .ok r.declaration
  | .source => Traced.look fun r => .ok r.source
  | .target => Traced.look fun r => .ok r.target
  | .reference record => Traced.look fun r => .ok (r.reference record.value)
  | .targetOf record => Traced.look fun r => r.targetOf e.target record
  | .targetOfRow row => Traced.look fun r => r.targetOfRow e.source e.target row
  | .index => index e.source
  | .referrers link => referrers e.source link
  | .referrersOf record => referrersOf e.source e.target record
  | .countReferrers link => countReferrers e.source link
  | .unreferenced => unreferenced e.source e.target

/-- What a relationship between two tables can be asked. -/
def interface (e : Ends S T) : Interface (Relationship S T) where
  Query := Query S T
  Answer := Query.Answer
  ask := ask e

/-! ## Relationships that differ in their reverse index -/

/-- Like relationships agree in all but the reverse index, and asked for it with the table they give
the same one. -/
structure Indistinct (L : Likeness (Relationship S T)) (source : Table S) : Prop where
  eq_of_like : ∀ {r r'}, L.Like r r' → r' = { r with built := r'.built }
  stable_index : (index source).Stable L

section Indistinct

variable {L : Likeness (Relationship S T)} {source : Table S}

theorem Indistinct.stable_look (h : Indistinct L source) {α : Type}
    {f : Relationship S T → Except Failure α} (hf : ∀ r i, f { r with built := i } = f r) :
    (Traced.look f).Stable L :=
  Traced.stable_look fun hlike => by
    rw [h.eq_of_like hlike]
    exact (hf _ _).symm

theorem Indistinct.stable_referrers (h : Indistinct L source) (link : Ref T) :
    (referrers source link).Stable L :=
  h.stable_index.bind fun _ => Traced.stable_building _

theorem Indistinct.stable_ask {e : Ends S T} (h : Indistinct L e.source) (q : Query S T) :
    (ask e q).Stable L := by
  cases q with
  | index => exact h.stable_index
  | referrers link => exact h.stable_referrers link
  | referrersOf record =>
    show (referrersOf e.source e.target record).Stable L
    unfold referrersOf
    split
    · exact h.stable_referrers _
    · exact Traced.stable_pure _
  | countReferrers link => exact h.stable_index.bind fun _ => Traced.stable_pure _
  | unreferenced => exact h.stable_index.bind fun _ => Traced.stable_pure _
  | _ => exact h.stable_look fun _ _ => rfl

end Indistinct

theorem Sourced.indexed {r : Relationship S T} {source : Table S} (h : r.Sourced source) :
    (r.indexed source).Sourced source where
  source_eq := h.source_eq
  built_eq _ hi := (Option.some.inj hi).symm

/-- Relationships over a source table are alike when they are the same once their index is built. -/
def likeness (source : Table S) : Likeness (Relationship S T) :=
  .upTo (·.Sourced source) (·.indexed source)

theorem like_indexed {r : Relationship S T} {source : Table S} (h : r.Sourced source) :
    (likeness source).Like r (r.indexed source) :=
  ⟨h, h.indexed, rfl⟩

/-- Like relationships agree in all but the index. -/
theorem eq_of_like {r r' : Relationship S T} {source : Table S}
    (h : (likeness source).Like r r') : r' = { r with built := r'.built } := by
  obtain ⟨-, -, hindexed⟩ := h
  simp only [Relationship.indexed, mk.injEq] at hindexed
  obtain ⟨hdeclaration, hsource, htarget, hreference, -⟩ := hindexed
  rw [hdeclaration, hsource, htarget, hreference]

theorem indistinct (source : Table S) : Indistinct (likeness (T := T) source) source where
  eq_of_like := eq_of_like
  stable_index :=
    { result_eq := fun hlike => by
        rw [hlike.1.run_index.1, hlike.2.1.run_index.1, eq_of_like hlike]
      keeps := fun hlike => by
        rw [hlike.1.run_index.2]
        exact like_indexed hlike.1 }

theorem stable_ask (e : Ends S T) (q : Query S T) : (ask e q).Stable (likeness e.source) :=
  (indistinct e.source).stable_ask q

end Relationship

/-! ## Partners -/

namespace Partner

variable {A B : Type}

/-- What a pair can be asked with the tables of its sides, its structural text apart. -/
inductive Query (A B : Type) where
  | forward (q : Relationship.Query A B)
  | backward (q : Relationship.Query B A)
  | ofLeft (record : Record A)
  | ofRight (record : Record B)

def Query.Answer : Query A B → Type
  | forward q => q.Answer
  | backward q => q.Answer
  | ofLeft _ => Option (Record B)
  | ofRight _ => Option (Record A)

/-- What a pair over two tables can be asked. Its sides are asked with the tables that they were
built over. -/
def interface (forward : Ends A B) (backward : Ends B A) (a : Table A) (b : Table B) :
    Interface (Partner A B) where
  Query := Query A B
  Answer := Query.Answer
  ask
    | .forward q => Traced.within Partner.forward withForward (Relationship.ask forward q)
    | .backward q => Traced.within Partner.backward withBackward (Relationship.ask backward q)
    | .ofLeft record => Traced.look fun p => p.ofLeft b record
    | .ofRight record => Traced.look fun p => p.ofRight a record

/-- Pairs are alike when they are alike on both sides. -/
def likeness (a : Table A) (b : Table B) : Likeness (Partner A B) :=
  ((Relationship.likeness a).on forward).and ((Relationship.likeness b).on backward)

section Stable

variable {forward : Ends A B} {backward : Ends B A} {a : Table A} {b : Table B}

theorem stable_ask_of {L : Likeness (Relationship A B)} {M : Likeness (Relationship B A)}
    (hforward : Relationship.Indistinct L forward.source)
    (hbackward : Relationship.Indistinct M backward.source) (q : Query A B) :
    ((interface forward backward a b).ask q).Stable
      ((L.on Partner.forward).and (M.on Partner.backward)) := by
  cases q with
  | forward q =>
    exact (hforward.stable_ask q).within (fun h => h.1) fun hp hside => ⟨hside, hp.2⟩
  | backward q =>
    exact (hbackward.stable_ask q).within (fun h => h.2) fun hp hside => ⟨hp.1, hside⟩
  | ofLeft record =>
    refine Traced.stable_look fun hlike => ?_
    rw [ofLeft, ofLeft, hforward.eq_of_like hlike.1]
    rfl
  | ofRight record =>
    refine Traced.stable_look fun hlike => ?_
    rw [ofRight, ofRight, hbackward.eq_of_like hlike.2]
    rfl

theorem stable_ask (q : Query A B) :
    ((interface forward backward a b).ask q).Stable (likeness forward.source backward.source) :=
  stable_ask_of (Relationship.indistinct _) (Relationship.indistinct _) q

end Stable

end Partner

/-! ## Junctions -/

namespace Junction

variable {A B J : Type}

/-- What a junction can be asked with the tables of its sides, its structural text apart. -/
inductive Query (A B J : Type) where
  | left (q : Relationship.Query J A)
  | right (q : Relationship.Query J B)
  | links (a : Ref A)
  | linksBack (b : Ref B)
  | related (a : Ref A)
  | relatedBack (b : Ref B)
  | relatedRefs (a : Ref A)
  | relatedBackRefs (b : Ref B)

def Query.Answer : Query A B J → Type
  | left q => q.Answer
  | right q => q.Answer
  | links _ | linksBack _ => Rows J
  | related _ => List (Record B)
  | relatedBack _ => List (Record A)
  | relatedRefs _ => List (Ref B)
  | relatedBackRefs _ => List (Ref A)

/-- What a junction can be asked. The rows that it starts from are looked up with the table that the
side in question was built over. -/
def interface (left : Ends J A) (right : Ends J B) : Interface (Junction A B J) where
  Query := Query A B J
  Answer := Query.Answer
  ask
    | .left q => Traced.within Junction.left withLeft (Relationship.ask left q)
    | .right q => Traced.within Junction.right withRight (Relationship.ask right q)
    | .links a => links left.source a
    | .linksBack b => linksBack right.source b
    | .related a => related left.source right.target a
    | .relatedBack b => relatedBack right.source left.target b
    | .relatedRefs a => relatedRefs left.source a
    | .relatedBackRefs b => relatedBackRefs right.source b

/-- Junctions are alike when they are alike on both sides. -/
def likeness (left right : Table J) : Likeness (Junction A B J) :=
  ((Relationship.likeness left).on Junction.left).and
    ((Relationship.likeness right).on Junction.right)

section Stable

variable {L : Likeness (Relationship J A)} {M : Likeness (Relationship J B)}

theorem stable_within_left {α : Type} {m : Traced (Relationship J A) α} (h : m.Stable L) :
    (Traced.within Junction.left withLeft m).Stable
      ((L.on Junction.left).and (M.on Junction.right)) :=
  h.within (fun hlike => hlike.1) fun hx hside => ⟨hside, hx.2⟩

theorem stable_within_right {α : Type} {m : Traced (Relationship J B) α} (h : m.Stable M) :
    (Traced.within Junction.right withRight m).Stable
      ((L.on Junction.left).and (M.on Junction.right)) :=
  h.within (fun hlike => hlike.2) fun hx hside => ⟨hx.1, hside⟩

/-- Rows that are found by a stable query are followed in a stable way, if what follows them is the
same for like junctions. -/
theorem stable_follow {N : Likeness (Junction A B J)} {β : Type}
    {m : Traced (Junction A B J) (Rows J)} (hm : m.Stable N)
    {next : Junction A B J → Record J → Except Failure (Option β)}
    (hnext : ∀ {x x'}, N.Like x x' → next x = next x') :
    (m >>= fun rows => Traced.get >>= fun x => liftM (follow rows (next x))).Stable N :=
  hm.bind fun _ =>
    Traced.stable_get_bind (fun _ => Traced.stable_liftM _) fun hlike => by rw [hnext hlike]

variable {left : Ends J A} {right : Ends J B}

theorem stable_ask_of (hleft : Relationship.Indistinct L left.source)
    (hright : Relationship.Indistinct M right.source) (q : Query A B J) :
    ((interface left right).ask q).Stable ((L.on Junction.left).and (M.on Junction.right)) := by
  cases q with
  | left q => exact stable_within_left (hleft.stable_ask q)
  | right q => exact stable_within_right (hright.stable_ask q)
  | links a => exact stable_within_left (hleft.stable_referrers a)
  | linksBack b => exact stable_within_right (hright.stable_referrers b)
  | related a =>
    refine stable_follow (stable_within_left (hleft.stable_referrers a)) fun hlike => ?_
    rw [hright.eq_of_like hlike.2]
    rfl
  | relatedBack b =>
    refine stable_follow (stable_within_right (hright.stable_referrers b)) fun hlike => ?_
    rw [hleft.eq_of_like hlike.1]
    rfl
  | relatedRefs a =>
    refine stable_follow (stable_within_left (hleft.stable_referrers a)) fun hlike => ?_
    rw [hright.eq_of_like hlike.2]
  | relatedBackRefs b =>
    refine stable_follow (stable_within_right (hright.stable_referrers b)) fun hlike => ?_
    rw [hleft.eq_of_like hlike.1]

theorem stable_ask (q : Query A B J) :
    ((interface left right).ask q).Stable (likeness left.source right.source) :=
  stable_ask_of (Relationship.indistinct _) (Relationship.indistinct _) q

end Stable

end Junction

end StaticTables
