import Mathlib
import StaticTables.Proofs.Query.Tables
import StaticTables.Session.Basic

/-!
# Sessions that differ in what is built

Two sessions are alike when they hold like objects under the same names: the same objects, but for
the indices that relationships and variant columns have built so far. The lazy index of one name may
be set apart. It only has to be over the same column in both.
-/
namespace StaticTables.Session

/-- The tables that there are, by identity. -/
abbrev Catalog : Type := TableId → Option (Table Fields)

/-! ## Objects -/

/-- Objects of a session over the tables of a catalog are alike when they differ at most in what is
built of them. A lazy index that is not set apart is the same in this as well. -/
inductive Object.Like (catalog : Catalog) (apart : Prop) : Object → Object → Prop
  | table {columns : List (String × ColumnType)} {t : Table Fields}
      (known : catalog t.id = some t) : Like catalog apart (.table columns t) (.table columns t)
  | index {type : KeyType} {i : Index type.Value} : Like catalog apart (.index type i) (.index type i)
  | lazyIndex {type : KeyType} {l l' : LazyIndex Fields type.Value} (column_eq : l.column = l'.column)
      (built_eq : ¬ apart → l.built = l'.built) :
      Like catalog apart (.lazyIndex type l) (.lazyIndex type l')
  | relationship {r r' : Relationship Fields Fields}
      (like : (Relationship.likenessAmong catalog).Like r r') :
      Like catalog apart (.relationship r) (.relationship r')
  | partner {p p' : Partner Fields Fields}
      (forward : (Relationship.likenessAmong catalog).Like p.forward p'.forward)
      (backward : (Relationship.likenessAmong catalog).Like p.backward p'.backward) :
      Like catalog apart (.partner p) (.partner p')
  | junction {x x' : Junction Fields Fields Fields}
      (left : (Relationship.likenessAmong catalog).Like x.left x'.left)
      (right : (Relationship.likenessAmong catalog).Like x.right x'.right) :
      Like catalog apart (.junction x) (.junction x')
  | hierarchy {h h' : Hierarchy Fields}
      (parent : (Relationship.likenessAmong catalog).Like h.parent h'.parent) :
      Like catalog apart (.hierarchy h) (.hierarchy h')
  | variant {tags : List String} {c c' : VariantColumn Fields Nat}
      (like : (VariantColumn.likenessAmong catalog).Like c c') :
      Like catalog apart (.variant tags c) (.variant tags c')
  | labels {labels : List NamedLabel} {m : LabelMap NamedLabel} :
      Like catalog apart (.labels labels m) (.labels labels m)
  | keys {labels : List NamedLabel} {keys : LabelKeys NamedLabel ExternalKey} :
      Like catalog apart (.keys labels keys) (.keys labels keys)
  | external {i : KeyedRecords ExternalKey ExternalRecord} :
      Like catalog apart (.external i) (.external i)

variable {catalog : Catalog}

theorem Object.Like.symm {apart : Prop} {o o' : Object} (h : o.Like catalog apart o') :
    o'.Like catalog apart o := by
  cases h with
  | table known => exact .table known
  | index => exact .index
  | lazyIndex hcolumn hbuilt => exact .lazyIndex hcolumn.symm fun h => (hbuilt h).symm
  | relationship hr => exact .relationship (Likeness.symm _ hr)
  | partner hf hb => exact .partner (Likeness.symm _ hf) (Likeness.symm _ hb)
  | junction hl hr => exact .junction (Likeness.symm _ hl) (Likeness.symm _ hr)
  | hierarchy hp => exact .hierarchy (Likeness.symm _ hp)
  | variant hc => exact .variant (Likeness.symm _ hc)
  | labels => exact .labels
  | keys => exact .keys
  | external => exact .external

theorem Object.Like.trans {apart : Prop} {o o' o'' : Object} (h : o.Like catalog apart o')
    (h' : o'.Like catalog apart o'') : o.Like catalog apart o'' := by
  cases h with
  | table | index | labels | keys | external => exact h'
  | lazyIndex hcolumn hbuilt =>
    cases h' with
    | lazyIndex hcolumn' hbuilt' =>
      exact .lazyIndex (hcolumn.trans hcolumn') fun h => (hbuilt h).trans (hbuilt' h)
  | relationship hr =>
    cases h' with
    | relationship hr' => exact .relationship (Likeness.trans _ hr hr')
  | partner hf hb =>
    cases h' with
    | partner hf' hb' => exact .partner (Likeness.trans _ hf hf') (Likeness.trans _ hb hb')
  | junction hl hr =>
    cases h' with
    | junction hl' hr' => exact .junction (Likeness.trans _ hl hl') (Likeness.trans _ hr hr')
  | hierarchy hp =>
    cases h' with
    | hierarchy hp' => exact .hierarchy (Likeness.trans _ hp hp')
  | variant hc =>
    cases h' with
    | variant hc' => exact .variant (Likeness.trans _ hc hc')

/-! ## Sessions -/

/-- Both are found and related, or both are refused for the same reason. -/
inductive Found {α β : Type} (R : α → β → Prop) : Except Refusal α → Except Refusal β → Prop
  | found {a : α} {b : β} (related : R a b) : Found R (.ok a) (.ok b)
  | refused (refusal : Refusal) : Found R (.error refusal) (.error refusal)

/-- Sessions are alike when they hold like objects under the same names, the lazy index of one name
apart, and have made as many tables. -/
structure Like (catalog : Catalog) (apart : Option String) (s t : Session) : Prop where
  tables_eq : s.tables = t.tables
  object : ∀ name, Found (Object.Like catalog (apart = some name)) (s.object name) (t.object name)

namespace Found

variable {α β γ δ : Type} {R : α → β → Prop} {R' : γ → δ → Prop}

theorem bind {f : α → Except Refusal γ} {g : β → Except Refusal δ} {a : Except Refusal α}
    {b : Except Refusal β} (h : Found R a b) (hfg : ∀ a b, R a b → Found R' (f a) (g b)) :
    Found R' (a >>= f) (b >>= g) := by
  cases h with
  | found related => exact hfg _ _ related
  | refused refusal => exact .refused refusal

theorem map {f : α → γ} {g : β → δ} {a : Except Refusal α} {b : Except Refusal β}
    (h : Found R a b) (hfg : ∀ a b, R a b → R' (f a) (g b)) : Found R' (f <$> a) (g <$> b) := by
  cases h with
  | found related => exact .found (hfg _ _ related)
  | refused refusal => exact .refused refusal

theorem symm {R' : β → α → Prop} {a : Except Refusal α} {b : Except Refusal β} (h : Found R a b)
    (hR : ∀ a b, R a b → R' b a) : Found R' b a := by
  cases h with
  | found related => exact .found (hR _ _ related)
  | refused refusal => exact .refused refusal

theorem trans {R' : β → γ → Prop} {R'' : α → γ → Prop} {a : Except Refusal α}
    {b : Except Refusal β} {c : Except Refusal γ} (h : Found R a b) (h' : Found R' b c)
    (hR : ∀ a b c, R a b → R' b c → R'' a c) : Found R'' a c := by
  cases h with
  | found related =>
    cases h' with
    | found related' => exact .found (hR _ _ _ related related')
  | refused refusal =>
    cases h' with
    | refused => exact .refused refusal

/-- Both sides as they were found. -/
theorem sides {a : Except Refusal α} {b : Except Refusal β} (h : Found R a b) :
    (∃ x y, a = .ok x ∧ b = .ok y ∧ R x y) ∨ ∃ refusal, a = .error refusal ∧ b = .error refusal := by
  cases h with
  | found related => exact .inl ⟨_, _, rfl, rfl, related⟩
  | refused refusal => exact .inr ⟨refusal, rfl, rfl⟩

theorem related {a : Except Refusal α} {b : Except Refusal β} (h : Found R a b) {x : α} {y : β}
    (ha : a = .ok x) (hb : b = .ok y) : R x y := by
  rw [ha, hb] at h
  cases h with
  | found related => exact related

end Found

/-- The likeness of sessions. -/
def likeness (catalog : Catalog) (apart : Option String) : Likeness Session where
  Like := Like catalog apart
  symm h := ⟨h.tables_eq.symm, fun name => (h.object name).symm fun _ _ => Object.Like.symm⟩
  trans h h' :=
    ⟨h.tables_eq.trans h'.tables_eq, fun name =>
      (h.object name).trans (h'.object name) fun _ _ _ => Object.Like.trans⟩

variable {apart : Option String} {s t : Session}

theorem Like.symm (h : Like catalog apart s t) : Like catalog apart t s :=
  Likeness.symm (likeness catalog apart) h

theorem Like.trans {u : Session} (h : Like catalog apart s t) (h' : Like catalog apart t u) :
    Like catalog apart s u :=
  Likeness.trans (likeness catalog apart) h h'

theorem Like.left (h : Like catalog apart s t) : Like catalog apart s s := h.trans h.symm

theorem Like.right (h : Like catalog apart s t) : Like catalog apart t t := h.symm.trans h

theorem like_empty (catalog : Catalog) (apart : Option String) : Like catalog apart {} {} where
  tables_eq := rfl
  object _ := .refused .noSuchObject

/-! ### What is found under a name -/

theorem Like.declaredTable (h : Like catalog apart s t) (name : String) :
    Found (fun a b => a = b ∧ catalog a.2.id = some a.2) (s.declaredTable name)
      (t.declaredTable name) := by
  refine (h.object name).bind fun o o' hlike => ?_
  cases hlike with
  | table known => exact .found ⟨rfl, known⟩
  | _ => exact .refused .noSuchObject

theorem Like.table (h : Like catalog apart s t) (name : String) :
    Found (fun a b => a = b ∧ catalog a.id = some a) (s.table name) (t.table name) := by
  refine (h.declaredTable name).map fun a b hab => ?_
  obtain ⟨rfl, known⟩ := hab
  exact ⟨rfl, known⟩

theorem Like.partner (h : Like catalog apart s t) (name : String) :
    Found (fun p p' => (Relationship.likenessAmong catalog).Like p.forward p'.forward ∧
      (Relationship.likenessAmong catalog).Like p.backward p'.backward)
      (s.partner name) (t.partner name) := by
  refine (h.object name).bind fun o o' hlike => ?_
  cases hlike with
  | partner forward backward => exact .found ⟨forward, backward⟩
  | _ => exact .refused .noSuchObject

theorem Like.junction (h : Like catalog apart s t) (name : String) :
    Found (fun x x' => (Relationship.likenessAmong catalog).Like x.left x'.left ∧
      (Relationship.likenessAmong catalog).Like x.right x'.right)
      (s.junction name) (t.junction name) := by
  refine (h.object name).bind fun o o' hlike => ?_
  cases hlike with
  | junction left right => exact .found ⟨left, right⟩
  | _ => exact .refused .noSuchObject

theorem Like.hierarchy (h : Like catalog apart s t) (name : String) :
    Found (fun x x' => (Relationship.likenessAmong catalog).Like x.parent x'.parent)
      (s.hierarchy name) (t.hierarchy name) := by
  refine (h.object name).bind fun o o' hlike => ?_
  cases hlike with
  | hierarchy parent => exact .found parent
  | _ => exact .refused .noSuchObject

theorem Like.relationship (h : Like catalog apart s t) (path : Path) :
    Found (Relationship.likenessAmong catalog).Like (s.relationship path) (t.relationship path) := by
  cases path with
  | object name =>
    refine (h.object name).bind fun o o' hlike => ?_
    cases hlike with
    | relationship like => exact .found like
    | _ => exact .refused .noSuchObject
  | forward name => exact (h.partner name).map fun _ _ hp => hp.1
  | backward name => exact (h.partner name).map fun _ _ hp => hp.2
  | left name => exact (h.junction name).map fun _ _ hx => hx.1
  | right name => exact (h.junction name).map fun _ _ hx => hx.2
  | parent name => exact (h.hierarchy name).map fun _ _ hh => hh

/-! ### What is put under a name -/

theorem object_put_self (s : Session) (name : String) (o : Object) :
    (s.put name o).object name = .ok o := by
  rw [object, put, lookup_place_self]

theorem object_put_of_ne {name other : String} (hne : other ≠ name) (s : Session) (o : Object) :
    (s.put name o).object other = s.object other := by
  rw [object, put, lookup_place_of_ne hne, object]

theorem Like.put (h : Like catalog apart s t) {name : String} {o o' : Object}
    (ho : o.Like catalog (apart = some name) o') :
    Like catalog apart (s.put name o) (t.put name o') where
  tables_eq := h.tables_eq
  object other := by
    by_cases hname : other = name
    · rw [hname, object_put_self, object_put_self]
      exact .found ho
    · rw [object_put_of_ne hname, object_put_of_ne hname]
      exact h.object other

/-- An object may be exchanged for a like one. -/
theorem Like.put_of_found (h : Like catalog apart s s) {name : String} {o o' : Object}
    (hfound : s.object name = .ok o) (ho : o.Like catalog (apart = some name) o') :
    Like catalog apart s (s.put name o') where
  tables_eq := rfl
  object other := by
    by_cases hname : other = name
    · rw [hname, object_put_self, hfound]
      exact .found ho
    · rw [object_put_of_ne hname]
      exact h.object other

/-! ### Relationships at a path -/

theorem exists_object_of_bind {α : Type} {name : String} {f : Object → Except Refusal α} {a : α}
    (h : (s.object name >>= f) = .ok a) : ∃ o, s.object name = .ok o ∧ f o = .ok a := by
  cases hobject : s.object name with
  | error refusal => rw [hobject] at h; contradiction
  | ok o => rw [hobject] at h; exact ⟨o, rfl, h⟩

theorem object_of_partner {name : String} {p : Partner Fields Fields}
    (h : s.partner name = .ok p) : s.object name = .ok (.partner p) := by
  obtain ⟨o, hobject, ho⟩ := exists_object_of_bind h
  cases o <;> first | contradiction | (cases ho; exact hobject)

theorem object_of_junction {name : String} {x : Junction Fields Fields Fields}
    (h : s.junction name = .ok x) : s.object name = .ok (.junction x) := by
  obtain ⟨o, hobject, ho⟩ := exists_object_of_bind h
  cases o <;> first | contradiction | (cases ho; exact hobject)

theorem object_of_hierarchy {name : String} {x : Hierarchy Fields}
    (h : s.hierarchy name = .ok x) : s.object name = .ok (.hierarchy x) := by
  obtain ⟨o, hobject, ho⟩ := exists_object_of_bind h
  cases o <;> first | contradiction | (cases ho; exact hobject)

theorem exists_of_map_eq_ok {α β : Type} {f : α → β} {a : Except Refusal α} {b : β}
    (h : f <$> a = .ok b) : ∃ x, a = .ok x ∧ f x = b := by
  cases a with
  | error refusal => contradiction
  | ok x => exact ⟨x, rfl, Except.ok.inj h⟩

/-- The relationship at a path may be exchanged for a like one. -/
theorem Like.putRelationship_of_found (h : Like catalog apart s s) {path : Path}
    {r r' : Relationship Fields Fields} (hfound : s.relationship path = .ok r)
    (hr : (Relationship.likenessAmong catalog).Like r r') :
    Like catalog apart s (s.putRelationship path r') := by
  cases path with
  | object name =>
    obtain ⟨o, hobject, ho⟩ := exists_object_of_bind hfound
    cases o with
    | relationship r₀ =>
      obtain rfl := Except.ok.inj ho
      exact h.put_of_found hobject (.relationship hr)
    | _ => contradiction
  | forward name =>
    obtain ⟨p, hp, rfl⟩ := exists_of_map_eq_ok hfound
    rw [putRelationship, hp]
    exact h.put_of_found (object_of_partner hp) (.partner hr ((h.partner name).related hp hp).2)
  | backward name =>
    obtain ⟨p, hp, rfl⟩ := exists_of_map_eq_ok hfound
    rw [putRelationship, hp]
    exact h.put_of_found (object_of_partner hp) (.partner ((h.partner name).related hp hp).1 hr)
  | left name =>
    obtain ⟨x, hx, rfl⟩ := exists_of_map_eq_ok hfound
    rw [putRelationship, hx]
    exact h.put_of_found (object_of_junction hx) (.junction hr ((h.junction name).related hx hx).2)
  | right name =>
    obtain ⟨x, hx, rfl⟩ := exists_of_map_eq_ok hfound
    rw [putRelationship, hx]
    exact h.put_of_found (object_of_junction hx) (.junction ((h.junction name).related hx hx).1 hr)
  | parent name =>
    obtain ⟨x, hx, rfl⟩ := exists_of_map_eq_ok hfound
    rw [putRelationship, hx]
    exact h.put_of_found (object_of_hierarchy hx) (.hierarchy hr)

end StaticTables.Session
