import Mathlib
import StaticTables.Proofs.Session.Likeness
import StaticTables.Session.Action

/-!
# Computations side by side

A computation is put to two like objects, side by side. What it looks up on the way may differ in
what is built, so the two sides go on as different computations. They agree when they give the same
result and leave like objects, and keep their objects when each leaves its own like it was.
-/
namespace StaticTables

/-! ## Computations over objects -/

namespace Traced

variable {σ α β : Type} {L : Likeness σ}

/-- Each side put to its object, both give the same result and leave like objects. -/
structure Agree (L : Likeness σ) (m : Traced σ α) (s : σ) (m' : Traced σ α) (t : σ) : Prop where
  result_eq : (m.run s).result = (m'.run t).result
  like_state : L.Like (m.run s).state (m'.run t).state

/-- The object is left like it was. -/
def Keeps (L : Likeness σ) (m : Traced σ α) (s : σ) : Prop := L.Like s (m.run s).state

/-- Each side put to its object, both give the same result and keep their objects. -/
structure Alike (L : Likeness σ) (m : Traced σ α) (s : σ) (m' : Traced σ α) (t : σ) : Prop where
  result_eq : (m.run s).result = (m'.run t).result
  left : m.Keeps L s
  right : m'.Keeps L t

variable {m m' : Traced σ α} {f f' : α → Traced σ β} {s t : σ}

theorem Alike.agree (h : Alike L m s m' t) (hst : L.Like s t) : Agree L m s m' t where
  result_eq := h.result_eq
  like_state := L.trans (L.symm h.left) (L.trans hst h.right)

theorem Agree.of_run {n n' : Traced σ α} (h : Agree L m s m' t) (hleft : n.run s = m.run s)
    (hright : n'.run t = m'.run t) : Agree L n s n' t where
  result_eq := by rw [hleft, hright, h.result_eq]
  like_state := by
    rw [hleft, hright]
    exact h.like_state

theorem Keeps.of_run {n : Traced σ α} (h : m.Keeps L s) (hrun : n.run s = m.run s) :
    n.Keeps L s := by
  unfold Keeps
  rw [hrun]
  exact h

theorem Alike.of_run {n n' : Traced σ α} (h : Alike L m s m' t) (hleft : n.run s = m.run s)
    (hright : n'.run t = m'.run t) : Alike L n s n' t where
  result_eq := by rw [hleft, hright, h.result_eq]
  left := h.left.of_run hleft
  right := h.right.of_run hright

theorem Stable.alike (h : m.Stable L) (hst : L.Like s t) : Alike L m s m t where
  result_eq := h.result_eq hst
  left := h.keeps (L.left hst)
  right := h.keeps (L.right hst)

theorem Stable.agree (h : m.Stable L) (hst : L.Like s t) : Agree L m s m t :=
  (h.alike hst).agree hst

theorem Keeps.bind (h : m.Keeps L s)
    (hf : ∀ a, (m.run s).result = .ok a → (f a).Keeps L (m.run s).state) : (m >>= f).Keeps L s := by
  unfold Keeps
  rw [run_bind]
  cases hresult : (m.run s).result with
  | error failure => exact h
  | ok a => exact L.trans h (hf a hresult)

theorem Agree.bind (h : Agree L m s m' t)
    (hf : ∀ a, (m.run s).result = .ok a → Agree L (f a) (m.run s).state (f' a) (m'.run t).state) :
    Agree L (m >>= f) s (m' >>= f') t := by
  have hresult := h.result_eq
  cases ha : (m.run s).result with
  | error failure =>
    have ha' := hresult.symm.trans ha
    constructor
    · rw [run_bind, run_bind, ha, ha']
    · rw [run_bind, run_bind, ha, ha']
      exact h.like_state
  | ok a =>
    have ha' := hresult.symm.trans ha
    constructor
    · rw [run_bind, run_bind, ha, ha']
      exact (hf a ha).result_eq
    · rw [run_bind, run_bind, ha, ha']
      exact (hf a ha).like_state

theorem Alike.bind (h : Alike L m s m' t)
    (hf : ∀ a, (m.run s).result = .ok a → Alike L (f a) (m.run s).state (f' a) (m'.run t).state) :
    Alike L (m >>= f) s (m' >>= f') t where
  result_eq := by
    rw [run_bind, run_bind, ← h.result_eq]
    cases ha : (m.run s).result with
    | error failure => rfl
    | ok a => exact (hf a ha).result_eq
  left := h.left.bind fun a ha => (hf a ha).left
  right := h.right.bind fun a ha => (hf a (h.result_eq.trans ha)).right

end Traced

/-! ## Commands under way -/

namespace Session.Action

variable {α β : Type}

section Side

variable {L : Likeness Session} {m m' : Action α} {f f' : α → Action β} {s t : Session}

/-- What follows goes on from what was found, or the refusal stands. -/
theorem keeps_bind (h : m.run.Keeps L s)
    (hf : ∀ a, (m.run.run s).result = .ok (.ok a) → (f a).run.Keeps L (m.run.run s).state) :
    (m >>= f).run.Keeps L s :=
  h.bind fun r hr =>
    match r with
    | .ok a => hf a hr
    | .error _ => L.right h

theorem agree_bind (h : Traced.Agree L m.run s m'.run t)
    (hf : ∀ a, (m.run.run s).result = .ok (.ok a) →
      Traced.Agree L (f a).run (m.run.run s).state (f' a).run (m'.run.run t).state) :
    Traced.Agree L (m >>= f).run s (m' >>= f').run t :=
  h.bind fun r hr =>
    match r with
    | .ok a => hf a hr
    | .error _ => ⟨rfl, h.like_state⟩

theorem alike_bind (h : Traced.Alike L m.run s m'.run t)
    (hf : ∀ a, (m.run.run s).result = .ok (.ok a) →
      Traced.Alike L (f a).run (m.run.run s).state (f' a).run (m'.run.run t).state) :
    Traced.Alike L (m >>= f).run s (m' >>= f').run t :=
  h.bind fun r hr =>
    match r with
    | .ok a => hf a hr
    | .error _ => ⟨rfl, L.right h.left, L.right h.right⟩

/-- What follows is the same on both sides. -/
theorem alike_bind_stable (hst : L.Like s t) (h : Traced.Alike L m.run s m'.run t)
    (hf : ∀ a, (f a).run.Stable L) : Traced.Alike L (m >>= f).run s (m' >>= f).run t :=
  alike_bind h fun a _ => (hf a).alike (h.agree hst).like_state

end Side

/-! ### Looking things up -/

/-- A step that finds the same in like sessions and changes nothing. -/
structure Reads (L : Likeness Session) (m : Action α) : Prop where
  result_eq : ∀ {s t}, L.Like s t → (m.run.run s).result = (m.run.run t).result
  state_eq : ∀ s, (m.run.run s).state = s

section Reads

variable {L : Likeness Session} {m : Action α} {s t : Session}

theorem Reads.stable (h : Reads L m) : m.run.Stable L where
  result_eq := h.result_eq
  keeps {s} hs := by
    rw [h.state_eq]
    exact hs

theorem Reads.alike_bind {f f' : α → Action β} (h : Reads L m) (hst : L.Like s t)
    (hf : ∀ a, (m.run.run s).result = .ok (.ok a) → Traced.Alike L (f a).run s (f' a).run t) :
    Traced.Alike L (m >>= f).run s (m >>= f').run t :=
  Action.alike_bind (h.stable.alike hst) fun a ha => by
    rw [h.state_eq, h.state_eq]
    exact hf a ha

theorem Reads.agree_bind {f f' : α → Action β} (h : Reads L m) (hst : L.Like s t)
    (hf : ∀ a, Traced.Agree L (f a).run s (f' a).run t) :
    Traced.Agree L (m >>= f).run s (m >>= f').run t :=
  Action.agree_bind ((h.stable.alike hst).agree hst) fun a _ => by
    rw [h.state_eq, h.state_eq]
    exact hf a

theorem Reads.keeps_bind {f : α → Action β} (h : Reads L m) (hs : L.Like s s)
    (hf : ∀ a, (f a).run.Keeps L s) : (m >>= f).run.Keeps L s :=
  Action.keeps_bind (h.stable.keeps hs) fun a _ => by
    rw [h.state_eq]
    exact hf a

theorem reads_of_run (r : Except Failure (Except Refusal α)) (log : List Event)
    (h : ∀ s, m.run.run s = { result := r, state := s, log := log }) : Reads L m where
  result_eq _ := by rw [h, h]
  state_eq s := by rw [h]

theorem reads_pure (a : α) : Reads L (pure a : Action α) :=
  reads_of_run (.ok (.ok a)) [] fun _ => rfl

theorem reads_throw (refusal : Refusal) : Reads L (throw refusal : Action α) :=
  reads_of_run (.ok (.error refusal)) [] fun _ => rfl

/-- A result that is known, or a failure. -/
theorem reads_result (r : Except Failure α) : Reads L (liftM r : Action α) :=
  reads_of_run (r.map .ok) [] fun _ => Traced.run_map ..

/-- A choice that is known, or a refusal. -/
theorem reads_choice (r : Except Refusal α) : Reads L (liftM r : Action α) :=
  reads_of_run (.ok r) [] fun _ => rfl

theorem reads_building (b : Build α) : Reads L (building b) :=
  reads_of_run ((b.run ()).result.map .ok) (b.run ()).log fun _ => Traced.run_map ..

theorem reads_look {ask : Session → Except Refusal α} (hask : ∀ {s t}, L.Like s t → ask s = ask t) :
    Reads L (look ask) where
  result_eq hst := congrArg Except.ok (hask hst)
  state_eq _ := rfl

theorem Reads.bind {f : α → Action β} (h : Reads L m) (hf : ∀ a, Reads L (f a)) :
    Reads L (m >>= f) where
  result_eq {s t} hst := by
    refine (h.alike_bind hst fun a _ => (hf a).stable.alike hst).result_eq
  state_eq s := by
    show ((m.run >>= fun r => ExceptT.bindCont f r).run s).state = s
    rw [Traced.state_bind_of_keeps, h.state_eq]
    intro r u
    cases r with
    | ok a => exact (hf a).state_eq u
    | error refusal => rfl

end Reads

section Look

variable {ask : Session → Except Refusal α} {f f' : α → Action β}

theorem run_look_bind_of_ok {u : Session} {a : α} (h : ask u = .ok a) :
    (look ask >>= f).run.run u = (f a).run.run u := by
  show ((ask <$> Traced.get : Traced Session (Except Refusal α)) >>= _).run u = _
  rw [Traced.run_bind, Traced.run_map, Traced.run_get]
  simp only [Except.map, h, List.nil_append]
  rfl

theorem run_look_bind_of_error {u : Session} {refusal : Refusal} (h : ask u = .error refusal) :
    (look ask >>= f).run.run u = (throw refusal : Action β).run.run u := by
  show ((ask <$> Traced.get : Traced Session (Except Refusal α)) >>= _).run u = _
  rw [Traced.run_bind, Traced.run_map, Traced.run_get]
  simp only [Except.map, h, List.nil_append]
  rfl

variable {L : Likeness Session} {s t : Session}

/-- What is found may differ from side to side, and each goes on with its own. -/
theorem alike_look_bind {R : α → α → Prop} (hst : L.Like s t) (hfound : Found R (ask s) (ask t))
    (hf : ∀ a a', ask s = .ok a → ask t = .ok a' → R a a' →
      Traced.Alike L (f a).run s (f' a').run t) :
    Traced.Alike L (look ask >>= f).run s (look ask >>= f').run t := by
  rcases hfound.sides with ⟨a, a', hs, ht, hR⟩ | ⟨refusal, hs, ht⟩
  · exact (hf a a' hs ht hR).of_run (run_look_bind_of_ok hs) (run_look_bind_of_ok ht)
  · exact ((reads_throw refusal).stable.alike hst).of_run (run_look_bind_of_error hs)
      (run_look_bind_of_error ht)

theorem agree_look_bind {R : α → α → Prop} (hst : L.Like s t) (hfound : Found R (ask s) (ask t))
    (hf : ∀ a a', R a a' → Traced.Agree L (f a).run s (f' a').run t) :
    Traced.Agree L (look ask >>= f).run s (look ask >>= f').run t := by
  rcases hfound.sides with ⟨a, a', hs, ht, hR⟩ | ⟨refusal, hs, ht⟩
  · exact (hf a a' hR).of_run (run_look_bind_of_ok hs) (run_look_bind_of_ok ht)
  · exact ((reads_throw refusal).stable.agree hst).of_run (run_look_bind_of_error hs)
      (run_look_bind_of_error ht)

theorem keeps_look_bind (hs : L.Like s s) (hf : ∀ a, ask s = .ok a → (f a).run.Keeps L s) :
    (look ask >>= f).run.Keeps L s := by
  cases ha : ask s with
  | ok a => exact (hf a ha).of_run (run_look_bind_of_ok ha)
  | error refusal =>
    exact ((reads_throw refusal).stable.alike hs).left.of_run (run_look_bind_of_error ha)

end Look

/-! ### Tables and records -/

section Tables

variable {catalog : Catalog} {apart : Option String} {s t : Session} {f f' : Table Fields → Action β}

theorem reads_declaredTable (name : String) :
    Reads (likeness catalog apart) (look fun s => s.declaredTable name) :=
  reads_look fun {s t} hst => by
    rcases (Like.declaredTable hst name).sides with ⟨a, a', hs, ht, rfl, -⟩ | ⟨refusal, hs, ht⟩
    · rw [hs, ht]
    · rw [hs, ht]

theorem reads_table (name : String) : Reads (likeness catalog apart) (table name) :=
  reads_look fun {s t} hst => by
    rcases (Like.table hst name).sides with ⟨a, a', hs, ht, rfl, -⟩ | ⟨refusal, hs, ht⟩
    · rw [hs, ht]
    · rw [hs, ht]

theorem reads_mapM_table (name : Option String) :
    Reads (likeness catalog apart) (name.mapM table) := by
  cases name with
  | none => exact reads_pure none
  | some name => exact (reads_table name).bind fun t => reads_pure (some t)

theorem reads_record (r : RecordAt) : Reads (likeness catalog apart) (record r) :=
  (reads_table r.table).bind fun t => reads_result (t.row r.row)

/-- A table that is found is one of the catalog. -/
theorem alike_table_bind {name : String} (hst : Like catalog apart s t)
    (hf : ∀ a, catalog a.id = some a →
      Traced.Alike (likeness catalog apart) (f a).run s (f' a).run t) :
    Traced.Alike (likeness catalog apart) (table name >>= f).run s (table name >>= f').run t :=
  alike_look_bind hst (hst.table name) fun a a' _ _ h => by
    obtain ⟨rfl, known⟩ := h
    exact hf a known

end Tables

/-! ### Computations over an object of the session -/

section Within

variable {τ : Type} {M : Likeness τ} {m : Traced τ α} {put : Session → τ → Session} {x x' : τ}

theorem run_within (x : τ) (put : Session → τ → Session) (m : Traced τ α) (s : Session) :
    (within x put m).run.run s =
      { result := (m.run x).result.map .ok, state := put s (m.run x).state,
        log := (m.run x).log } :=
  Traced.run_map ..

/-- Like objects are put to the same computation, and what becomes of each may be put back. -/
theorem alike_within {L : Likeness Session} {s t : Session} (hm : m.Stable M) (hx : M.Like x x')
    (hs : ∀ y, M.Like x y → L.Like s (put s y)) (ht : ∀ y, M.Like x' y → L.Like t (put t y)) :
    Traced.Alike L (within x put m).run s (within x' put m).run t where
  result_eq := by rw [run_within, run_within, hm.result_eq hx]
  left := by
    unfold Traced.Keeps
    rw [run_within]
    exact hs _ (hm.keeps (M.left hx))
  right := by
    unfold Traced.Keeps
    rw [run_within]
    exact ht _ (hm.keeps (M.right hx))

/-- An object of one kind may be exchanged for a like one under its name. -/
theorem alike_onNamed {catalog : Catalog} {apart : Option String} {s t : Session} {name : String}
    {kind : τ → Object} (hst : Like catalog apart s t) (hm : m.Stable M) (hx : M.Like x x')
    (hs : s.object name = .ok (kind x)) (ht : t.object name = .ok (kind x'))
    (hkind : ∀ {y y'}, M.Like y y' → (kind y).Like catalog (apart = some name) (kind y')) :
    Traced.Alike (likeness catalog apart) (within x (fun s y => s.put name (kind y)) m).run s
      (within x' (fun s y => s.put name (kind y)) m).run t :=
  alike_within hm hx
    (fun _ hy => hst.left.put_of_found hs (hkind hy))
    (fun _ hy => hst.right.put_of_found ht (hkind hy))

theorem alike_onRelationship {catalog : Catalog} {apart : Option String} {s t : Session}
    {path : Path} {r r' : Relationship Fields Fields} {m : Traced (Relationship Fields Fields) α}
    (hst : Like catalog apart s t) (hs : s.relationship path = .ok r)
    (ht : t.relationship path = .ok r') (hm : m.Stable (Relationship.likenessAmong catalog)) :
    Traced.Alike (likeness catalog apart) (onRelationship path r m).run s
      (onRelationship path r' m).run t :=
  alike_within hm ((hst.relationship path).related hs ht)
    (fun _ => hst.left.putRelationship_of_found hs)
    (fun _ => hst.right.putRelationship_of_found ht)

end Within

end Session.Action

end StaticTables
