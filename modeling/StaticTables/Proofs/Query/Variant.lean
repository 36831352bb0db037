import Mathlib
import StaticTables.Proofs.Link.VariantConstruction
import StaticTables.Proofs.Query.Interface

/-!
# Queries to variant columns

Variant columns of a table are alike when they differ at most in whether the index is built. A value
with an undeclared tag is answered without the index, every other query about rows builds it.
-/
namespace StaticTables.VariantColumn

variable {S τ : Type}

/-- What a variant column can be asked with its table, its structural text apart. -/
inductive Query (S τ : Type) where
  | name
  | source
  | isOptional
  | valueOf (record : Record S)
  | holding (v : VariantValue τ)
  | tagged (tag : τ)
  | countTagged (tag : τ)
  | vacant

def Query.Answer : Query S τ → Type
  | name => String
  | source => TableId
  | isOptional => Bool
  | valueOf _ => Option (VariantValue τ)
  | holding _ | tagged _ | vacant => Rows S
  | countTagged _ => Nat

variable [DecidableEq τ]

/-- What a variant column over a table can be asked. -/
def interface (source : Table S) : Interface (VariantColumn S τ) where
  Query := Query S τ
  Answer := Query.Answer
  ask
    | .name => Traced.look fun c => .ok c.name
    | .source => Traced.look fun c => .ok c.source
    | .isOptional => Traced.look fun c => .ok c.isOptional
    | .valueOf record => Traced.look fun c => .ok (c.valueOf record)
    | .holding v => holding source v
    | .tagged tag => tagged source tag
    | .countTagged tag => countTagged source tag
    | .vacant => Traced.look fun c => .ok (c.vacant source)

/-- Like columns agree in all but the index, and asked for it with the table they give the same one.
-/
structure Indistinct (L : Likeness (VariantColumn S τ)) (source : Table S) : Prop where
  eq_of_like : ∀ {c c'}, L.Like c c' → c' = { c with built := c'.built }
  stable_index : (index source).Stable L

section Stable

variable {L : Likeness (VariantColumn S τ)} {source : Table S}

theorem Indistinct.stable_get_bind (h : Indistinct L source) {α : Type}
    {f : VariantColumn S τ → Traced (VariantColumn S τ) α} (hstable : ∀ c, (f c).Stable L)
    (hf : ∀ c i, f { c with built := i } = f c) : (Traced.get >>= f).Stable L :=
  Traced.stable_get_bind hstable fun hlike => by
    rw [h.eq_of_like hlike]
    exact (hf _ _).symm

theorem Indistinct.stable_look (h : Indistinct L source) {α : Type}
    {f : VariantColumn S τ → Except Failure α} (hf : ∀ c i, f { c with built := i } = f c) :
    (Traced.look f).Stable L :=
  Traced.stable_look fun hlike => by
    rw [h.eq_of_like hlike]
    exact (hf _ _).symm

theorem Indistinct.stable_ask (h : Indistinct L source) (q : Query S τ) :
    ((interface source).ask q).Stable L := by
  cases q with
  | holding v =>
    refine h.stable_get_bind (fun c => ?_) fun _ _ => rfl
    split
    · exact Traced.stable_pure _
    · exact h.stable_index.bind fun _ => Traced.stable_building _
  | tagged tag =>
    refine h.stable_get_bind (fun c => ?_) fun _ _ => rfl
    split
    · exact Traced.stable_pure _
    · exact h.stable_index.bind fun _ => Traced.stable_building _
  | countTagged tag =>
    refine h.stable_get_bind (fun c => ?_) fun _ _ => rfl
    split
    · exact Traced.stable_pure _
    · exact h.stable_index.bind fun _ => Traced.stable_pure _
  | _ => exact h.stable_look fun _ _ => rfl

/-- Columns of a table are alike when they are the same once their index is built. -/
def likeness (source : Table S) : Likeness (VariantColumn S τ) :=
  .upTo (·.Sourced source) (·.indexed source)

theorem indistinct (source : Table S) : Indistinct (likeness (τ := τ) source) source where
  eq_of_like {c c'} hlike := by
    obtain ⟨-, -, hindexed⟩ := hlike
    simp only [VariantColumn.indexed, mk.injEq] at hindexed
    obtain ⟨hname, hsource, hoptionality, htags, hvalue, -⟩ := hindexed
    rw [hname, hsource, hoptionality, htags, hvalue]
  stable_index :=
    { result_eq := fun {c c'} hlike => by
        obtain ⟨hsourced, hsourced', hindexed⟩ := hlike
        have htags : c.tags = c'.tags := (congrArg VariantColumn.tags hindexed :)
        have hvalue : c.value = c'.value := (congrArg VariantColumn.value hindexed :)
        rw [hsourced.run_index.1, hsourced'.run_index.1, htags, hvalue]
      keeps := fun hlike => by
        rw [hlike.1.run_index.2]
        exact ⟨hlike.1, hlike.1.indexed, rfl⟩ }

theorem stable_ask (source : Table S) (q : Query S τ) :
    ((interface source).ask q).Stable (likeness source) :=
  (indistinct source).stable_ask q

end Stable

end StaticTables.VariantColumn
