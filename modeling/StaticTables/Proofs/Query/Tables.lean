import Mathlib
import StaticTables.Proofs.Query.Hierarchy
import StaticTables.Proofs.Query.Variant

/-!
# Objects among many tables

An object can be asked with any table. Where no two tables share an identity, a table with the
identity of the one that an object was built over is that table, and every other one is turned away
before anything has changed. So an index that is built on the way, even by a query that fails later
on, is the one that any later query would build.
-/
namespace StaticTables

/-! ## Relationships -/

namespace Relationship

variable {S T : Type} {tables : TableId → Option (Table S)} {table : Table S}

/-- The source table is among the tables, and the reverse index is of that table if it is built. -/
def KnownAmong (tables : TableId → Option (Table S)) (r : Relationship S T) : Prop :=
  ∃ source, tables r.source = some source ∧ r.Sourced source

/-- The relationship before its index is built. -/
def unbuilt (r : Relationship S T) : Relationship S T := { r with built := none }

/-- Relationships among some tables are alike when they are the same before their index is built. -/
def likenessAmong (tables : TableId → Option (Table S)) : Likeness (Relationship S T) :=
  .upTo (·.KnownAmong tables) unbuilt

theorem eq_of_likeAmong {r r' : Relationship S T} (h : (likenessAmong tables).Like r r') :
    r' = { r with built := r'.built } := by
  obtain ⟨-, -, hunbuilt⟩ := h
  simp only [unbuilt, mk.injEq] at hunbuilt
  obtain ⟨hdeclaration, hsource, htarget, hreference, -⟩ := hunbuilt
  rw [hdeclaration, hsource, htarget, hreference]

/-- The one table with the identity of the source is the source. -/
theorem KnownAmong.sourced {r : Relationship S T} (h : r.KnownAmong tables)
    (htable : tables table.id = some table) (hsource : r.source = table.id) : r.Sourced table := by
  obtain ⟨source, hknown, hsourced⟩ := h
  rw [hsource, htable] at hknown
  obtain rfl := Option.some.inj hknown
  exact hsourced

theorem run_index_of_ne {r : Relationship S T} (hsource : r.source ≠ table.id) :
    (index table).run r =
      { result := .error (.fault (.wrongTable (.source r.name) r.source table.id)), state := r,
        log := [] } := by
  have hdemand : table.demand (.source r.name) r.source =
      .error (.fault (.wrongTable (.source r.name) r.source table.id)) := if_neg hsource
  simp [index, Traced.run_bind, hdemand]

theorem indistinctAmong (htable : tables table.id = some table) :
    Indistinct (likenessAmong (T := T) tables) table where
  eq_of_like := eq_of_likeAmong
  stable_index :=
    { result_eq := fun {r r'} hlike => by
        have heq := eq_of_likeAmong hlike
        have hsame : r'.source = r.source := (congrArg source hlike.2.2).symm
        by_cases hsource : r.source = table.id
        · have hsourced := hlike.1.sourced htable hsource
          have hsourced' := hlike.2.1.sourced htable (hsame.trans hsource)
          rw [hsourced.run_index.1, hsourced'.run_index.1, heq]
        · rw [run_index_of_ne hsource, run_index_of_ne (hsame ▸ hsource), heq]
          rfl
      keeps := fun {r} hlike => by
        by_cases hsource : r.source = table.id
        · have hsourced := hlike.1.sourced htable hsource
          rw [hsourced.run_index.2]
          exact ⟨hlike.1, ⟨table, hsource ▸ htable, hsourced.indexed⟩, rfl⟩
        · rw [run_index_of_ne hsource]
          exact hlike }

end Relationship

/-! ## Variant columns -/

namespace VariantColumn

variable {S τ : Type} [DecidableEq τ] {tables : TableId → Option (Table S)} {table : Table S}

/-- The table of the column is among the tables, and the index is of that table if it is built. -/
def KnownAmong (tables : TableId → Option (Table S)) (c : VariantColumn S τ) : Prop :=
  ∃ source, tables c.source = some source ∧ c.Sourced source

omit [DecidableEq τ] in
/-- The column before its index is built. -/
def unbuilt (c : VariantColumn S τ) : VariantColumn S τ := { c with built := none }

/-- Columns among some tables are alike when they are the same before their index is built. -/
def likenessAmong (tables : TableId → Option (Table S)) : Likeness (VariantColumn S τ) :=
  .upTo (·.KnownAmong tables) unbuilt

theorem eq_of_likeAmong {c c' : VariantColumn S τ} (h : (likenessAmong tables).Like c c') :
    c' = { c with built := c'.built } := by
  obtain ⟨-, -, hunbuilt⟩ := h
  simp only [unbuilt, mk.injEq] at hunbuilt
  obtain ⟨hname, hsource, hoptionality, htags, hvalue, -⟩ := hunbuilt
  rw [hname, hsource, hoptionality, htags, hvalue]

/-- The one table with the identity of the column's is the column's. -/
theorem KnownAmong.sourced {c : VariantColumn S τ} (h : c.KnownAmong tables)
    (htable : tables table.id = some table) (hsource : c.source = table.id) : c.Sourced table := by
  obtain ⟨source, hknown, hsourced⟩ := h
  rw [hsource, htable] at hknown
  obtain rfl := Option.some.inj hknown
  exact hsourced

theorem run_index_of_ne {c : VariantColumn S τ} (hsource : c.source ≠ table.id) :
    (index table).run c =
      { result := .error (.fault (.wrongTable (.source c.name) c.source table.id)), state := c,
        log := [] } := by
  have hdemand : table.demand (.source c.name) c.source =
      .error (.fault (.wrongTable (.source c.name) c.source table.id)) := if_neg hsource
  simp [index, Traced.run_bind, hdemand]

theorem indistinctAmong (htable : tables table.id = some table) :
    Indistinct (likenessAmong (τ := τ) tables) table where
  eq_of_like := eq_of_likeAmong
  stable_index :=
    { result_eq := fun {c c'} hlike => by
        have heq := eq_of_likeAmong hlike
        have hsame : c'.source = c.source := (congrArg source hlike.2.2).symm
        by_cases hsource : c.source = table.id
        · have hsourced := hlike.1.sourced htable hsource
          have hsourced' := hlike.2.1.sourced htable (hsame.trans hsource)
          rw [hsourced.run_index.1, hsourced'.run_index.1, heq]
        · rw [run_index_of_ne hsource, run_index_of_ne (hsame ▸ hsource), heq]
      keeps := fun {c} hlike => by
        by_cases hsource : c.source = table.id
        · have hsourced := hlike.1.sourced htable hsource
          rw [hsourced.run_index.2]
          exact ⟨hlike.1, ⟨table, hsource ▸ htable, hsourced.indexed⟩, rfl⟩
        · rw [run_index_of_ne hsource]
          exact hlike }

end VariantColumn

end StaticTables
