import StaticTables.Declaration
import StaticTables.Index.Lazy
import StaticTables.Link.Verdict

/-!
Columns whose values point into one of several tables: a tag says which one, a row says where in it.
Only the tags that the column declares may occur, and each comes with the number of rows of its
table. The column is indexed by the place of the tag among the declared ones and then by row, so the
values with one tag are a range of keys.
-/
namespace StaticTables

/-- A value of a variant column. -/
structure VariantValue (τ : Type) where
  /-- Which table is pointed into. -/
  tag : τ
  /-- The row within that table. -/
  row : RowId
deriving DecidableEq

/-- A table that a variant column may point into. -/
structure Candidate (τ : Type) where
  tag : τ
  length : Nat

/-- The key of a value: the place of its tag among the declared ones, and its row. A place is any
natural number. That it also has to fit into 32 bits is left out, since no list of tags is so long
that it would not. -/
abbrev VariantKey : Type := Nat × RowId

/-- A checked variant column of records `S` with tags `τ`. -/
structure VariantColumn (S τ : Type) where
  name : String
  /-- The identity of the table that holds the column. -/
  source : TableId
  /-- Whether a record may hold no value. -/
  optionality : Optionality
  tags : List τ
  /-- The value that a record holds. -/
  value : S → Option (VariantValue τ)
  /-- The index of the column, once it is built. -/
  built : Option (Index VariantKey) := none

namespace VariantColumn

variable {S τ : Type} [DecidableEq τ]

/-- The key of a value, if its tag is declared. -/
def keyOf (tags : List τ) (v : VariantValue τ) : Option VariantKey :=
  (tags.idxOf? v.tag).map (·, v.row)

/-- The key of a record, if it holds a value with a declared tag. -/
def columnKey (tags : List τ) (value : S → Option (VariantValue τ)) (s : S) : Option VariantKey :=
  value s >>= keyOf tags

/-- Refuses a value that is absent without leave, has an undeclared tag, or points past the end of
its table, looked at in this order. -/
def checkValue (name : String) (optionality : Optionality) (candidates : List (Candidate τ))
    (describe : τ → String) (row : RowId) : Option (VariantValue τ) → Except Failure Unit
  | none => if optionality = .optional then .ok () else refuse (.missingVariant name row)
  | some v =>
    match candidates.find? (·.tag = v.tag) with
    | none => refuse (.unknownVariant name row (describe v.tag))
    | some candidate =>
      if candidate.length ≤ v.row.index then
        refuse (.danglingReference name row (describe v.tag) v.row.index candidate.length)
      else .ok ()

/-- Refuses the first record whose value does not pass. -/
def check (name : String) (optionality : Optionality) (candidates : List (Candidate τ))
    (describe : τ → String) (source : Table S) (value : S → Option (VariantValue τ)) :
    Except Failure Unit :=
  source.records.forM fun r =>
    checkValue name optionality candidates describe r.row (value r.value)

/-- The index as a lazy index. -/
def lazyIndex (c : VariantColumn S τ) : LazyIndex S VariantKey :=
  { column := columnKey c.tags c.value, built := c.built }

/-- The column with another state of its index. -/
def withLazyIndex (c : VariantColumn S τ) (l : LazyIndex S VariantKey) : VariantColumn S τ :=
  { c with built := l.built }

/-- Builds a variant column, checking its values against the candidate tables. -/
def build (settings : Settings) (name : String) (optionality : Optionality)
    (candidates : List (Candidate τ)) (describe : τ → String) (source : Table S)
    (value : S → Option (VariantValue τ)) : Build (VariantColumn S τ) := do
  settings.validation.enforce .variant
    (locate source.name name "variant.build"
      (check name optionality candidates describe source value))
  let tags := candidates.map Candidate.tag
  let unbuilt : LazyIndex S VariantKey := { column := columnKey tags value }
  let index ←
    if settings.eager then Traced.settle (LazyIndex.force source) unbuilt else pure unbuilt
  Traced.emit (.variantBuild name source.name candidates.length optionality)
  return { name, source := source.id, optionality, tags, value, built := index.built }

omit [DecidableEq τ] in
/-- Whether a record may hold no value. -/
def isOptional (c : VariantColumn S τ) : Bool := c.optionality = .optional

omit [DecidableEq τ] in
/-- The value that a record holds. -/
def valueOf (c : VariantColumn S τ) (record : Record S) : Option (VariantValue τ) :=
  c.value record.value

/-- The index of the column. -/
def index (source : Table S) : Traced (VariantColumn S τ) (Index VariantKey) := do
  let c ← Traced.get
  source.demand (.source c.name) c.source
  Traced.within lazyIndex withLazyIndex (LazyIndex.get source)

/-- The rows that hold a value, in table order. -/
def holding (source : Table S) (v : VariantValue τ) :
    Traced (VariantColumn S τ) (Rows S) := do
  let c ← Traced.get
  match keyOf c.tags v with
  | none => return Rows.empty source
  | some key =>
    let i ← index source
    Traced.building (i.find source key)

/-- The rows whose value has a tag, in table order. -/
def tagged (source : Table S) (tag : τ) : Traced (VariantColumn S τ) (Rows S) := do
  let c ← Traced.get
  match c.tags.idxOf? tag with
  | none => return Rows.empty source
  | some place =>
    let i ← index source
    Traced.building (i.range source (place, RowId.first) (place, RowId.last))

/-- The number of rows whose value has a tag. -/
def countTagged (source : Table S) (tag : τ) : Traced (VariantColumn S τ) Nat := do
  let c ← Traced.get
  match c.tags.idxOf? tag with
  | none => return 0
  | some place =>
    let i ← index source
    return i.countRange (place, RowId.first) (place, RowId.last)

omit [DecidableEq τ] in
/-- The rows that hold no value, in table order. -/
def vacant (c : VariantColumn S τ) (source : Table S) : Rows S :=
  Rows.ofList source ((source.records.filter fun r => (c.valueOf r).isNone).map Record.row)

def inspect (c : VariantColumn S τ) : String :=
  Text.inspectSome "VariantColumn"
    [("name", Text.quote c.name), ("source", c.source.inspect),
      ("optionality", c.optionality.name), ("index", c.lazyIndex.inspect)]

end VariantColumn

end StaticTables
