import StaticTables.Declaration
import StaticTables.Identity
import StaticTables.Json.Parser
import StaticTables.Json.Printer
import StaticTables.Settings

/-!
JSON forms of identities, settings and declarations. An identity is a bare number, a setting its
name, and a record of several fields an object. Readers are wider than writers: the fields of an
object may come in any order and among others, an array of exactly the fields in order is taken as
well, and a setting may stand as the only member of an object, with the value null.
-/
namespace StaticTables

/-- Values with a JSON form. -/
class Exchange (α : Type) where
  /-- The form in which a value is written. -/
  encode : α → Json
  /-- The value that a form stands for. -/
  decode : Json → Option α

namespace Exchange

variable {α : Type}

/-- The text of a value. -/
def write [Exchange α] (a : α) : String := (encode a).render

/-- The value that a text stands for. -/
def read [Exchange α] (s : String) : Option α := Json.parse s >>= decode

/-- The text of every name; nothing if one of them denotes none. -/
def namedMembers (l : List (Json.Literal × Json)) : Option (List (String × Json)) :=
  l.mapM fun m => m.1.map (·, m.2)

/-- The value of the only member with this name. -/
def onlyMember (members : List (String × Json)) (name : String) : Option Json :=
  match members.filter fun m => m.1 = name with
  | [m] => some m.2
  | _ => none

/-- The values of the named fields, in the order of the names. -/
def fields (names : List String) : Json → Option (List Json)
  | .object l => do names.mapM (onlyMember (← namedMembers l))
  | .array items => if items.length = names.length then some items else none
  | _ => none

/-- The name of a setting, written bare or as the only member of an object. -/
def settingName : Json → Option String
  | .string s => s
  | .object [(s, .null)] => s
  | _ => none

/-- The one of the values that has this name. -/
def named (values : List α) (name : α → String) (v : Json) : Option α := do
  let s ← settingName v
  values.find? fun a => name a = s

instance : Exchange TableId where
  encode t := .ofNat t.value
  decode v := v.nat? >>= TableId.ofNat?

instance : Exchange RowId where
  encode r := .ofNat r.index
  decode v := v.nat? >>= RowId.ofIndex?

instance : Exchange RowAddr where
  encode a := .ofMembers [("table", encode a.table), ("row", encode a.row)]
  decode v := do
    match ← fields ["table", "row"] v with
    | [table, row] => return { table := ← decode table, row := ← decode row }
    | _ => none

instance : Exchange (Ref α) where
  encode r := .ofMembers [("row", encode r.row)]
  decode v := do
    match ← fields ["row"] v with
    | [row] => return { row := ← decode row }
    | _ => none

instance : Exchange Bool where
  encode := .bool
  decode := Json.bool?

instance : Exchange String where
  encode := .text
  decode := Json.text?

instance : Exchange Validation where
  encode v := .text v.name
  decode := named [.strict, .trusted] Validation.name

instance : Exchange Cardinality where
  encode c := .text c.name
  decode := named [.oneToOne, .manyToOne] Cardinality.name

instance : Exchange Optionality where
  encode o := .text o.name
  decode := named [.required, .optional] Optionality.name

instance : Exchange Settings where
  encode c :=
    .ofMembers [("validation", encode c.validation), ("eager_indexes", encode c.eager)]
  decode v := do
    match ← fields ["validation", "eager_indexes"] v with
    | [validation, eager] =>
      return { validation := ← decode validation, eager := ← decode eager }
    | _ => none

instance : Exchange Declaration where
  encode s :=
    .ofMembers [("name", encode s.name), ("cardinality", encode s.cardinality),
      ("optionality", encode s.optionality)]
  decode v := do
    match ← fields ["name", "cardinality", "optionality"] v with
    | [name, cardinality, optionality] =>
      return { name := ← decode name, cardinality := ← decode cardinality,
               optionality := ← decode optionality }
    | _ => none

end Exchange

end StaticTables
