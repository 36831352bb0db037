import StaticTables.Session.Object

/-!
A session: objects by name. Names are shared by objects of every kind, and a name that is given
again stands for the newer object.
-/
namespace StaticTables

/-- A relationship by its name, or as a part of a named object. -/
inductive Session.Path where
  | object (name : String)
  | forward (partner : String)
  | backward (partner : String)
  | left (junction : String)
  | right (junction : String)
  | parent (hierarchy : String)

/-- Objects by name. -/
structure Session where
  /-- The objects, each name once. -/
  objects : List (String × Session.Object) := []
  /-- How many tables have been made, so that each has an origin of its own. -/
  tables : Nat := 0

namespace Session

/-- Why a command is not carried out at all. -/
inductive Refusal where
  /-- It names an object that does not exist, or one of another kind. -/
  | noSuchObject
  /-- It does not fit the objects that it names. -/
  | unfit
deriving DecidableEq

/-- Puts an object under a name, in place of an older one. -/
def place (name : String) (o : Object) : List (String × Object) → List (String × Object)
  | [] => [(name, o)]
  | (n, old) :: rest => if n = name then (n, o) :: rest else (n, old) :: place name o rest

/-- The session with an object under a name. -/
def put (s : Session) (name : String) (o : Object) : Session :=
  { s with objects := place name o s.objects }

/-- The object of a name. -/
def object (s : Session) (name : String) : Except Refusal Object :=
  match s.objects.lookup name with
  | some o => .ok o
  | none => .error .noSuchObject

/-- The table of a name with its declared columns. -/
def declaredTable (s : Session) (name : String) :
    Except Refusal (List (String × ColumnType) × Table Fields) := do
  match ← s.object name with
  | .table columns t => return (columns, t)
  | _ => throw .noSuchObject

/-- The table of a name. -/
def table (s : Session) (name : String) : Except Refusal (Table Fields) :=
  Prod.snd <$> s.declaredTable name

/-- The pair of a name. -/
def partner (s : Session) (name : String) : Except Refusal (Partner Fields Fields) := do
  match ← s.object name with
  | .partner p => return p
  | _ => throw .noSuchObject

/-- The junction of a name. -/
def junction (s : Session) (name : String) :
    Except Refusal (Junction Fields Fields Fields) := do
  match ← s.object name with
  | .junction x => return x
  | _ => throw .noSuchObject

/-- The hierarchy of a name. -/
def hierarchy (s : Session) (name : String) : Except Refusal (Hierarchy Fields) := do
  match ← s.object name with
  | .hierarchy h => return h
  | _ => throw .noSuchObject

/-- The relationship at a path. -/
def relationship (s : Session) : Path → Except Refusal (Relationship Fields Fields)
  | .object name => do
    match ← s.object name with
    | .relationship r => return r
    | _ => throw .noSuchObject
  | .forward name => Partner.forward <$> s.partner name
  | .backward name => Partner.backward <$> s.partner name
  | .left name => Junction.left <$> s.junction name
  | .right name => Junction.right <$> s.junction name
  | .parent name => Hierarchy.parent <$> s.hierarchy name

/-- The session with another state of the relationship at a path. -/
def putRelationship (s : Session) (path : Path) (r : Relationship Fields Fields) : Session :=
  match path with
  | .object name => s.put name (.relationship r)
  | .forward name =>
    match s.partner name with
    | .ok p => s.put name (.partner (p.withForward r))
    | .error _ => s
  | .backward name =>
    match s.partner name with
    | .ok p => s.put name (.partner (p.withBackward r))
    | .error _ => s
  | .left name =>
    match s.junction name with
    | .ok x => s.put name (.junction (x.withLeft r))
    | .error _ => s
  | .right name =>
    match s.junction name with
    | .ok x => s.put name (.junction (x.withRight r))
    | .error _ => s
  | .parent name =>
    match s.hierarchy name with
    | .ok h => s.put name (.hierarchy (h.withParent r))
    | .error _ => s

/-- The label with a text among all that exist. -/
def findLabel (labels : List NamedLabel) (text : String) : Except Refusal NamedLabel :=
  match labels.find? fun l => l.text = text with
  | some l => .ok l
  | none => .error .unfit

@[simp] theorem lookup_place_self (name : String) (o : Object) (l : List (String × Object)) :
    (place name o l).lookup name = some o := by
  induction l with
  | nil => simp [place]
  | cons head rest ih =>
    obtain ⟨n, old⟩ := head
    by_cases h : n = name
    · simp [place, h]
    · have h' : (name == n) = false := by simpa using Ne.symm h
      simp [place, h, List.lookup_cons, h', ih]

theorem lookup_place_of_ne {name other : String} (h : other ≠ name) (o : Object)
    (l : List (String × Object)) : (place name o l).lookup other = l.lookup other := by
  induction l with
  | nil =>
    have h' : (other == name) = false := by simpa using h
    simp [place, List.lookup_cons, h']
  | cons head rest ih =>
    obtain ⟨n, old⟩ := head
    by_cases hn : n = name
    · have h' : (other == name) = false := by simpa using h
      simp [place, hn, List.lookup_cons, h']
    · simp [place, hn, List.lookup_cons, ih]

end Session

end StaticTables
