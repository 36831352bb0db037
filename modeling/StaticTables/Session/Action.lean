import StaticTables.Session.Reply

/-!
Commands under way. A command looks names up and computes in turn: whatever it built before a name
turned out to stand for nothing stays built, and stays in the log.
-/
namespace StaticTables.Session

/-- A computation over a session that may also find that it cannot be carried out. -/
abbrev Action (α : Type) : Type := ExceptT Refusal (Traced Session) α

namespace Action

variable {α : Type}

instance : MonadLift (Except Refusal) Action := ⟨fun r => ExceptT.mk (pure r)⟩

/-- What the session has to say as it is now. -/
def look (f : Session → Except Refusal α) : Action α := ExceptT.mk (f <$> Traced.get)

/-- The object of a name. -/
def object (name : String) : Action Object := look fun s => s.object name

/-- The table of a name. -/
def table (name : String) : Action (Table Fields) := look fun s => s.table name

/-- Reads a record. -/
def record (r : RecordAt) : Action (Record Fields) := do
  let t ← table r.table
  t.row r.row

/-- Runs a construction, which changes no object of the session. -/
def building (m : Build α) : Action α := ExceptT.lift (Traced.building m)

/-- Runs a computation over an object that was looked up, and puts back what becomes of it. -/
def within {τ : Type} (t : τ) (put : Session → τ → Session) (m : Traced τ α) : Action α :=
  ExceptT.lift (Traced.within (fun _ => t) put m)

/-- Runs a computation over the relationship at a path. -/
def onRelationship (path : Path) (r : Relationship Fields Fields)
    (m : Traced (Relationship Fields Fields) α) : Action α :=
  within r (fun s r => s.putRelationship path r) m

end Action

end StaticTables.Session
