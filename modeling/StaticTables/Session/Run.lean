import StaticTables.Session.Answer
import StaticTables.Session.Construct

/-!
Running sessions: one command after the other, each with its result and the events it logged. A
command that fails leaves names as they were; what it built on the way, an index at its first use,
stays built.
-/
namespace StaticTables.Session

/-- What became of a command. -/
inductive StepResult where
  /-- It was answered, or failed with an error or a fault. -/
  | finished (result : Except Failure Reply)
  /-- It was not carried out. -/
  | refused (refusal : Refusal)

/-- A command's result and the events it logged. -/
structure Step where
  result : StepResult
  log : List Event

/-- The answer to a definition that was carried out. -/
def Object.built : Object → Reply
  | .table _ t => .tableBuilt t.size
  | _ => .done

/-- The session with a newly built object under a name. -/
def bind (s : Session) (name : String) (o : Object) : Session :=
  match o with
  | .table .. => { s.put name o with tables := s.tables + 1 }
  | _ => s.put name o

/-- The step that an action takes, given the reply to what it gives. -/
def Step.ofOutcome {α : Type} (reply : α → Reply) (o : Outcome Session (Except Refusal α)) :
    Step where
  result :=
    match o.result with
    | .ok (.ok a) => .finished (.ok (reply a))
    | .ok (.error refusal) => .refused refusal
    | .error e => .finished (.error e)
  log := o.log

/-- Carries out a command. -/
def step (s : Session) : Command → Step × Session
  | .define name definition =>
    let outcome := (construct definition).run.run s
    match outcome.result with
    | .ok (.ok o) => (Step.ofOutcome Object.built outcome, s.bind name o)
    | _ => (Step.ofOutcome Object.built outcome, s)
  | .ask query view =>
    let outcome := (answer view query).run.run s
    (Step.ofOutcome id outcome, outcome.state)

/-- Carries out commands in order. -/
def runFrom (s : Session) : List Command → List Step
  | [] => []
  | c :: rest =>
    let (result, s) := s.step c
    result :: runFrom s rest

/-- Carries out commands in order, starting with no objects. -/
def run (commands : List Command) : List Step := runFrom {} commands

end StaticTables.Session
