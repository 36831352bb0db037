import StaticTables.Session.Definition
import StaticTables.Session.Query

/-!
The commands of a session. A definition builds an object under a name; a query asks a named object
something, and says how much of the answer is shown.
-/
namespace StaticTables.Session

/-- What is shown of each record of an answer. -/
inductive Display where
  | column (name : String)
  | all

/-- A step of reading selected rows. -/
inductive RowsStep where
  | next
  | nextBack
  | size
  /-- The number of rows left, as lower and upper bound. -/
  | sizeHint
  | isEmpty
  | ids
  | table
  | inspect
  | rest
  | restBack
  | withIds
  | withIdsBack
  | withIdsSize

/-- How much of an answer is shown. -/
structure View where
  display : Option Display := none
  /-- The steps of reading the selected rows, if any are asked for. -/
  steps : Option (List RowsStep) := none

/-- A command. -/
inductive Command where
  | define (name : String) (definition : Definition)
  | ask (query : Query) (view : View)

end StaticTables.Session
