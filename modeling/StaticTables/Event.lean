import StaticTables.Declaration
import StaticTables.Failure.Fault

/-!
What constructions and queries log. Each event has a level, a name, and fields; numbers are logged
as numbers and everything else as text.
-/
namespace StaticTables

/-- How much attention an event asks for. -/
inductive Event.Level where
  /-- Every query. -/
  | trace
  /-- Every construction. -/
  | debug
  /-- Data that failed a check. -/
  | warn
deriving DecidableEq

/-- The value of a field. -/
inductive Event.Value where
  | number (n : Nat)
  | text (s : String)
deriving DecidableEq

/-- An event of the log. -/
inductive Event where
  | tableBuild (table : String) (id : TableId) (rows : Nat)
  | indexBuild (table : String) (rows indexed : Nat)
  /-- An index is about to be built at its first use. -/
  | indexLazyBuild (table : String)
  /-- Rows were looked up by one key. -/
  | indexFind (table : String) (found : Nat)
  /-- Rows were looked up by a range of keys, in table order. -/
  | indexRange (table : String) (found : Nat)
  /-- Rows were looked up by a range of keys, in key order. -/
  | indexRangeByValue (table : String) (found : Nat)
  | validationFailed (check : Check) (error : Error)
  | relationshipBuild (declaration : Declaration) (source target : String)
  /-- Two relationships were paired. -/
  | partnerBuild (forward backward : String)
  /-- Two relationships were chained. -/
  | junctionBuild (left right : String)
  | hierarchyBuild (table column : String) (rows : Nat)
  /-- Membership was carried down from roots to their descendants. -/
  | hierarchyPropagate (table : String) (start added : Nat)
  | variantBuild (column source : String) (candidates : Nat) (optionality : Optionality)
  /-- Labels were attached to rows. -/
  | labelBuild (table : String) (labels rows : Nat)
  /-- External records were indexed. -/
  | externalIndexBuild (data : String) (records : Nat)
deriving DecidableEq

namespace Event

/-- The level at which the event is logged. -/
def level : Event → Level
  | validationFailed .. => .warn
  | indexFind .. | indexRange .. | indexRangeByValue .. | hierarchyPropagate .. => .trace
  | _ => .debug

/-- The name of the event. -/
def name : Event → String
  | tableBuild .. => "table.build"
  | indexBuild .. => "index.build"
  | indexLazyBuild .. => "index.lazy_build"
  | indexFind .. => "index.find"
  | indexRange .. => "index.range"
  | indexRangeByValue .. => "index.range_by_value"
  | validationFailed .. => "validation.failed"
  | relationshipBuild .. => "relationship.build"
  | partnerBuild .. => "partner.build"
  | junctionBuild .. => "junction.build"
  | hierarchyBuild .. => "hierarchy.build"
  | hierarchyPropagate .. => "hierarchy.propagate"
  | variantBuild .. => "variant.build"
  | labelBuild .. => "label.build"
  | externalIndexBuild .. => "label.external_index"

/-- The fields of the event. -/
def fields : Event → List (String × Value)
  | tableBuild table id rows =>
    [("table", .text table), ("id", .number id.value), ("rows", .number rows)]
  | indexBuild table rows indexed =>
    [("table", .text table), ("rows", .number rows), ("indexed", .number indexed)]
  | indexLazyBuild table => [("table", .text table)]
  | indexFind table found | indexRange table found | indexRangeByValue table found =>
    [("table", .text table), ("matches", .number found)]
  | validationFailed check error =>
    [("check", .text check.name), ("error", .text error.message)]
  | relationshipBuild declaration source target =>
    [("relationship", .text declaration.name), ("source", .text source), ("target", .text target),
      ("cardinality", .text declaration.cardinality.name),
      ("optionality", .text declaration.optionality.name)]
  | partnerBuild forward backward => [("forward", .text forward), ("backward", .text backward)]
  | junctionBuild left right => [("left", .text left), ("right", .text right)]
  | hierarchyBuild table column rows =>
    [("table", .text table), ("column", .text column), ("rows", .number rows)]
  | hierarchyPropagate table start added =>
    [("table", .text table), ("start", .number start), ("added", .number added)]
  | variantBuild column source candidates optionality =>
    [("column", .text column), ("source", .text source), ("candidates", .number candidates),
      ("optionality", .text optionality.name)]
  | labelBuild table labels rows =>
    [("table", .text table), ("labels", .number labels), ("rows", .number rows)]
  | externalIndexBuild data records => [("data", .text data), ("records", .number records)]

end Event

end StaticTables
