/-!
The structural text of composite values: a name with its fields in braces, and lists in brackets.
-/
namespace StaticTables.Text

/-- A composite value: its name, then its fields in order. -/
def inspectFields (name : String) (fields : List (String × String)) : String :=
  name ++ " \x7b " ++ ", ".intercalate (fields.map fun f => f.1 ++ ": " ++ f.2) ++ " \x7d"

/-- A composite value of which only some fields are shown; two dots stand for the rest. -/
def inspectSome (name : String) (fields : List (String × String)) : String :=
  name ++ " \x7b " ++ ", ".intercalate (fields.map fun f => f.1 ++ ": " ++ f.2) ++ ", .. \x7d"

/-- A list of values whose texts are given. -/
def inspectList (items : List String) : String :=
  "[" ++ ", ".intercalate items ++ "]"

end StaticTables.Text
