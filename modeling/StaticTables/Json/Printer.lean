import StaticTables.Json.Basic

/-!
Compact JSON text. In strings only what must be escaped is escaped: quotes, backslashes and the
control characters, the latter by their short escapes where they have one.
-/
namespace StaticTables.Json

/-- The four hexadecimal digits of a number below 65536, lower case. -/
def hex4 (n : Nat) : List Char :=
  [n / 4096 % 16, n / 256 % 16, n / 16 % 16, n % 16].map Nat.digitChar

/-- One character of a string literal. -/
def escapeChar (c : Char) : List Char :=
  if c = '"' then ['\\', '"']
  else if c = '\\' then ['\\', '\\']
  else if c = '\x08' then ['\\', 'b']
  else if c = '\x0c' then ['\\', 'f']
  else if c = '\n' then ['\\', 'n']
  else if c = '\r' then ['\\', 'r']
  else if c = '\t' then ['\\', 't']
  else if c.toNat < 0x20 then '\\' :: 'u' :: hex4 c.toNat
  else [c]

/-- The characters of a string literal up to its closing quote. -/
def escape (s : List Char) : List Char := s.flatMap escapeChar

/-- A string literal for a text. -/
def quoted (s : String) : List Char := '"' :: (escape s.toList ++ ['"'])

/-- A string literal. One without a text is written as a single unpaired surrogate. -/
def printLiteral : Literal → List Char
  | some s => quoted s
  | none => ['"', '\\', 'u', 'd', '8', '0', '0', '"']

/-- A number as it was written. -/
def Number.print (n : Number) : List Char :=
  (if n.negative then ['-'] else []) ++ Nat.toDigits 10 n.whole ++ n.tail.toList

mutual

/-- The compact text of a value. -/
def print : Json → List Char
  | .null => ['n', 'u', 'l', 'l']
  | .bool true => ['t', 'r', 'u', 'e']
  | .bool false => ['f', 'a', 'l', 's', 'e']
  | .number n => n.print
  | .string s => printLiteral s
  | .array items => '[' :: printItems items
  | .object members => '\x7b' :: printMembers members

/-- The items of an array and its closing bracket. -/
def printItems : List Json → List Char
  | [] => [']']
  | [v] => print v ++ [']']
  | v :: rest => print v ++ ',' :: printItems rest

/-- The members of an object and its closing brace. -/
def printMembers : List (Literal × Json) → List Char
  | [] => ['\x7d']
  | [(k, v)] => printLiteral k ++ ':' :: (print v ++ ['\x7d'])
  | (k, v) :: rest => printLiteral k ++ ':' :: (print v ++ ',' :: printMembers rest)

end

/-- The compact text of a value. -/
def render (v : Json) : String := String.ofList (print v)

end StaticTables.Json
