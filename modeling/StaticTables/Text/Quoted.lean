import StaticTables.Text.Printable

/-!
Quoted text, as it stands in the structural text of a value. Quotes, backslashes and the common
control characters have short escapes; combining characters and characters without a visible form
are written by code point, so a quoted text never hides or joins anything.
-/
namespace StaticTables.Text

/-- The digits of a code point in base sixteen, lower case, without leading zeros. -/
def hex (n : Nat) : String := String.ofList (Nat.toDigits 16 n)

/-- A character by code point: a backslash, the letter u, and the hexadecimal digits in braces. -/
def codePointEscape (c : Char) : String := "\\u\x7b" ++ hex c.toNat ++ "\x7d"

/-- One character of a quoted text. -/
def quoteChar (c : Char) : String :=
  if c = '\x00' then "\\0"
  else if c = '\t' then "\\t"
  else if c = '\r' then "\\r"
  else if c = '\n' then "\\n"
  else if c = '"' then "\\\""
  else if c = '\\' then "\\\\"
  else if isExtender c then codePointEscape c
  else if isPrintable c then c.toString
  else codePointEscape c

/-- The text between quotes, with every character that needs it escaped. -/
def quote (s : String) : String :=
  "\"" ++ String.join (s.toList.map quoteChar) ++ "\""

end StaticTables.Text
