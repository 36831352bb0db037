import StaticTables.Text.Inspect

/-!
Settings for building relationships and variant columns: how failed checks are met, and whether
reverse indices are built at once or at their first use.

What is defined here and in the modules after it is the program with its assertions on. With
assertions off, trusted data would not be checked at all and a table would not be asked for its
identity when a query is given it; that program is not described.
-/
namespace StaticTables

/-- How data that fails a check is met. -/
inductive Validation where
  /-- The data is not trusted: a failed check is an error of the construction. -/
  | strict
  /-- The data was promised to be valid: a failed check is a fault of whoever promised it. -/
  | trusted
deriving DecidableEq

namespace Validation

/-- The name of the setting. -/
def name : Validation → String
  | strict => "Strict"
  | trusted => "Trusted"

instance : Inhabited Validation := ⟨strict⟩

/-- Whether failed checks are reported as errors. -/
def isStrict : Validation → Bool
  | strict => true
  | trusted => false

/-- Whether checks run. With assertions on a promise is checked as well, so they always do; it is
only with assertions off that trusted data would go unchecked. -/
def isEnabled : Validation → Bool
  | strict => true
  | trusted => true

end Validation

/-- The settings of a construction. -/
structure Settings where
  validation : Validation := .strict
  eager : Bool := true
deriving DecidableEq

namespace Settings

instance : Inhabited Settings := ⟨{}⟩

/-- The settings for data that was validated before: trusted, with indices at first use. -/
def trusted : Settings := { validation := .trusted, eager := false }

def inspect (c : Settings) : String :=
  Text.inspectFields "BuildConfig"
    [("validation", c.validation.name), ("eager_indexes", toString c.eager)]

end Settings

end StaticTables
