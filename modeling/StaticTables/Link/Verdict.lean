import StaticTables.Settings
import StaticTables.Traced

/-!
What becomes of the verdict of a check. Under strict validation an error is logged and reported;
under trusted validation the same error is a fault, since the data was promised to pass. A fault
that stops the check itself is passed on under either. With assertions off, trusted data
would not come to a verdict at all.
-/
namespace StaticTables

/-- Meets the verdict of a check. With assertions on the check is run under either validation. -/
def Validation.enforce (v : Validation) (check : Check) (verdict : Except Failure Unit) :
    Build Unit :=
  match verdict with
  | .ok () => pure ()
  | .error (.fault f) => Traced.fail (.fault f)
  | .error (.error e) =>
    match v with
    | .strict => do
      Traced.emit (.validationFailed check e)
      Traced.fail (.error e)
    | .trusted => Traced.fail (.fault (.untrue check e))

/-- Adds to an error the column it arose in and the construction under way. -/
def locate (table column frame : String) : Except Failure Unit → Except Failure Unit
  | .error (.error e) => .error (.error (e.located table column frame))
  | verdict => verdict

namespace Validation

@[simp] theorem enforce_ok (v : Validation) (check : Check) :
    v.enforce check (.ok ()) = pure () := rfl

@[simp] theorem enforce_fault (v : Validation) (check : Check) (f : Fault) :
    v.enforce check (.error (.fault f)) = Traced.fail (.fault f) := rfl

@[simp] theorem run_enforce_strict_error (check : Check) (e : Error) :
    (strict.enforce check (.error (.error e))).run () =
      { result := .error (.error e), state := (), log := [.validationFailed check e] } := rfl

@[simp] theorem run_enforce_trusted_error (check : Check) (e : Error) :
    (trusted.enforce check (.error (.error e))).run () =
      { result := .error (.fault (.untrue check e)), state := (), log := [] } := rfl

end Validation

end StaticTables
