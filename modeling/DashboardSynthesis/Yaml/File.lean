import DashboardSynthesis.Failure
import DashboardSynthesis.Text.Utf8
import DashboardSynthesis.Yaml.Value

/-!
# Files of YAML

A file is read by a library, and there are two ways in which it gives no value.  What the library
itself finds wrong is a text about it, to be passed on; everything else that goes wrong in reading is a
breakdown.  `Yaml.readFile` is a reader that runs: it looks at the whole of a file before it looks at
what is in it.
-/

namespace DashboardSynthesis
namespace Yaml

/-- Why a file has no value. -/
inductive Refusal where
  | malformed (message : Text)
  | broken (cause : Breakdown)
  deriving DecidableEq, Repr

/-- The refusal of a file, given its path, whose text has a fault. -/
def refusalOf (path : Text) : Fault → Refusal
  | .malformed what =>
    .malformed (what.message ++ ("\n  in \"" : Text) ++ path ++ ("\"" : Text))
  | .tooDeep => .broken .tooDeep
  | .noCodePoint number => .broken (.noCodePoint number)
  | .badScalar why => .broken (.badScalar why)

/-- The value of a file, given its path and its contents. -/
def readFile (path : Text) (contents : ByteArray) : Except Refusal Value :=
  match Text.ofFile? contents with
  | none => .error (.broken .undecodable)
  | some text => (read text).mapError (refusalOf path)

end Yaml
end DashboardSynthesis
