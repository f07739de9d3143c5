import DashboardSynthesis.Text.Blank

/-!
# Decisions and builds

A decision has a name, an identifier and, if it declares one, a value type.  A type may be qualified
by a namespace, in braces or before a colon; what counts is its local name.
-/

namespace DashboardSynthesis

/-- The deployable whose endpoints get dashboards. -/
structure Build where
  artifactId : Text
  version : Text
  deriving DecidableEq, Repr

/-- A decision of a decision model. -/
structure Decision where
  name : Text
  identifier : Text
  valueType : Option Text := none
  deriving DecidableEq, Repr

/-- The local name of a type: what stands behind the last brace and the last colon, trimmed. -/
def localTypeName (declared : Text) : Text :=
  Text.trim (Text.afterLast (· = .scalar ':') (Text.afterLast (· = .scalar '}') declared))

/-- The local name of a decision's type, if it declares one. -/
def Decision.localType? (d : Decision) : Option Text := d.valueType.map localTypeName

/-- The name of the dashboard of an endpoint, preceded by the build if that is known. -/
def dashboardName (build : Option Build) (endpoint : Text) : Text :=
  match build with
  | none => endpoint
  | some b => b.artifactId ++ (.scalar '_' :: b.version) ++ (" - " : Text) ++ endpoint

end DashboardSynthesis
