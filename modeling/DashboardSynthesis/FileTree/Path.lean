import DashboardSynthesis.Text.Basic

/-!
# Paths

A path is a root and the names behind it.  Repeated separators and names `.` are dropped in reading a
path, a name `..` is kept, since what it means depends on the tree.  A path without root and names is
written `.`.
-/

namespace DashboardSynthesis

/-- A path: the root, which is empty for a relative path, and names. -/
structure Path where
  root : Text
  names : List Text
  deriving DecidableEq, Repr

namespace Path

/-- The names between separators, without the empty ones and `.`. -/
def namesOf (t : Text) : List Text :=
  (Text.splitOn (.scalar '/') t).filter fun name => !name.isEmpty && name ≠ ("." : Text)

/-- The root at the start of a path: exactly two separators are kept apart from one. -/
def rootOf : Text → Text
  | .scalar '/' :: .scalar '/' :: .scalar '/' :: _ => "/"
  | .scalar '/' :: .scalar '/' :: _ => "//"
  | .scalar '/' :: _ => "/"
  | _ => []

/-- The path that a text denotes. -/
def ofText (t : Text) : Path := ⟨rootOf t, namesOf t⟩

/-- The path as text. -/
def toText (p : Path) : Text :=
  if p.root.isEmpty && p.names.isEmpty then "."
  else p.root ++ Text.joinWith "/" p.names

/-- The path `q` as seen from the directory `p`; an absolute path stays as it is. -/
def join (p q : Path) : Path := if q.root.isEmpty then ⟨p.root, p.names ++ q.names⟩ else q

/-- The path without its last name. -/
def parent (p : Path) : Path := ⟨p.root, p.names.dropLast⟩

end Path
end DashboardSynthesis
