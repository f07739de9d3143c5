import DashboardSynthesis.Json.Printer

/-!
# Markers in templates

A template holds markers that stand for the endpoint, the build and the identity of a dashboard.
`customize` replaces them in one pass from left to right: after a marker it goes on behind it, so a
marker in an inserted value stays as it is, and so does text that only looks like a marker.
-/

namespace DashboardSynthesis

/-- The markers of a template. -/
inductive Marker where
  | handlerName
  | id
  | uid
  | artifactId
  | version
  deriving DecidableEq, Repr

namespace Marker

/-- All markers. -/
def all : List Marker := [handlerName, id, uid, artifactId, version]

/-- A marker as it stands in a template. -/
def text : Marker → Text
  | handlerName => "$handlerName$"
  | id => "$id$"
  | uid => "$uid$"
  | artifactId => "$gavArtifactId$"
  | version => "$gavVersion$"

/-- The marker with which a text starts. -/
def atStart? (t : Text) : Option Marker := all.find? fun m => m.text.isPrefixOf t

end Marker

/-- Replaces the markers behind the first `skip` code points, which are dropped. -/
def customizeFrom (value : Marker → Text) : (skip : Nat) → Text → Text
  | _, [] => []
  | skip + 1, _ :: rest => customizeFrom value skip rest
  | 0, c :: rest =>
    match Marker.atStart? (c :: rest) with
    | some m => value m ++ customizeFrom value (m.text.length - 1) rest
    | none => c :: customizeFrom value 0 rest

/-- The template with each marker replaced by its value. -/
def customize (value : Marker → Text) (template : Text) : Text := customizeFrom value 0 template

/-- The id and the uid of one dashboard. -/
structure Identity where
  id : Int
  uid : Text
  deriving DecidableEq, Repr

/-- The values of the markers for an endpoint of a build. -/
def markerValue (endpoint artifactId version : Text) (identity : Identity) : Marker → Text
  | .handlerName => endpoint
  | .id => Text.ofInt identity.id
  | .uid => identity.uid
  | .artifactId => artifactId
  | .version => version

/-- Can the id be written under the digit limit? -/
def Identity.isPrintable (identity : Identity) : Bool := (Json.int identity.id).isPrintable

end DashboardSynthesis
