import DashboardSynthesis.Json.Reader

/-!
# Panels that are generated

A generated panel shows one query.  What it looks like is fixed but for its kind, title, query, axis
label and datasource, its id, and its place on the grid; the order of its members is part of what is
fixed.

A panel is made of its title and its query by writing it and reading that back, and only then the other
things are put in.  That shows in surrogates that stand next to their partners (`Json.joined`).

Panels are 12 columns wide on a grid of 24, and 8 rows high, so they stand in pairs.  A `Cursor` is
the place where the next one goes: right of the last one if there is room, else at the left on the
next row of panels.
-/

namespace DashboardSynthesis

/-- The kinds of panels that can be generated. -/
inductive PanelKind where
  | timeseries
  | stat
  | gauge
  deriving DecidableEq, Repr

/-- The name of a kind in a dashboard. -/
def PanelKind.name : PanelKind → Text
  | timeseries => "timeseries"
  | stat => "stat"
  | gauge => "gauge"

/-- What a generated panel shows. -/
structure PanelContent where
  kind : PanelKind
  title : Text
  query : Text
  axisLabel : Option Text := none
  deriving DecidableEq, Repr

namespace Grid

/-- The number of columns. -/
def columns : Nat := 24

/-- The width of a generated panel. -/
def panelWidth : Nat := 12

/-- The height of a generated panel. -/
def panelHeight : Nat := 8

/-- A place on the grid. -/
structure Place where
  x : Nat
  y : Int
  deriving DecidableEq, Repr

/-- The corner at which the next panel goes if it fits there. -/
structure Cursor where
  x : Nat
  y : Int
  deriving DecidableEq, Repr

/-- The place of the next panel: at the cursor, or at the left and one panel further down. -/
def Cursor.place (c : Cursor) : Place :=
  if columns < c.x + panelWidth then ⟨0, c.y + panelHeight⟩ else ⟨c.x, c.y⟩

/-- The cursor once a panel has been put at its place. -/
def Cursor.next (c : Cursor) : Cursor := ⟨c.place.x + panelWidth, c.place.y⟩

/-- A place, with the size of a generated panel, as it stands in a dashboard. -/
def Place.toJson (p : Place) : Json :=
  .obj [("h", .int panelHeight), ("w", .int panelWidth), ("x", .int p.x), ("y", .int p.y)]

end Grid

namespace PanelContent

/-- The field settings: an axis label is named only if it is not empty. -/
def fieldDefaults (content : PanelContent) : Json :=
  match content.axisLabel with
  | none | some [] => .obj []
  | some label => .obj [("custom", .obj [("axisLabel", .str label)])]

/-- The members with the datasource behind them, if there is one. -/
def withDatasource (members : Json.Members) : Option Json → Json.Members
  | none => members
  | some datasource => members ++ [(("datasource" : Text), datasource)]

/-- The one query of the panel, under the reference `A`. -/
def target (content : PanelContent) (datasource : Option Json) : Json :=
  .obj (withDatasource [("expr", .str (Json.joined content.query)), ("refId", .str "A")] datasource)

/-- The panel as it stands in a dashboard. -/
def toJson (content : PanelContent) (id : Int) (place : Grid.Place) (datasource : Option Json) :
    Json :=
  .obj (withDatasource
    [("type", .str content.kind.name),
     ("transparent", .bool false),
     ("transformations", .arr []),
     ("options", .null),
     ("fieldConfig", .obj [("defaults", content.fieldDefaults), ("overrides", .arr [])]),
     ("targets", .arr [content.target datasource]),
     ("title", .str (Json.joined content.title)),
     ("repeatDirection", .str "h"),
     ("id", .int id),
     ("gridPos", place.toJson)]
    datasource)

end PanelContent

end DashboardSynthesis
