import DashboardSynthesis.Dashboard.Panel
import DashboardSynthesis.Decimal.Integer

/-!
# Dashboard documents

A document is a dashboard that is being edited: the members of its JSON object, among them the lists
`panels` and `links`, and the cursor for the next generated panel.  `Document.parse` checks once what
the later steps need: that these two are lists, that panels are objects whose `gridPos` and nested
`panels` have the right shape or count as absent, and that each top-level panel has an integer bottom
edge.  It does not look at the links.

The edits are `setTitle`, `addPanel`, which cannot fail, and `addLink?`, which fails on a document
with a link that is not an object.  What the document holds besides is never touched, so it is
written as it was read (`Document.serialize`).
-/

namespace DashboardSynthesis

/-- A dashboard that is being edited. -/
structure Document where
  /-- The members of the dashboard, in order. -/
  members : Json.Members
  /-- Where the next generated panel goes. -/
  cursor : Grid.Cursor

namespace Document

/-- Why a text is refused as a dashboard. -/
inductive Refusal where
  | notJson (what : Json.Malformation) (place : Json.Place)
  | notAnObject
  | notLists
  | panelNotAnObject (index : Nat)
  | gridNotAnObject (index : Nat)
  | childrenNotPanels (index : Nat)
  | gridNotInteger (why : NotInteger)
  deriving DecidableEq, Repr

/-- Why a text is not read as a dashboard. -/
inductive Fault where
  /-- The text is not an acceptable dashboard. -/
  | refused (why : Refusal)
  /-- An integer in the text has too many digits. -/
  | tooManyDigits (digits : Nat)
  /-- The values in the text are nested too deeply. -/
  | tooDeep
  /-- A coordinate on the grid is infinite. -/
  | infiniteGrid
  deriving DecidableEq, Repr

/-- The reason for a refusal in words. -/
def Refusal.message : Refusal → Text
  | notJson what place =>
    ("Invalid dashboard JSON: " : Text) ++ what.message ++ (": " : Text) ++ place.message
  | notAnObject => "Dashboard JSON must be an object"
  | notLists => "Dashboard 'panels' and 'links' must be lists"
  | panelNotAnObject index => ("Panel " : Text) ++ Text.ofNat index ++ (" must be an object" : Text)
  | gridNotAnObject index =>
    ("Panel " : Text) ++ Text.ofNat index ++ (" gridPos must be an object" : Text)
  | childrenNotPanels index =>
    ("Row panel " : Text) ++ Text.ofNat index ++ (" must hold a list of panel objects" : Text)
  | gridNotInteger why => ("Invalid panel gridPos: " : Text) ++ why.message

/-- Why a document is not written. -/
inductive WriteFault where
  /-- An integer in it exceeds the digit limit. -/
  | tooManyDigits
  /-- The values in it are nested too deeply. -/
  | tooDeep
  /-- The indentation is beyond any width. -/
  | indentTooLarge
  deriving DecidableEq, Repr

/-- What is said where a document exceeds the digit limit in writing. -/
def unprintableMessage : Text :=
  ("Could not serialize dashboard: " : Text) ++ Json.digitLimitMessage none

/-! ## Looking at panels -/

/-- The value under a key, where a value that counts as absent is none. -/
def present? (panel : Json) (key : Text) : Option Json :=
  (panel.get? key).filter Json.isTruthy

/-- The panels nested directly in a panel. -/
def children (panel : Json) : List Json :=
  match present? panel "panels" with
  | some nested => nested.items
  | none => []

/-- Panels, each followed by those nested directly in it. -/
def withChildren (panels : List Json) : List Json :=
  panels.flatMap fun panel => panel :: children panel

/-- The id of a panel if it is an integer; a boolean counts as zero or one. -/
def integerId? (panel : Json) : Option Int :=
  match panel.get? "id" with
  | some (.int n) => some n
  | some (.bool b) => some (if b then 1 else 0)
  | _ => none

/-- The datasource that a panel offers to others: rows offer none. -/
def offeredDatasource? (panel : Json) : Option Json :=
  match panel.get? "type" with
  | some (.str kind) => if kind = "row" then none else present? panel "datasource"
  | _ => present? panel "datasource"

/-! ## Parsing -/

/-- Checks the shape of a panel at an index of the list. -/
def checkPanel (index : Nat) (panel : Json) : Except Refusal Unit :=
  if !panel.isObject then .error (.panelNotAnObject index)
  else if !((present? panel "gridPos").all Json.isObject) then .error (.gridNotAnObject index)
  else match present? panel "panels" with
    | none => .ok ()
    | some (.arr nested) =>
      if nested.all Json.isObject then .ok () else .error (.childrenNotPanels index)
    | some _ => .error (.childrenNotPanels index)

/-- Checks the shape of the panels from an index on. -/
def checkPanels : (index : Nat) → List Json → Except Refusal Unit
  | _, [] => .ok ()
  | index, panel :: rest => do
    checkPanel index panel
    checkPanels (index + 1) rest

/-- A coordinate of a panel, zero where it is not given. -/
def coordinate (panel : Json) (key : Text) : Except NotInteger Int :=
  match (present? panel "gridPos").bind (·.get? key) with
  | none => .ok 0
  | some value => value.toInteger

/-- The bottom edge of a panel. -/
def bottom (panel : Json) : Except NotInteger Int := do
  let y ← coordinate panel "y"
  let h ← coordinate panel "h"
  pure (y + h)

/-- The greatest bottom edge of the panels and `least`. -/
def contentBottom (least : Int) : List Json → Except NotInteger Int
  | [] => .ok least
  | panel :: rest => do
    let edge ← bottom panel
    contentBottom (max least edge) rest

/-- The value under a key is a list, or there is none. -/
def isListOrAbsent (members : Json.Members) (key : Text) : Bool :=
  match members.get? key with
  | none | some (.arr _) => true
  | some _ => false

/-- The panels of a dashboard. -/
def panelsOf (members : Json.Members) : List Json := ((members.get? "panels").getD .null).items

/-- The document of a dashboard with the given members. -/
def ofMembers (members : Json.Members) : Except Fault Document := do
  if !(isListOrAbsent members "panels" && isListOrAbsent members "links") then
    throw (.refused .notLists)
  let members := (members.setDefault "panels" (.arr [])).setDefault "links" (.arr [])
  match checkPanels 0 (panelsOf members) with
  | .error why => throw (.refused why)
  | .ok () =>
    match contentBottom 0 (panelsOf members) with
    | .error .infinite => throw .infiniteGrid
    | .error why => throw (.refused (.gridNotInteger why))
    | .ok y => pure ⟨members, ⟨0, y⟩⟩

/-- Reads a document. -/
def parse (text : Text) : Except Fault Document :=
  match Json.read text with
  | .error (.malformed what left) => .error (.refused (.notJson what (.ofLeft text left)))
  | .error (.tooManyDigits digits) => .error (.tooManyDigits digits)
  | .error .tooDeep => .error .tooDeep
  | .ok (.obj members) => ofMembers members
  | .ok _ => .error (.refused .notAnObject)

/-! ## What a document holds -/

/-- The title, if the document has one. -/
def title? (d : Document) : Option Json := d.members.get? "title"

/-- The top-level panels. -/
def panels (d : Document) : List Json := panelsOf d.members

/-- The links. -/
def links (d : Document) : List Json := ((d.members.get? "links").getD .null).items

/-- The id for the next generated panel: one more than the greatest integer id there is. -/
def nextPanelId (d : Document) : Int :=
  match (withChildren d.panels).filterMap integerId? with
  | [] => 1
  | id :: ids => ids.foldl max id + 1

/-- The datasource of generated panels: the first one that a panel offers. -/
def defaultDatasource? (d : Document) : Option Json :=
  (withChildren d.panels).findSome? offeredDatasource?

/-! ## Edits -/

/-- The document with a title. -/
def setTitle (d : Document) (title : Text) : Document :=
  { d with members := d.members.set "title" (.str title) }

/-- A link that opens `url` in a new tab. -/
def linkTo (title url : Text) : Json :=
  .obj [("asDropdown", .bool false), ("icon", .str "external link"), ("includeVars", .bool false),
    ("keepTime", .bool false), ("tags", .arr []), ("targetBlank", .bool true),
    ("title", .str title), ("tooltip", .str ""), ("type", .str "link"), ("url", .str url)]

/-- Does a link have this title? -/
def hasTitle (title : Text) (link : Json) : Bool :=
  match link.get? "title" with
  | some (.str t) => t = title
  | _ => false

/-- The document with a link at the end in place of the links with that title.  There is none if
some link is not an object. -/
def addLink? (d : Document) (title url : Text) : Option Document :=
  if d.links.all Json.isObject then
    let others := d.links.filter fun link => !hasTitle title link
    some { d with members := d.members.set "links" (.arr (others ++ [linkTo title url])) }
  else none

/-- The panel that `addPanel` adds. -/
def newPanel (d : Document) (content : PanelContent) : Json :=
  content.toJson d.nextPanelId d.cursor.place d.defaultDatasource?

/-- The document with a generated panel below what is there. -/
def addPanel (d : Document) (content : PanelContent) : Document :=
  { members := d.members.set "panels" (.arr (d.panels ++ [d.newPanel content]))
    cursor := d.cursor.next }

/-! ## Writing -/

/-- Is this a width by which something can be indented at all? -/
def isWidth (n : Int) : Bool := -0x8000000000000000 ≤ n && n < 0x8000000000000000

/-- The dashboard as text.  The limits of reading are those of writing, but a document that was read
may exceed them: a generated panel nests its datasource deeper than it was, and its id and its place
may have a digit more than any integer of the text. -/
def serialize (d : Document) (indent : Option Int) : Except WriteFault Text :=
  if !indent.all isWidth then .error .indentTooLarge
  else if Json.nestingLimit < (Json.obj d.members).depth then .error .tooDeep
  else
    match (Json.obj d.members).print? (.ofIndent indent) with
    | some text => .ok text
    | none => .error .tooManyDigits

end Document

end DashboardSynthesis
