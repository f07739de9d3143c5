import DashboardSynthesis.Yaml.Lexer
import DashboardSynthesis.Yaml.Tag

/-!
# Nodes of YAML

The tokens of a text make up one document, and a document is a node: a scalar, a sequence or a
mapping, with a tag.  An alias stands for the node that its anchor names, so it is replaced by that
node.  Only an alias inside the very collection that it names has no finite replacement.  So nodes are
numbered, and such an alias becomes `Node.again`, which says by its number what stands there again.

Tokens are asked for one by one, and if there is a fault in the text it is come upon where the tokens in
front of it run out (`Compose.peek`).

The functions that read nodes and the entries of collections call one another, and each of these calls
uses one unit of a supply that is computed from the number of tokens.
-/

namespace DashboardSynthesis
namespace Yaml

/-- A node of a document. -/
inductive Node where
  | scalar (tag : Tag) (text : Text)
  | sequence (number : Nat) (tag : Tag) (items : List Node)
  | mapping (number : Nat) (tag : Tag) (entries : List (Node × Node))
  /-- A collection inside itself, with its tag. -/
  | again (number : Nat) (tag : Tag)

namespace Node

/-- The node where nothing is written. -/
def empty : Node := .scalar .null []

end Node

/-- The greatest depth of nested collections. -/
def nestingLimit : Nat := 480

/-- The greatest number of nodes that a document may stand for once its aliases are replaced. -/
def expansionLimit : Nat := 1000000

/-- What an anchor names: a collection that is still open, or a node with the number of nodes in it. -/
inductive Anchored where
  | opened (number : Nat) (tag : Tag)
  | complete (node : Node) (size : Nat)

/-- What is known while a document is read. -/
structure Composer where
  /-- The tokens that are left. -/
  tokens : List Token
  /-- The fault behind them. -/
  blocked : Option Fault
  /-- The tag handles and what they stand for. -/
  handles : List (Text × Text)
  /-- What anchors name. -/
  anchors : List (Text × Anchored) := []
  /-- The number of nodes so far, with aliases replaced. -/
  size : Nat := 0
  /-- The number of nodes that have been numbered. -/
  numbered : Nat := 0

/-- Reading a part of a document. -/
abbrev Compose := StateT Composer (Except Fault)

namespace Compose

/-- Fails since the text is malformed. -/
def fail {α : Type} (what : Malformation) : Compose α := throw (.malformed what)

/-- The next token. -/
def peek : Compose (Option Token) := do
  let c ← get
  match c.tokens, c.blocked with
  | [], some fault => throw fault
  | tokens, _ => pure tokens.head?

/-- Takes the next token away. -/
def skip : Compose Unit := modify fun c => { c with tokens := c.tokens.tail }

/-- Takes the next token away if it is the given one, and says whether it was. -/
def skipIf (t : Token) : Compose Bool := do
  if (← peek) = some t then
    skip
    pure true
  else pure false

/-- Is the next token one of these? -/
def isNext (ts : List Token) : Compose Bool := do
  match ← peek with
  | some t => pure (ts.contains t)
  | none => pure false

/-! ## Properties of nodes -/

/-- What is written before a node: its anchor, and its tag by its full name. -/
structure Properties where
  anchor : Option Text := none
  tag : Option Text := none

/-- The full name of a tag. -/
def tagName (handle : Option Text) (rest : Text) : Compose Text := do
  match handle with
  | none => pure rest
  | some handle =>
    match (← get).handles.find? fun (known, _) => known = handle with
    | some (_, start) => pure (start ++ rest)
    | none => fail .undefinedHandle

/-- An anchor, if there is one. -/
def readAnchor? : Compose (Option Text) := do
  match ← peek with
  | some (.anchor name) =>
    skip
    pure (some name)
  | _ => pure none

/-- A tag, if there is one. -/
def readTag? : Compose (Option (Option Text × Text)) := do
  match ← peek with
  | some (.tag handle rest) =>
    skip
    pure (some (handle, rest))
  | _ => pure none

/-- The anchor and the tag of a node, in either order. -/
def readProperties : Compose Properties := do
  match ← readAnchor? with
  | some anchor =>
    let tag ← (← readTag?).mapM fun (handle, rest) => tagName handle rest
    pure { anchor, tag }
  | none =>
    match ← readTag? with
    | none => pure {}
    | some (handle, rest) =>
      let anchor ← readAnchor?
      pure { anchor, tag := some (← tagName handle rest) }

/-- Does a tag leave open what a node stands for? -/
def isOpen : Option Text → Bool
  | none => true
  | some name => name = ("!" : Text)

/-- The tag of a scalar.  A plain one without a tag is taken by its text, and so is any under the tag
that leaves it open. -/
def scalarTag (name : Option Text) (text : Text) (plain : Bool) : Tag :=
  match name with
  | none => if plain then .ofPlain text else .str
  | some name => if isOpen (some name) then .ofPlain text else .ofName name

/-- The tag of a collection, with the one that it has if none is given. -/
def collectionTag (name : Option Text) (usual : Tag) : Tag :=
  match name with
  | none => usual
  | some name => if isOpen (some name) then usual else .ofName name

/-- Notes that an anchor names a node that has just started, with its number and its tag. -/
def openAnchor (p : Properties) (number : Nat) (tag : Tag) : Compose Unit := do
  match p.anchor with
  | none => pure ()
  | some name =>
    if (← get).anchors.any fun (known, _) => known = name then fail .repeatedAnchor
    else modify fun c => { c with anchors := (name, .opened number tag) :: c.anchors }

/-- Counts nodes. -/
def count (nodes : Nat) : Compose Unit := do
  let size := (← get).size + nodes
  if expansionLimit < size then throw .tooDeep
  modify fun c => { c with size }

/-- Notes the node that an anchor names; `before` nodes were counted when it started. -/
def closeAnchor (p : Properties) (before : Nat) (node : Node) : Compose Node := do
  match p.anchor with
  | none => pure node
  | some name =>
    modify fun c => { c with anchors := (name, .complete node (c.size - before)) :: c.anchors }
    pure node

/-- The node that an alias stands for. -/
def resolveAlias (name : Text) : Compose Node := do
  match (← get).anchors.find? fun (known, _) => known = name with
  | none => fail .undefinedAlias
  | some (_, .complete node size) =>
    count size
    pure node
  | some (_, .opened number tag) =>
    count 1
    pure (.again number tag)

/-- A number that no node has. -/
def newNumber : Compose Nat := do
  let number := (← get).numbered
  modify fun c => { c with numbered := number + 1 }
  pure number

/-- A node with a tag and the content that is read by an action, which is given its number. -/
def nodeWith (p : Properties) (tag : Tag) (content : Nat → Compose Node) : Compose Node := do
  let before := (← get).size
  let number ← newNumber
  openAnchor p number tag
  count 1
  closeAnchor p before (← content number)

/-- A scalar node. -/
def scalarNode (p : Properties) (text : Text) (plain : Bool) : Compose Node :=
  let tag := scalarTag p.tag text plain
  nodeWith p tag fun _ => pure (.scalar tag text)

/-- A sequence node with the items that are read by an action. -/
def sequenceNode (p : Properties) (items : Compose (List Node)) : Compose Node :=
  let tag := collectionTag p.tag .seq
  nodeWith p tag fun number => return .sequence number tag (← items)

/-- A mapping node with the entries that are read by an action. -/
def mappingNode (p : Properties) (entries : Compose (List (Node × Node))) : Compose Node :=
  let tag := collectionTag p.tag .map
  nodeWith p tag fun number => return .mapping number tag (← entries)

/-! ## Nodes -/

/-- Where a node stands. -/
inductive Place where
  /-- Between brackets, where no collection in block style can start. -/
  | flow
  /-- Where a block can start. -/
  | block
  /-- Behind a key or value indicator, where also a sequence can start that is not indented. -/
  | afterIndicator
  deriving DecidableEq, Repr

mutual

/-- Reads a node, with `depth` levels of nesting left. -/
def node : (supply depth : Nat) → Place → Compose Node
  | 0, _, _ | _, 0, _ => throw .tooDeep
  | supply + 1, depth + 1, place => do
    match ← peek with
    | some (.alias name) =>
      skip
      resolveAlias name
    | _ =>
      let p ← readProperties
      match ← peek with
      | some (.scalar text plain) =>
        skip
        scalarNode p text plain
      | some .flowSequenceStart =>
        skip
        sequenceNode p (flowItems supply depth true)
      | some .flowMappingStart =>
        skip
        mappingNode p (flowEntries supply depth true)
      | next =>
        if next = some .blockEntry && place = .afterIndicator then
          sequenceNode p (indentlessItems supply depth)
        else if next = some .blockSequenceStart && place ≠ .flow then
          skip
          sequenceNode p (blockItems supply depth)
        else if next = some .blockMappingStart && place ≠ .flow then
          skip
          mappingNode p (blockEntries supply depth)
        else if p.anchor.isSome || p.tag.isSome then scalarNode p [] (isOpen p.tag)
        else fail .noContent

/-- Reads a node unless one of the given tokens is next, where nothing is written. -/
def nodeUnless : (supply depth : Nat) → List Token → Place → Compose Node
  | 0, _, _, _ => throw .tooDeep
  | supply + 1, depth, stops, place => do
    if ← isNext stops then pure Node.empty else node supply depth place

/-- Reads the entries of a block sequence up to its end. -/
def blockItems : (supply depth : Nat) → Compose (List Node)
  | 0, _ => throw .tooDeep
  | supply + 1, depth => do
    if ← skipIf .blockEntry then
      let item ← nodeUnless supply depth [.blockEntry, .blockEnd] .block
      return item :: (← blockItems supply depth)
    else if ← skipIf .blockEnd then pure []
    else fail .unclosedCollection

/-- Reads the entries of a sequence that is not indented. -/
def indentlessItems : (supply depth : Nat) → Compose (List Node)
  | 0, _ => throw .tooDeep
  | supply + 1, depth => do
    if ← skipIf .blockEntry then
      let item ← nodeUnless supply depth [.blockEntry, .key, .value, .blockEnd] .block
      return item :: (← indentlessItems supply depth)
    else pure []

/-- Reads the entries of a block mapping up to its end. -/
def blockEntries : (supply depth : Nat) → Compose (List (Node × Node))
  | 0, _ => throw .tooDeep
  | supply + 1, depth => do
    if ← skipIf .key then
      let stops := [.key, .value, .blockEnd]
      let key ← nodeUnless supply depth stops .afterIndicator
      let value ← valueUnless supply depth stops .afterIndicator
      return (key, value) :: (← blockEntries supply depth)
    else if ← skipIf .blockEnd then pure []
    else fail .unclosedCollection

/-- Reads the value of an entry; it may be left out, and it may be empty. -/
def valueUnless : (supply depth : Nat) → List Token → Place → Compose Node
  | 0, _, _, _ => throw .tooDeep
  | supply + 1, depth, stops, place => do
    if ← skipIf .value then nodeUnless supply depth stops place else pure Node.empty

/-- Reads the items of a flow sequence up to its end.  An item with a key is a mapping of its own. -/
def flowItems : (supply depth : Nat) → (isFirst : Bool) → Compose (List Node)
  | 0, _, _ => throw .tooDeep
  | supply + 1, depth, isFirst => do
    if ← skipIf .flowSequenceEnd then pure []
    else
      if !isFirst then
        if !(← skipIf .flowEntry) then fail .unclosedCollection
      if ← skipIf .key then
        match depth with
        | 0 => throw .tooDeep
        | inner + 1 =>
          let key ← nodeUnless supply inner [.value, .flowEntry, .flowSequenceEnd] .flow
          let value ← valueUnless supply inner [.flowEntry, .flowSequenceEnd] .flow
          let item := Node.mapping (← newNumber) .map [(key, value)]
          return item :: (← flowItems supply depth false)
      else if ← skipIf .flowSequenceEnd then pure []
      else
        let item ← node supply depth .flow
        return item :: (← flowItems supply depth false)

/-- Reads the entries of a flow mapping up to its end.  An entry without a key indicator is a key
without a value. -/
def flowEntries : (supply depth : Nat) → (isFirst : Bool) → Compose (List (Node × Node))
  | 0, _, _ => throw .tooDeep
  | supply + 1, depth, isFirst => do
    if ← skipIf .flowMappingEnd then pure []
    else
      if !isFirst then
        if !(← skipIf .flowEntry) then fail .unclosedCollection
      if ← skipIf .key then
        let key ← nodeUnless supply depth [.value, .flowEntry, .flowMappingEnd] .flow
        let value ← valueUnless supply depth [.flowEntry, .flowMappingEnd] .flow
        return (key, value) :: (← flowEntries supply depth false)
      else if ← skipIf .flowMappingEnd then pure []
      else
        let key ← node supply depth .flow
        return (key, Node.empty) :: (← flowEntries supply depth false)

end

/-! ## Documents -/

/-- The tag handles that need no directive. -/
def usualHandles : List (Text × Text) := [("!", "!"), ("!!", Tag.standardStart)]

/-- Reads the directives before a document; `versioned` says that a version has been given. -/
def directives : (supply : Nat) → (versioned : Bool) → List (Text × Text) →
    Compose (List (Text × Text))
  | 0, _, handles => pure handles
  | supply + 1, versioned, handles => do
    match ← peek with
    | some (.versionDirective major) =>
      skip
      if versioned || major ≠ 1 then fail .badDirective else directives supply true handles
    | some (.tagDirective handle start) =>
      skip
      if handles.any fun (known, _) => known = handle then fail .badDirective
      else directives supply versioned (handles ++ [(handle, start)])
    | some .otherDirective =>
      skip
      directives supply versioned handles
    | _ => pure handles

/-- Takes away the marks of a document's end. -/
def skipEnds : (supply : Nat) → Compose Unit
  | 0 => pure ()
  | supply + 1 => do
    if ← skipIf .documentEnd then skipEnds supply

/-- A supply that is enough for a number of tokens. -/
def supplyFor (tokens : Nat) : Nat := 4 * tokens + 8

/-- Reads a document behind the marker of its start: it may be empty. -/
def explicitDocument (supply : Nat) : Compose Node := do
  let handles ← directives supply false []
  modify fun c => { c with handles := handles ++ usualHandles }
  if !(← skipIf .documentStart) then fail .noContent
  match ← peek with
  | none | some (.versionDirective _) | some (.tagDirective ..) | some .otherDirective
  | some .documentStart | some .documentEnd => pure Node.empty
  | _ => node supply nestingLimit .block

/-- Fails since there is something behind a document: the start of another one, or something else. -/
def failBehind (supply : Nat) : Compose Unit := do
  let _ ← directives supply false []
  if (← peek) = some .documentStart then fail .severalDocuments else fail .noContent

/-- Reads the one document of a text; if there is nothing at all, there is none. -/
def document (supply : Nat) : Compose (Option Node) := do
  let root ←
    match ← peek with
    | none => pure none
    | some (.versionDirective _) | some (.tagDirective ..) | some .otherDirective
    | some .documentStart => some <$> explicitDocument supply
    | some _ => some <$> node supply nestingLimit .block
  skipEnds supply
  if (← peek).isSome then failBehind supply
  pure root

end Compose

/-- The node that tokens make up, if there are any; there may be a fault behind them. -/
def compose (tokens : List Token) (blocked : Option Fault) : Except Fault (Option Node) :=
  (Compose.document (Compose.supplyFor tokens.length)).run'
    { tokens, blocked, handles := Compose.usualHandles }

end Yaml
end DashboardSynthesis
