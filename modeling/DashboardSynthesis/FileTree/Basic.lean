import DashboardSynthesis.FileTree.Path
import DashboardSynthesis.Text.Utf8

/-!
# File trees

A tree says which locations hold a file or a directory.  A location is the list of names that leads
to it from the root, with no `.` and `..` in it, so two paths name the same thing exactly if they lead
to the same location.  The root is always a directory.

`FileTree.resolve` follows a path name by name.  A name in front of another one has to be a
directory, and the first one for which this fails decides on the fault.  `readFile`, `writeFile`,
`makeDirectory` and `makeDirectories` are what the program does with files; of these the last one
reports, with a fault, the tree as it is by then, since it may have made some directories already.
-/

namespace DashboardSynthesis

/-- Why something cannot be done with a path. -/
inductive FileFault where
  | notFound
  | notADirectory
  | isADirectory
  | alreadyThere
  /-- A name, or the whole path, is too long. -/
  | nameTooLong
  /-- The path holds the code point zero. -/
  | nulInName
  /-- The path holds a surrogate that stands for no byte. -/
  | unencodable
  deriving DecidableEq, Repr

/-- What is at a location. -/
inductive Entry where
  | file (contents : ByteArray)
  | directory

/-- The names that lead from the root to a place. -/
abbrev Location := List Text

/-- The files and directories below the root. -/
structure FileTree where
  entries : List (Location × Entry)

namespace FileTree

/-- The tree with nothing below the root. -/
def empty : FileTree := ⟨[]⟩

/-- What is at a location. -/
def get? (tree : FileTree) (loc : Location) : Option Entry :=
  if loc = [] then some .directory
  else (tree.entries.find? fun e => e.1 = loc).map (·.2)

/-- The tree with an entry at a location, in place of what is there. -/
def set (tree : FileTree) (loc : Location) (entry : Entry) : FileTree :=
  ⟨if tree.entries.any fun e => e.1 = loc then
      tree.entries.map fun e => if e.1 = loc then (loc, entry) else e
    else tree.entries ++ [(loc, entry)]⟩

/-! ## Resolving paths -/

/-- The number of bytes of a code point in a name; a surrogate from U+DC80 to U+DCFF stands for a
single byte that is no part of a character. -/
def nameBytes (c : CodePoint) : Nat :=
  match c with
  | .scalar c => c.utf8Size
  | .surrogate _ => 1

/-- The number of bytes of a name or a path. -/
def bytesOf : Text → Nat
  | [] => 0
  | c :: rest => nameBytes c + bytesOf rest

/-- The most bytes that a name may have. -/
def nameLimit : Nat := 255

/-- The most bytes that a path may have. -/
def pathLimit : Nat := 4095

/-- Does a surrogate in a name stand for a byte? -/
def isEncodable : CodePoint → Bool
  | .scalar _ => true
  | .surrogate n => 0x480 ≤ n.val && n.val ≤ 0x4FF

/-- Refuses paths that do not even reach the tree. -/
def checkPath (p : Path) : Except FileFault Unit :=
  let t := p.toText
  if !t.all isEncodable then .error .unencodable
  else if t.contains (.scalar '\x00') then .error .nulInName
  else if pathLimit < bytesOf t then .error .nameTooLong
  else .ok ()

/-- The location to which a name leads from a directory. -/
def step (dir : Location) (name : Text) : Except FileFault Location :=
  if name = ".." then .ok dir.dropLast
  else if nameLimit < bytesOf name then .error .nameTooLong
  else .ok (dir ++ [name])

/-- Follows names that have to be directories. -/
def walk (tree : FileTree) (dir : Location) : List Text → Except FileFault Location
  | [] => .ok dir
  | name :: names => do
    let next ← step dir name
    match tree.get? next with
    | none => .error .notFound
    | some (.file _) => .error .notADirectory
    | some .directory => walk tree next names

/-- The location to which a path leads, as seen from the directory `home`; there need not be
anything. -/
def resolve (tree : FileTree) (home : Location) (p : Path) : Except FileFault Location := do
  checkPath p
  let start := if p.root.isEmpty then home else []
  let above ← walk tree start p.names.dropLast
  match p.names.getLast? with
  | none => pure above
  | some name => step above name

/-- What is at a path. -/
def status (tree : FileTree) (home : Location) (p : Path) : Except FileFault Entry := do
  let place ← tree.resolve home p
  match tree.get? place with
  | some entry => pure entry
  | none => throw .notFound

/-- What is at a path, if that can be found out: only a name that is too long is a fault. -/
def probe (tree : FileTree) (home : Location) (p : Path) : Except FileFault (Option Entry) :=
  match tree.status home p with
  | .ok entry => .ok (some entry)
  | .error .nameTooLong => .error .nameTooLong
  | .error _ => .ok none

/-! ## Reading and writing -/

/-- The contents of the file at a path. -/
def readFile (tree : FileTree) (home : Location) (p : Path) : Except FileFault ByteArray := do
  match ← tree.status home p with
  | .file contents => pure contents
  | .directory => throw .isADirectory

/-- The tree with contents in the file at a path, which is made if there is none. -/
def writeFile (tree : FileTree) (home : Location) (p : Path) (contents : ByteArray) :
    Except FileFault FileTree := do
  let place ← tree.resolve home p
  match tree.get? place with
  | some .directory => throw .isADirectory
  | _ => pure (tree.set place (.file contents))

/-- The tree with a new directory at a path. -/
def makeDirectory (tree : FileTree) (home : Location) (p : Path) : Except FileFault FileTree := do
  let place ← tree.resolve home p
  match tree.get? place with
  | some _ => throw .alreadyThere
  | none => pure (tree.set place .directory)

/-- Accepts the fault that something is there already if that is a directory. -/
def orDirectory (tree : FileTree) (home : Location) (p : Path) :
    Except FileFault FileTree → Except FileFault Unit × FileTree
  | .ok tree' => (.ok (), tree')
  | .error .alreadyThere =>
    match tree.status home p with
    | .ok .directory => (.ok (), tree)
    | _ => (.error .alreadyThere, tree)
  | .error fault => (.error fault, tree)

/-- Makes the directory at the path with the given root and names, last name first, and those above
it that are missing.  A directory that is there already is fine. -/
def makeDirectoriesAt (home : Location) (root : Text) :
    List Text → FileTree → Except FileFault Unit × FileTree
  | [], tree => tree.orDirectory home ⟨root, []⟩ (tree.makeDirectory home ⟨root, []⟩)
  | name :: above, tree =>
    let p : Path := ⟨root, (name :: above).reverse⟩
    match tree.makeDirectory home p with
    | .error .notFound =>
      match makeDirectoriesAt home root above tree with
      | (.error fault, tree) => (.error fault, tree)
      | (.ok (), tree) => tree.orDirectory home p (tree.makeDirectory home p)
    | outcome => tree.orDirectory home p outcome

/-- Makes the directory at a path, and those above it that are missing. -/
def makeDirectories (tree : FileTree) (home : Location) (p : Path) :
    Except FileFault Unit × FileTree :=
  makeDirectoriesAt home p.root p.names.reverse tree

/-! ## Building and listing trees -/

/-- The tree with a file at a location and directories above it. -/
def place (tree : FileTree) (loc : Location) (contents : ByteArray) : FileTree :=
  let above := (List.range loc.length).map fun n => loc.take n
  let withDirectories := above.foldl (fun tree dir =>
    if (tree.get? dir).isSome then tree else tree.set dir .directory) tree
  withDirectories.set loc (.file contents)

/-- The files below a location, by the names behind it. -/
def filesBelow (tree : FileTree) (loc : Location) : List (Location × ByteArray) :=
  tree.entries.filterMap fun (place, entry) =>
    match entry with
    | .directory => none
    | .file contents =>
      if loc.isPrefixOf place then some (place.drop loc.length, contents) else none

end FileTree
end DashboardSynthesis
