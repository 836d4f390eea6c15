import TextTemplate.Files

/-!
# Trees of files

Files and directories held in memory, with the rules by which a path leads to one of them.

* `FileTree.walk` follows names step by step. Every step needs a directory to start from, also a
  step that stays where it is; what the last step leads to may be missing.
* `FileTree.read` gives the octets of a file or the reason why there are none.
* `FileTree.write` puts a file or a directory in its place, with the directories above it, and
  `FileTree.remove?` takes a file away. A write that cannot be done changes nothing more than the
  directories above its place.
-/

namespace TextTemplate

/-- What lies at a location in a tree. -/
inductive FileTree.Node where
  | file (octets : List UInt8)
  | directory
deriving DecidableEq, Repr

/-- The directories that are always there: the working directory, the ones so many levels above
it, and the topmost one. How many levels lie between them is not known. -/
inductive FileTree.Base where
  | aboveWorking (levels : Nat)
  | topmost
deriving DecidableEq, Repr

/-- A location: the names that lead down to it from a base. -/
structure FileTree.Location where
  base : FileTree.Base
  names : List String
deriving DecidableEq, Repr

/-- Files and directories by their locations. The bases need no entry. -/
structure FileTree where
  entries : List (FileTree.Location × FileTree.Node) := []
deriving DecidableEq, Repr

namespace FileTree

/-! ## Locations -/

/-- The working directory. -/
def Location.working : Location := { base := .aboveWorking 0, names := [] }

/-- The topmost directory. -/
def Location.top : Location := { base := .topmost, names := [] }

/-- The location one level up. Nothing lies above the topmost directory. -/
def Location.up : Location → Location
  | { base := .aboveWorking levels, names := [] } =>
    { base := .aboveWorking (levels + 1), names := [] }
  | { base := base, names := names } => { base := base, names := names.dropLast }

/-- The location of a name in a directory. -/
def Location.child (location : Location) (name : String) : Location :=
  { location with names := location.names ++ [name] }

/-! ## Contents -/

/-- What lies at a location. -/
def node? (tree : FileTree) (location : Location) : Option Node :=
  if location.names = [] then some .directory else tree.entries.lookup location

/-- The tree without what lies at a location. -/
def erase (tree : FileTree) (location : Location) : FileTree :=
  { entries := tree.entries.filter (·.1 ≠ location) }

/-- The tree with a node at a location. -/
def insert (tree : FileTree) (location : Location) (node : Node) : FileTree :=
  { entries := (location, node) :: (tree.erase location).entries }

/-! ## Following a path -/

/-- The longest name, in octets. -/
def maxNameSize : Nat := 255

/-- The longest path, in octets. -/
def maxPathSize : Nat := 4095

/-- Whether a name stands for the directory it is looked up in. -/
def isIdleName (name : String) : Bool := isIdleStep name.toList

/-- Takes one step. -/
def step (tree : FileTree) (location : Location) (name : String) : Except FileError Location :=
  match tree.node? location with
  | none => .error .notFound
  -- Nothing lies below a file, and a step that stays where it is needs a directory as well.
  | some (.file _) => .error .notDirectory
  | some .directory =>
    if isIdleName name then .ok location
    else if name = ".." then .ok location.up
    else if maxNameSize < name.utf8ByteSize then .error .nameTooLong
    else .ok (location.child name)

/-- Takes steps one after the other. -/
def walk (tree : FileTree) : Location → List String → Except FileError Location
  | location, [] => .ok location
  | location, name :: names =>
    match tree.step location name with
    | .error e => .error e
    | .ok next => walk tree next names

/-- The names that a path spells, if it can be the path of anything. -/
def namesOf (path : String) : Except FileError (List String) :=
  if path.toList.contains '\x00' then .error .nulInName
  else if path = "" then .error .notFound
  else if maxPathSize < path.utf8ByteSize then .error .nameTooLong
  else .ok ((Text.splitOn '/' path.toList).map String.ofList)

/-- Where a path with these names starts: a slash in front of it leads to the topmost directory. -/
def start (names : List String) : Location :=
  if names.head? = some "" then .top else .working

/-- The location that a path leads to. -/
def locate (tree : FileTree) (path : String) : Except FileError Location :=
  match namesOf path with
  | .error e => .error e
  | .ok names => tree.walk (start names) names

/-- The octets of the file that a path leads to. -/
def read (tree : FileTree) (path : String) : Except FileError (List UInt8) :=
  match tree.locate path with
  | .error e => .error e
  | .ok location =>
    match tree.node? location with
    | none => .error .notFound
    | some .directory => .error .isDirectory
    | some (.file octets) => .ok octets

/-! ## Changes -/

/-- A list without the names at its end that satisfy `p`. -/
def dropEndNames (p : String → Bool) (names : List String) : List String :=
  (names.reverse.dropWhile p).reverse

/-- The path of the directory that holds what a path names, empty where that is a base. -/
def parentPath (path : String) : String :=
  let names := dropEndNames isIdleName ((Text.splitOn '/' path.toList).map String.ofList)
  "/".intercalate (dropEndNames isIdleName names.dropLast)

/-- Walks along names and makes the directories that are missing, as far as that can be done. -/
def descend (tree : FileTree) : Location → List String → FileTree
  | _, [] => tree
  | location, name :: names =>
    match tree.step location name with
    | .error _ => tree
    | .ok next =>
      match tree.node? next with
      | none => descend (tree.insert next .directory) next names
      | some _ => descend tree next names

/-- Makes the directories along a path that are missing. -/
def makeDirectories (tree : FileTree) (path : String) : FileTree :=
  match namesOf path with
  | .error _ => tree
  | .ok names => tree.descend (start names) names

/-- Where a node can be put for a path. A slash at the end is allowed for a directory only. -/
def placeFor (tree : FileTree) (path : String) (node : Node) : Except FileError Location :=
  match namesOf path with
  | .error e => .error e
  | .ok names =>
    match node with
    | .file _ => tree.walk (start names) names
    | .directory => tree.walk (start names) (dropEndNames (· = "") names)

/-- Puts a file or a directory at a path, and the directories above it. A file takes the place of
a file, and nothing else is replaced. -/
def write (tree : FileTree) (path : String) (node : Node) : FileTree :=
  let tree := tree.makeDirectories (parentPath path)
  match tree.placeFor path node with
  | .error _ => tree
  | .ok location =>
    match tree.node? location, node with
    | none, _ => tree.insert location node
    | some (.file _), .file _ => tree.insert location node
    | some _, _ => tree

/-- Takes away the file that a path leads to, if it leads to one. The directories above stay. -/
def remove? (tree : FileTree) (path : String) : Option FileTree :=
  match tree.locate path with
  | .error _ => none
  | .ok location =>
    match tree.node? location with
    | some (.file _) => some (tree.erase location)
    | _ => none

end FileTree

end TextTemplate
