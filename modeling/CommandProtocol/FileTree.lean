import CommandProtocol.IoError

/-!
# File trees

A file tree maps places to directories and file contents.  A place is the list of
names that leads to it from the root, which is always a directory.  A path is
text that is followed from the root, name by name.  The working directory is the root, so
a path means the same with and without a slash in front.  The root has directories above
it, which the tree knows nothing else about.
-/

namespace CommandProtocol

/-- A list of names; steps up from the root stand in front of it as `..`. -/
abbrev Place := List String

namespace Place

def isAbove (place : Place) : Bool := place.all (· == "..")

def parent (place : Place) : Place :=
  if place.isAbove then place ++ [".."] else place.dropLast

end Place

instance bytesDecidableEq : DecidableEq ByteArray := fun first second =>
  decidable_of_iff (first.data = second.data) ByteArray.ext_iff.symm

inductive Node where
  | directory
  | file (contents : ByteArray)
  deriving DecidableEq

structure FileTree where
  nodes : List (Place × Node) := []
  deriving DecidableEq

/-- The names of a path; one that ends in a slash can only be a directory. -/
structure Path where
  names : List String
  directoryOnly : Bool
  deriving DecidableEq, Repr

namespace Path

def sizeLimit : Nat := 4096

def nameLimit : Nat := 255

def ofString? (text : String) : Except IoError Path :=
  if text.toList.contains '\x00' then .error .nulInName
  else if sizeLimit ≤ text.utf8ByteSize then .error .nameTooLong
  else .ok
    { names := (text.splitOn "/").filter (· ≠ "")
      directoryOnly := text.endsWith "/" }

end Path

namespace FileTree

def node? (tree : FileTree) (place : Place) : Option Node :=
  if place.isAbove then some .directory else tree.nodes.lookup place

def set (tree : FileTree) (place : Place) (node : Node) : FileTree where
  nodes := (place, node) :: tree.nodes.filter fun entry => entry.1 ≠ place

def enter (tree : FileTree) (place : Place) : Except IoError Unit :=
  match tree.node? place with
  | none => .error .notFound
  | some (.file _) => .error .notDirectory
  | some .directory => .ok ()

def next (place : Place) (name : String) : Except IoError Place :=
  if name = "." then .ok place
  else if name = ".." then .ok place.parent
  else if Path.nameLimit < name.utf8ByteSize then .error .nameTooLong
  else .ok (place ++ [name])

/--
Follow names from a place.  Every name is looked up in a directory; the last one
need not exist.
-/
def follow (tree : FileTree) : Place → List String → Except IoError Place
  | place, [] => .ok place
  | place, name :: rest => do
      tree.enter place
      tree.follow (← next place name) rest

def read (tree : FileTree) (path : String) : Except IoError ByteArray := do
  let path ← Path.ofString? path
  let place ← tree.follow [] path.names
  match tree.node? place with
  | none => .error .notFound
  | some .directory => .error .isDirectory
  | some (.file contents) =>
      if path.directoryOnly then .error .notDirectory else .ok contents

/--
Replace the contents of a file, or create it in an existing directory.  A path that
can only be a directory is refused without a look at its last name.
-/
def write (tree : FileTree) (path : String) (contents : ByteArray) :
    Except IoError FileTree := do
  let path ← Path.ofString? path
  if path.directoryOnly then
    tree.enter (← tree.follow [] path.names.dropLast)
    .error .isDirectory
  else
    let place ← tree.follow [] path.names
    match tree.node? place with
    | some .directory => .error .isDirectory
    | _ => .ok (tree.set place (.file contents))

/-! ## Preparing a tree

These steps succeed as far as they can, and leave the rest of the tree as it was.
-/

def makeAlong (tree : FileTree) : Place → List String → FileTree
  | _, [] => tree
  | place, name :: rest =>
      match next place name with
      | .error _ => tree
      | .ok place =>
          match tree.node? place with
          | none => (tree.set place .directory).makeAlong place rest
          | some .directory => tree.makeAlong place rest
          | some (.file _) => tree

def makeDirectory (tree : FileTree) (path : String) : FileTree :=
  match Path.ofString? path with
  | .error _ => tree
  | .ok path => tree.makeAlong [] path.names

def putFile (tree : FileTree) (path : String) (contents : ByteArray) : FileTree :=
  match Path.ofString? path with
  | .error _ => tree
  | .ok names =>
      let prepared := tree.makeAlong [] (names.names.filter (· ≠ ".")).dropLast
      match prepared.write path contents with
      | .error _ => prepared
      | .ok written => written

def remove (tree : FileTree) (path : String) : FileTree :=
  match Path.ofString? path >>= fun path => tree.follow [] path.names with
  | .error _ => tree
  | .ok place => { nodes := tree.nodes.filter fun entry => !place.isPrefixOf entry.1 }

/-! ## Comparing trees -/

def files (tree : FileTree) : List (Place × ByteArray) :=
  tree.nodes.filterMap fun
    | (place, .file contents) => if place.head? = some ".." then none else some (place, contents)
    | (_, .directory) => none

def changes (before after : FileTree) : List (Place × Option ByteArray) :=
  let written := after.files.filter fun (place, contents) =>
    before.files.lookup place ≠ some contents
  let gone := before.files.filter fun (place, _) => (after.files.lookup place).isNone
  written.map (fun (place, contents) => (place, some contents)) ++
    gone.map fun (place, _) => (place, none)

end FileTree

end CommandProtocol
