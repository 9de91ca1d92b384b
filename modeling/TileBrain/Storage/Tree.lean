import TileBrain.Keyed
import TileBrain.Storage.Path

/-! # Trees of files

Directories and files below a start. A path is followed component by component, so every component
but the last has to lead to a directory, also one that the next component leaves again. What goes
wrong is a cause; its wording is a function of it.
-/

namespace TileBrain

inductive Node where
  | directory
  | file (octets : List UInt8)
  deriving DecidableEq

/-- What a tree can refuse. -/
inductive PathFault where
  | missing
  | occupied
  | notDirectory
  | isDirectory
  | tooLong
  /-- A NUL character in the path. -/
  | nul
  deriving DecidableEq

/-- The wording of a fault at a path. -/
def PathFault.message (fault : PathFault) (path : RelativePath) : String :=
  let numbered (number : Nat) (wording : String) : String :=
    "[Errno " ++ toString number ++ "] " ++ wording ++ ": " ++ Text.quoted path.display
  match fault with
  | .missing => numbered 2 "No such file or directory"
  | .occupied => numbered 17 "File exists"
  | .notDirectory => numbered 20 "Not a directory"
  | .isDirectory => numbered 21 "Is a directory"
  | .tooLong => numbered 36 "File name too long"
  | .nul => "embedded null byte"

/-- A fault, and the path that it was met at. -/
structure FileFault where
  path : RelativePath
  fault : PathFault
  deriving DecidableEq

def FileFault.message (fault : FileFault) : String := fault.fault.message fault.path

/-- What was made below the start, or below a directory above it. -/
structure FileTree where
  nodes : List (Place × Node)

namespace FileTree

/-- Nothing was made yet. -/
def empty : FileTree := ⟨[]⟩

/-- A component may take this many octets. -/
def longestName : Nat := 255

/-- A whole path may take this many octets. -/
def longestPath : Nat := 4095

/-- What is at a place. The start and the places above it are directories. -/
def node? (tree : FileTree) (place : Place) : Option Node :=
  if place.names.isEmpty then some .directory else Keyed.get? tree.nodes place

/-- Puts a node at a place. -/
def put (tree : FileTree) (place : Place) (node : Node) : FileTree :=
  ⟨Keyed.put place node tree.nodes⟩

/-- Whether the text of a path is acceptable at all. -/
def checkText (path : RelativePath) : Except PathFault Unit :=
  if path.display.contains '\x00' then .error .nul
  else if longestPath < path.display.utf8ByteSize then .error .tooLong
  else .ok ()

/-- Follows components from a directory to what they lead to. -/
def follow (tree : FileTree) (place : Place) : List String → Except PathFault (Place × Node)
  | [] =>
    match tree.node? place with
    | some node => .ok (place, node)
    | none => .error .missing
  | component :: rest =>
    match tree.node? place with
    | none => .error .missing
    | some (.file _) => .error .notDirectory
    | some .directory =>
      if component = RelativePath.upward then tree.follow place.up rest
      else if longestName < component.utf8ByteSize then .error .tooLong
      else tree.follow (place.child component) rest

/-- What a path leads to. -/
def resolve (tree : FileTree) (path : RelativePath) : Except PathFault (Place × Node) := do
  checkText path
  tree.follow .start path.components

/-- Whether a path leads to a directory. -/
def isDirectory (tree : FileTree) (path : RelativePath) : Bool :=
  match tree.resolve path with
  | .ok (_, .directory) => true
  | _ => false

/-- The place that a path names in an existing directory, if it ends with a name. -/
def destination? (tree : FileTree) (path : RelativePath) : Except PathFault (Option Place) := do
  checkText path
  match path.components.getLast? with
  | none => return none
  | some name =>
    match ← tree.follow .start path.components.dropLast with
    | (_, .file _) => throw .notDirectory
    | (directory, .directory) =>
      if name = RelativePath.upward then return none
      else if longestName < name.utf8ByteSize then throw .tooLong
      else return some (directory.child name)

/-- Makes one directory, in one that exists. -/
def makeDirectory (tree : FileTree) (path : RelativePath) : Except PathFault FileTree := do
  match ← tree.destination? path with
  | none => throw .occupied
  | some place =>
    match tree.node? place with
    | some _ => throw .occupied
    | none => return tree.put place .directory

/-- Makes one directory, unless it is there. -/
def ensureDirectory (tree : FileTree) (path : RelativePath) : FileTree × Except FileFault Unit :=
  match tree.makeDirectory path with
  | .ok tree => (tree, .ok ())
  | .error fault => (tree, if tree.isDirectory path then .ok () else .error ⟨path, fault⟩)

/-- Makes a directory and those on the way to it, the last component coming first here. What was
made before a fault stays. -/
def ensureDirectoriesUpward (tree : FileTree) :
    List String → FileTree × Except FileFault Unit
  | [] => tree.ensureDirectory ⟨[]⟩
  | last :: before =>
    let path : RelativePath := ⟨(last :: before).reverse⟩
    match tree.makeDirectory path with
    | .error .missing =>
      match tree.ensureDirectoriesUpward before with
      | (tree, .ok ()) => tree.ensureDirectory path
      | (tree, .error fault) => (tree, .error fault)
    | _ => tree.ensureDirectory path

/-- Makes the directory that a path is in, and those on the way to it. -/
def ensureParent (tree : FileTree) (path : RelativePath) : FileTree × Except FileFault Unit :=
  tree.ensureDirectoriesUpward path.components.dropLast.reverse

/-- Writes a file in an existing directory, and answers its place. -/
def writeFile (tree : FileTree) (path : RelativePath) (octets : List UInt8) :
    Except PathFault (FileTree × Place) := do
  match ← tree.destination? path with
  | none => throw .isDirectory
  | some place =>
    match tree.node? place with
    | some .directory => throw .isDirectory
    | _ => return (tree.put place (.file octets), place)

/-- Writes a file and makes the directories on the way to it. -/
def write (tree : FileTree) (path : RelativePath) (octets : List UInt8) :
    FileTree × Except FileFault Place :=
  match tree.ensureParent path with
  | (tree, .error fault) => (tree, .error fault)
  | (tree, .ok ()) =>
    match tree.writeFile path octets with
    | .ok (tree, place) => (tree, .ok place)
    | .error fault => (tree, .error ⟨path, fault⟩)

/-- The octets of the file that a path leads to. -/
def read (tree : FileTree) (path : RelativePath) : Except PathFault (List UInt8) := do
  match ← tree.resolve path with
  | (_, .file octets) => return octets
  | (_, .directory) => throw .isDirectory

end FileTree

end TileBrain
