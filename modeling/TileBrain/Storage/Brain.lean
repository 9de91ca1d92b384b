import TileBrain.Decoding
import TileBrain.Storage.Tree
import TileBrain.Text.Utf8

/-! # Stored brains

Brains are kept in files as text. A path that leads nowhere has no brain; one that leads to a
directory is refused by the tree of files.

Saving makes the directories on the way to the file, and they stay even if the file itself is
refused. Loading unifies line ends before it reads the text, and tells a missing file from a faulty
one.
-/

namespace TileBrain

inductive StorageError where
  /-- The path does not lead to anything. -/
  | noBrain (path : RelativePath)
  | file (fault : FileFault)
  | text (fault : Text.Utf8Fault)
  | decode (error : DecodeError)

def StorageError.message : StorageError → String
  | .noBrain path => "Brain file not found: " ++ path.display
  | .file fault => fault.message
  | .text fault => fault.message
  | .decode error => error.message

/-- The octets of a text. -/
def octetsOf (text : String) : List UInt8 := text.toUTF8.data.toList

/-- The text in octets. -/
def textOf (octets : List UInt8) : Except StorageError String :=
  (Text.decodeUtf8 octets).mapError .text

/-- The brain in octets. Line ends are unified before its text is read. -/
def DecodeOptions.decodeOctets (options : DecodeOptions) (octets : List UInt8) :
    Reported StorageError Brain := do
  let text ← .ofExcept (textOf octets)
  let unified := String.ofList (Text.unifyLineEnds text.toList)
  (options.decodeText unified).mapError .decode

namespace FileTree

/-- The text in the file that a path leads to, line ends as they stand. -/
def readText (tree : FileTree) (path : RelativePath) : Except StorageError String :=
  match tree.read path with
  | .ok octets => textOf octets
  | .error fault => .error (.file ⟨path, fault⟩)

/-- Writes a brain, making directories as needed; what is answered is the place of the file. -/
def saveBrain (tree : FileTree) (path : RelativePath) (brain : Brain) (indent : Option Int) :
    FileTree × Reported StorageError Place :=
  match tree.write path (octetsOf (brain.render indent)) with
  | (tree, .ok place) => (tree, ⟨[.saved path.display], .ok place⟩)
  | (tree, .error fault) => (tree, .fail (.file fault))

/-- Whether a fault only says that a path leads nowhere. -/
def leadsNowhere : PathFault → Bool
  | .missing => true
  | .notDirectory => true
  | .nul => true
  | _ => false

/-- Reads a brain. -/
def loadBrain (tree : FileTree) (path : RelativePath) (options : DecodeOptions) :
    Reported StorageError Brain :=
  match tree.read path with
  | .error fault => .fail (if leadsNowhere fault then .noBrain path else .file ⟨path, fault⟩)
  | .ok octets => do
    let brain ← options.decodeOctets octets
    .note [.loaded path.display]
    pure brain

end FileTree

end TileBrain
