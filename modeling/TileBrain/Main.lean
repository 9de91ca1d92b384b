import TileBrain.Demo

/-! # The command line

Prints the transcript of the demonstration. The brain is kept in a temporary file meanwhile.

All that it says was computed before, but for the path and the size of that file.
-/

namespace TileBrain

/-- Prints lines. -/
def printLines (lines : List String) : IO Unit :=
  lines.forM fun line => IO.println line

/-- Stores the brain in a temporary file, and reads it back. -/
def storeAndReload (brain : Brain) : IO Bool :=
  IO.FS.withTempDir fun directory => do
    let path := directory / Demo.fileName
    IO.FS.writeFile path (brain.render none)
    let octets ← IO.FS.readBinFile path
    IO.println ("  Saved to " ++ path.toString ++ " (" ++ toString octets.size ++ " bytes)")
    return Demo.isRestored brain (Demo.options.decodeOctets octets.data.toList)

def runDemo : IO UInt32 := do
  printLines Demo.heading
  match Demo.authored with
  | .error fault =>
    printLines (Demo.failure fault)
    return 1
  | .ok brain =>
    let (before, issueCount) := Demo.linesBefore brain
    printLines before
    let restored ← storeAndReload brain
    let (after, code) := Demo.linesAfter issueCount restored
    printLines after
    return code.toUInt32

end TileBrain

def main : IO UInt32 := TileBrain.runDemo
