import DocSite.CommandLine.Run

/-!
# The program

The outer layer: it takes a picture of the files that a command line names, runs the command line on
the picture, and then writes what came out.
-/

open DocSite

namespace DocSite.Main

/-- Where a path leads if nothing on its way is a link. -/
def placeOf (t : FileTree) (p : FilePath) : Place := p.pieces.foldl FileTree.step (t.origin p)

/-- The content of a file; one that cannot be read holds no text. -/
def contentOf (file : String) : IO FileContent := do
  try return .ofBytes (← IO.FS.readBinFile file)
  catch _ => return .binary ByteArray.empty

/-- Adds what is found at a path to a tree, with everything below it. -/
partial def observe (withContent : Bool) (path : String) (place : Place) (t : FileTree) :
    IO FileTree := do
  let found := (← IO.currentDir) / path
  if ← found.isDir then
    let mut t := t.put place .directory
    for entry in ← found.readDir do
      t ← observe withContent (found / entry.fileName).toString (place ++ [.text entry.fileName]) t
    return t
  else if ← found.pathExists then
    let content ← if withContent then contentOf found.toString else pure (.text "")
    return t.put place (.file content)
  else return t

/-- Adds a path named on the command line, if something is there. -/
def addPath (withContent : Bool) (t : FileTree) (p : FilePath) : IO FileTree := do
  if p.text.isEmpty then return t
  if !(← ((← IO.currentDir) / p.text).pathExists) then return t
  let above := (t.makeDirectories (t.origin p) p.pieces.dropLast).1
  observe withContent p.text (placeOf t p) above

/-- The files that a command line is about. -/
def snapshot (args : List String) : IO FileTree := do
  let working := (FilePath.mk (← IO.currentDir).toString).pieces.foldl FileTree.step []
  match CommandLine.parse args with
  | .error _ => return { working }
  | .ok invocation =>
    let options := invocation.options
    let mut t : FileTree := { working }
    if invocation.command = .build then
      t ← addPath false t (options.output.getD CommandLine.defaultOutput)
    for p in options.inputs ++ options.config.toList do
      t ← addPath true t p
    return t

/-- Writes a file and the directories it needs. -/
def write (p : FilePath) (text : String) : IO Unit := do
  let file := (← IO.currentDir) / p.text
  if let some dir := file.parent then IO.FS.createDirAll dir
  IO.FS.writeFile file text

end DocSite.Main

def main (args : List String) : IO UInt32 := do
  let outcome := CommandLine.run args (← DocSite.Main.snapshot args)
  for (p, text) in outcome.written do
    DocSite.Main.write p text
  IO.print outcome.output
  if let some complaint := outcome.complaint then IO.eprintln complaint
  return outcome.exitCode.toUInt32
