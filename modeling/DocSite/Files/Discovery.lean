import DocSite.Files.Tree

/-!
# Finding interface files

An input is a file, which is taken whatever its name, or a directory, which stands for all the files
in it, at any depth, that are named like interface files and can be reached by their paths.  A file
whose path is not text is passed over: it has a name that is none, or lies below a directory with
such a name.  The files of all inputs are put in order and each is kept once.
-/

namespace DocSite

/-- An input that is neither a file nor a directory. -/
structure InputNotFound where
  input : FilePath
  deriving DecidableEq

def InputNotFound.message (e : InputNotFound) : String := "input not found: " ++ e.input.text

namespace FileTree

/-- Whether names on a way down end in that of an interface file. -/
def hasInterfaceName (names : List String) : Bool :=
  match names.getLast? with
  | some name => FilePath.extension? name = some "json"
  | none => false

/-- The files that an input stands for. -/
def filesOfInput (t : FileTree) (input : FilePath) : Except InputNotFound (List FilePath) :=
  match t.resolve input with
  | none => .error ⟨input⟩
  | some place =>
    match t.at? place with
    | some (.file _) => .ok [input]
    | some .directory =>
      -- a way that is not text is passed over, and so is a path that cannot be followed
      let ways := ((t.filesBelow place).filterMap Place.texts?).filter hasInterfaceName
      let files := ways.map fun names => input.join ("/".intercalate names)
      .ok (files.filter FilePath.fits)
    | none => .error ⟨input⟩

/-- The files of some inputs, one input after another. -/
def filesOfInputs (t : FileTree) : List FilePath → Except InputNotFound (List FilePath)
  | [] => .ok []
  | input :: rest => do return (← t.filesOfInput input) ++ (← t.filesOfInputs rest)

/-- The interface files of some inputs, in order and each once. -/
def interfaceFiles (t : FileTree) (inputs : List FilePath) :
    Except InputNotFound (List FilePath) :=
  (t.filesOfInputs inputs).map FilePath.sorted

end FileTree

end DocSite
