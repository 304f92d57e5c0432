/-!
# File paths

A path is kept as it is spelled, since messages show it that way.  Two paths are compared by their
components: repeated slashes, a slash at the end and a dot inside a path do not count, while a dot
at the beginning does.  Components are ordered by what they are before they are ordered by name, and
paths are ordered by their components like words by their letters; so everything in a directory
stands together, and `a/b` comes before `a-b`.
-/

namespace DocSite

/-- A path as it is spelled. -/
structure FilePath where
  text : String
  deriving DecidableEq

namespace FilePath

/-- What a path is made of, from the outside in. -/
inductive Component where
  | root
  | current
  | parent
  | name (name : String)
  deriving DecidableEq

namespace Component

def rank : Component → Nat
  | root => 0
  | current => 1
  | parent => 2
  | name _ => 3

/-- The name of a component that has one. -/
def nameOf : Component → String
  | name s => s
  | _ => ""

instance : Ord Component where
  compare a b := (compare a.rank b.rank).then (compare a.nameOf b.nameOf)

/-- The component of a piece that does not begin a path. -/
def ofPiece : String → Option Component
  | "" => none
  | "." => none
  | ".." => some parent
  | s => some (name s)

end Component

/-- The pieces of a text between its slashes; there is always at least one. -/
def split : List Char → List (List Char)
  | [] => [[]]
  | c :: cs =>
    if c = '/' then [] :: split cs
    else
      match split cs with
      | piece :: pieces => (c :: piece) :: pieces
      | [] => [[c]]

def pieces (p : FilePath) : List String := (split p.text.toList).map String.ofList

/-- The number of bytes that a path has to stay below. -/
def sizeLimit : Nat := 4096

/-- Whether a path is short enough to be followed. -/
def fits (p : FilePath) : Bool := p.text.utf8ByteSize < sizeLimit

/-- Whether something can be made under a path: it is short enough and has no null character. -/
def isWritable (p : FilePath) : Bool := p.fits && p.text.toList.all (fun c => c ≠ Char.ofNat 0)

/-- Whether a path starts at the root of the file system. -/
def isAbsolute (p : FilePath) : Bool := p.text.toList.head? = some '/'

def components (p : FilePath) : List Component :=
  match p.pieces with
  | "" :: next :: rest => .root :: (next :: rest).filterMap Component.ofPiece
  | "." :: rest => .current :: rest.filterMap Component.ofPiece
  | pieces => pieces.filterMap Component.ofPiece

instance : Ord FilePath where
  compare p q := compare p.components q.components

/-- Whether two paths are one up to spelling. -/
def same (p q : FilePath) : Bool := p.components = q.components

/-- A path below a directory.  An absolute path is below none and stays what it is. -/
def join (dir : FilePath) (path : String) : FilePath :=
  if FilePath.isAbsolute ⟨path⟩ || dir.text.isEmpty then ⟨path⟩
  else if dir.text.toList.getLast? = some '/' then ⟨dir.text ++ path⟩
  else ⟨dir.text ++ "/" ++ path⟩

/-- The directory that a path has its last piece in.  Dots and slashes before that piece are left
out, except at the beginning. -/
def parent (p : FilePath) : FilePath :=
  match p.pieces.dropLast with
  | [] => ⟨""⟩
  | first :: rest =>
    let inner := (rest.reverse.dropWhile fun piece => piece = "" || piece = ".").reverse
    if first = "" && inner = [] then ⟨"/"⟩ else ⟨"/".intercalate (first :: inner)⟩

/-- What follows the last dot of a file name, if something stands before that dot. -/
def extension? (name : String) : Option String :=
  let backward := name.toList.reverse
  match backward.dropWhile (· ≠ '.') with
  | [] => none
  | [_] => none
  | _ :: _ :: _ => some (String.ofList (backward.takeWhile (· ≠ '.')).reverse)

/-- Removes from a sorted list each path that is, up to spelling, the one before it. -/
def dedup : List FilePath → List FilePath
  | [] => []
  | p :: rest =>
    p :: match dedup rest with
      | [] => []
      | q :: others => if p.same q then others else q :: others

/-- The paths in order, each once, in the spelling that came first. -/
def sorted (paths : List FilePath) : List FilePath :=
  dedup (paths.mergeSort fun p q => (compare p q).isLE)

end FilePath

end DocSite
