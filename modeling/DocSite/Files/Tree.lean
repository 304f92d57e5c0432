import DocSite.Files.Path

/-!
# File trees

What a file system holds, as far as it is known: files and directories at their places, and the
directory that relative paths start from.  A path is followed piece by piece, and at every piece
there has to be a directory to stand in; a slash at the end asks for a directory too.  A path that
is too long is not followed at all.  The working directory and everything above it are always
directories.
-/

namespace DocSite

/-- What a file holds. -/
inductive FileContent where
  | text (text : String)
  | binary (bytes : ByteArray)

namespace FileContent

/-- The content with the given bytes: text where they encode one. -/
def ofBytes (bytes : ByteArray) : FileContent :=
  match String.fromUTF8? bytes with
  | some s => text s
  | none => binary bytes

def text? : FileContent → Option String
  | text s => some s
  | binary _ => none

end FileContent

/-- The name of a file or a directory: text, or bytes that encode none. -/
inductive FileName where
  | text (text : String)
  | binary (bytes : ByteArray) (invalid : ¬ bytes.IsValidUTF8)

namespace FileName

instance : DecidableEq FileName
  | text a, text b => decidable_of_iff (a = b) ⟨congrArg text, text.inj⟩
  | binary a _, binary b _ =>
    match ByteArray.instDecidableEq a b with
    | isTrue h => isTrue (by subst h; rfl)
    | isFalse h => isFalse fun heq => h (binary.inj heq)
  | text _, binary _ _ => isFalse FileName.noConfusion
  | binary _ _, text _ => isFalse FileName.noConfusion

instance : Coe String FileName := ⟨text⟩

/-- Whether a name is short enough for something new to be given it. -/
def fits : FileName → Bool
  | text s => s.utf8ByteSize ≤ 255
  | binary bytes _ => bytes.size ≤ 255

end FileName

/-- The names on the way from the root of the file system. -/
abbrev Place := List FileName

/-- The text of a row of names, if each of them is text. -/
def Place.texts? : Place → Option (List String)
  | [] => some []
  | .text s :: rest => (texts? rest).map (s :: ·)
  | .binary _ _ :: _ => none

/-- What is at a place: a file with its content, or a directory. -/
inductive FileEntry where
  | file (content : FileContent)
  | directory

structure FileTree where
  /-- Where relative paths start. -/
  working : Place
  entries : List (Place × FileEntry) := []

namespace FileTree

/-- What is at a place, if anything is. -/
def at? (t : FileTree) (place : Place) : Option FileEntry :=
  if place.isPrefixOf t.working then some .directory else t.entries.lookup place

def isDirectoryAt (t : FileTree) (place : Place) : Bool :=
  match t.at? place with
  | some .directory => true
  | _ => false

/-! ## Following a path -/

/-- The place one piece further.  The root is its own parent. -/
def step (place : Place) : String → Place
  | "" => place
  | "." => place
  | ".." => place.dropLast
  | name => place ++ [.text name]

/-- The place at the end of some pieces, if there is a directory at each place before it. -/
def follow (t : FileTree) (place : Place) : List String → Option Place
  | [] => some place
  | piece :: rest => if t.isDirectoryAt place then t.follow (step place piece) rest else none

/-- Where a path starts. -/
def origin (t : FileTree) (p : FilePath) : Place := if p.isAbsolute then [] else t.working

/-- The place that a path names.  The empty path names none, and neither does one that is too
long. -/
def resolve (t : FileTree) (p : FilePath) : Option Place :=
  if p.text.isEmpty || !p.fits then none else t.follow (t.origin p) p.pieces

def find? (t : FileTree) (p : FilePath) : Option FileEntry := (t.resolve p).bind t.at?

def isDirectory (t : FileTree) (p : FilePath) : Bool :=
  match t.find? p with
  | some .directory => true
  | _ => false

/-- The text of a file, if there is a file and it holds text. -/
def read? (t : FileTree) (p : FilePath) : Option String :=
  match t.find? p with
  | some (.file content) => content.text?
  | _ => none

/-! ## Walking a directory -/

/-- What is left of a place below another. -/
def below? : Place → Place → Option Place
  | [], rest => some rest
  | a :: dir, b :: place => if a = b then below? dir place else none
  | _ :: _, [] => none

/-- Whether some names lead down from a place: there is a directory wherever one of them stands. -/
def leadsDown (t : FileTree) (place : Place) : Place → Bool
  | [] => true
  | name :: rest => t.isDirectoryAt place && t.leadsDown (place ++ [name]) rest

/-- The way from a directory down to a file, if the place is that of a file which can be reached
from there. -/
def wayDown? (t : FileTree) (dir place : Place) : Option Place :=
  match below? dir place, t.at? place with
  | some way, some (.file _) => if t.leadsDown dir way then some way else none
  | _, _ => none

/-- The ways from a directory down to the files in it, at any depth. -/
def filesBelow (t : FileTree) (dir : Place) : List Place :=
  t.entries.filterMap fun e => t.wayDown? dir e.1

/-! ## Writing -/

/-- The tree with something else at a place. -/
def put (t : FileTree) (place : Place) (entry : FileEntry) : FileTree :=
  { t with entries := t.entries.filter (fun e => e.1 ≠ place) ++ [(place, entry)] }

/-- The tree with a directory at a place, unless a file is there. -/
def makeDirectory (t : FileTree) (place : Place) : Option FileTree :=
  match t.at? place with
  | some .directory => some t
  | some (.file _) => none
  | none => if (place.getLast?.getD "").fits then some (t.put place .directory) else none

/-- Follows some pieces and makes every directory that is missing on the way.  Where one of them
cannot be made, those before it stay, and no place is reached. -/
def makeDirectories (t : FileTree) (place : Place) : List String → FileTree × Option Place
  | [] => (t, some place)
  | piece :: rest =>
    match t.makeDirectory (step place piece) with
    | none => (t, none)
    | some t' => t'.makeDirectories (step place piece) rest

/-- The tree with a file at a place, unless a directory is there. -/
def writeFile (t : FileTree) (place : Place) (content : FileContent) : Option FileTree :=
  match t.at? place with
  | some .directory => none
  | _ => if (place.getLast?.getD "").fits then some (t.put place (.file content)) else none

/-- The tree with the directory that a path names and all that are missing above it, and whether it
is there.  If the path ends in a dot, its last name is not made: it has to be there once the
directories above it are. -/
def ensureDirectory (t : FileTree) (p : FilePath) : FileTree × Bool :=
  if p.text.isEmpty || t.isDirectory p then (t, true)
  else if !p.isWritable then (t, false)
  else
    match p.pieces.reverse.dropWhile (· = "") with
    | "." :: above =>
      let above := above.dropWhile fun piece => piece = "" || piece = "."
      let made := t.makeDirectories (t.origin p) above.tail.reverse
      (made.1, made.2.isSome && made.1.isDirectory p)
    | _ =>
      let made := t.makeDirectories (t.origin p) p.pieces
      (made.1, made.2.isSome)

/-- Stores a file under a path, with all the directories that its path needs, and says whether it
could be stored.  Directories that were made for it stay even if it could not. -/
def store (t : FileTree) (p : FilePath) (content : FileContent) : FileTree × Bool :=
  if p.parent.isWritable then
    match t.makeDirectories (t.origin p) p.pieces.dropLast with
    | (t', none) => (t', false)
    | (t', some dir) =>
      let place := step dir (p.pieces.getLast?.getD "")
      match if p.isWritable then t'.writeFile place content else none with
      | none => (t', false)
      | some t'' => (t'', true)
  else (t, false)

end FileTree

end DocSite
