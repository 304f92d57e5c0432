import DocSite.Document.Basic
import DocSite.Exchange.Roots
import DocSite.Files.Discovery
import DocSite.Render.Root

/-!
# Interface files and their pages

A job says which inputs to take, how to render them and where the site goes.  Each file is loaded
and rendered on its own: whatever is wrong with one file concerns no other.
-/

namespace DocSite

/-- What is to be done. -/
structure Job where
  inputs : List FilePath
  output : FilePath
  settings : Settings

/-- Why a file has no pages. -/
inductive FileError where
  | unreadable
  | load (error : Root.LoadError)
  | render (file : FilePath) (error : RenderError)

/-- The message about a file that was loaded but not rendered. -/
def FileError.renderMessage (file : FilePath) (error : RenderError) : String :=
  "failed to render " ++ file.text ++ ": " ++ error.message

/-- Loads and renders a file. -/
def FileTree.renderFile (t : FileTree) (settings : Settings) (file : FilePath) :
    Except FileError Root.Rendered :=
  match t.read? file with
  | none => .error .unreadable
  | some text =>
    match Root.load text with
    | .error e => .error (.load e)
    | .ok root => (root.render settings).mapError (.render file)

/-! ## Storing pages -/

/-- What became of storing pages: the tree, the files that were stored, in order, and the number of
pages, unless a file could not be stored. -/
structure StoredPages where
  tree : FileTree
  written : List (FilePath × String)
  count : Option Nat

/-- The same with files that were stored before. -/
def StoredPages.after (s : StoredPages) (files : List (FilePath × String)) : StoredPages :=
  { s with written := files ++ s.written }

/-- Stores a file and goes on from there, unless it cannot be stored. -/
def FileTree.storeThen (t : FileTree) (file : FilePath × String) (next : FileTree → StoredPages) :
    StoredPages :=
  match t.store file.1 (.text file.2) with
  | (t', false) => ⟨t', [], none⟩
  | (t', true) => (next t').after [file]

namespace Page

/-- The document of a page with its path under a directory. -/
def documentFile (page : Page) (output : FilePath) : FilePath × String :=
  (output.join page.file, page.document)

mutual

/-- Stores the document of a page under a directory and then the pages below it, and counts the
pages. -/
def storeTree (output : FilePath) (t : FileTree) : Page → StoredPages
  | ⟨name, kind, path, title, header, toc, body, children⟩ =>
    t.storeThen (documentFile ⟨name, kind, path, title, header, toc, body, children⟩ output)
      fun t' => storeTrees output t' 1 children

/-- Goes on with some pages after others have been stored, whose number is given. -/
def storeTrees (output : FilePath) (t : FileTree) (stored : Nat) : List Page → StoredPages
  | [] => ⟨t, [], some stored⟩
  | child :: rest =>
    let first := storeTree output t child
    match first.count with
    | none => first
    | some n => (storeTrees output first.tree (stored + n) rest).after first.written

end

/-- The stylesheet, which all pages share, with its path under a directory. -/
def stylesheetFile (output : FilePath) : FilePath × String :=
  (output.join Stylesheet.fileName, Stylesheet.text)

/-- Stores the stylesheet and then a page and the pages below it in a directory, which is made
first. -/
def store (page : Page) (t : FileTree) (output : FilePath) : StoredPages :=
  match t.ensureDirectory output with
  | (t', false) => ⟨t', [], none⟩
  | (t', true) => t'.storeThen (stylesheetFile output) fun t'' => page.storeTree output t''

end Page

end DocSite
