import DocSite.Build.Basic

/-!
# Listing the pages of a site

Instead of being written, the pages can be listed: one line for each page, indented under the page
it belongs to.
-/

namespace DocSite

/-- A page in a listing. -/
structure ListedPage where
  depth : Nat
  file : String
  title : String
  deriving DecidableEq

/-- The line of a page. -/
def ListedPage.line (p : ListedPage) : String :=
  String.ofList (List.replicate (2 * p.depth) ' ') ++ p.file ++ "  " ++ p.title ++ "\n"

namespace Page

mutual

/-- A page and the pages below it, as they are listed. -/
def listed (depth : Nat) : Page → List ListedPage
  | ⟨name, kind, path, title, header, toc, body, children⟩ =>
    ⟨depth, Page.file ⟨name, kind, path, title, header, toc, body, children⟩, title⟩ ::
      listedAll (depth + 1) children

@[inherit_doc listed]
def listedAll (depth : Nat) : List Page → List ListedPage
  | [] => []
  | p :: ps => p.listed depth ++ listedAll depth ps

end

end Page

/-- The pages of some files, and how many of the files have none because of an error. -/
structure Listing where
  pages : List ListedPage := []
  failed : Nat := 0

namespace Listing

def text (l : Listing) : String := String.join (l.pages.map ListedPage.line)

/-- The listing with what became of one more file. -/
def add (l : Listing) : Except FileError Root.Rendered → Listing
  | .ok unit => { l with pages := l.pages ++ unit.page.listed 0 }
  | .error _ => { l with failed := l.failed + 1 }

end Listing

/-- Lists the pages of all interface files of a job. -/
def Job.list (job : Job) (t : FileTree) : Except InputNotFound Listing :=
  (t.interfaceFiles job.inputs).map fun files =>
    (files.map (t.renderFile job.settings)).foldl Listing.add {}

end DocSite
