import DocSite.Markup.Node

/-!
# Pages

A site is a tree of pages.  The location of a page is the row of segments from the package down to
the page itself; each segment is made from the kind of the page and its name, in such a way that a
module and a module type of one name do not meet.
-/

namespace DocSite

/-- The segments of a page, from the package down. -/
abbrev PagePath := List String

/-- What a page documents. -/
inductive PageKind where
  | package
  | unit
  | page
  | «module»
  | moduleType
  | «class»
  | classType
  | argument
  deriving DecidableEq

namespace PageKind

/-- The segment of a page.  The name of an argument already carries its position. -/
def segment (kind : PageKind) (name : String) : String :=
  match kind with
  | package | unit | page | «module» => name
  | moduleType => "module-type-" ++ name
  | «class» => "class-" ++ name
  | classType => "class-type-" ++ name
  | argument => "argument-" ++ name

/-- The file that a link to a directory names; with semantic addresses it names none. -/
def indexFile (semantic : Bool) : String := if semantic then "" else "index.html"

/-- The link from a page to its child. -/
def hrefBelow (kind : PageKind) (name : String) (semantic : Bool) : String :=
  kind.segment name ++ "/" ++ indexFile semantic

/-- How the title of such a page begins. -/
def title : PageKind → String
  | package => "Package"
  | unit | «module» => "Module"
  | page => "Page"
  | moduleType => "Module type"
  | «class» => "Class"
  | classType => "Class type"
  | argument => "Parameter"

end PageKind

/-- A heading listed at the top of a page. -/
structure ContentsEntry where
  level : UInt8
  anchor : String
  text : String
  deriving DecidableEq

/-- A page and the pages below it.  `name` is the last segment of `path`. -/
structure Page where
  name : String
  kind : PageKind
  path : PagePath
  title : String
  header : Markup
  toc : List ContentsEntry
  body : Markup
  children : List Page

namespace Page

/-- The file of a page, relative to the directory of the site. -/
def file (p : Page) : String := "/".intercalate p.path ++ "/index.html"

mutual

/-- How many pages a tree has. -/
def count : Page → Nat
  | ⟨_, _, _, _, _, _, _, children⟩ => 1 + countAll children

@[inherit_doc count]
def countAll : List Page → Nat
  | [] => 0
  | p :: ps => p.count + countAll ps

end

mutual

/-- All pages of a tree, each before the pages below it. -/
def pages : Page → List Page
  | ⟨name, kind, path, title, header, toc, body, children⟩ =>
    ⟨name, kind, path, title, header, toc, body, children⟩ :: pagesAll children

@[inherit_doc pages]
def pagesAll : List Page → List Page
  | [] => []
  | p :: ps => p.pages ++ pagesAll ps

end

theorem pages_eq_cons (p : Page) : p.pages = p :: pagesAll p.children := by
  cases p
  rfl

theorem sublist_pagesAll {c : Page} : ∀ {ps : List Page}, c ∈ ps → c.pages.Sublist (pagesAll ps)
  | p :: ps, h => by
    rw [pagesAll]
    rcases List.mem_cons.mp h with rfl | h
    · exact List.sublist_append_left _ _
    · exact (sublist_pagesAll h).trans (List.sublist_append_right _ _)

/-- The first child with a given segment. -/
def child? (p : Page) (segment : String) : Option Page :=
  p.children.find? fun c => c.name == segment

end Page

end DocSite
