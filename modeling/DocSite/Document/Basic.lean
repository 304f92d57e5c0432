import DocSite.Document.Stylesheet
import DocSite.Markup.Html
import DocSite.Site.Href

/-!
# Documents

A page as a complete HTML document.  The document is a fixed skeleton with gaps.  A gap takes either
a text of the page, which is escaped, or HTML that has been made before; the skeleton itself is only
repeated, once for each page above this one and once for each entry of the table of contents.
-/

namespace DocSite

/-- A page above the current one, as the navigation names it. -/
structure Crumb where
  name : String
  href : String
  deriving DecidableEq

/-- The pages above a page, outermost first: one for each segment but the first, since the package
has no page, and the last, which is the page itself. -/
def PagePath.crumbs (path : PagePath) : List Crumb :=
  let depth := path.length
  ((path.zipIdx.take (depth - 1)).drop 1).map fun segment =>
    ⟨segment.1, climb (depth - 1 - segment.2) ++ "index.html"⟩

namespace Document

/-- A part of a document: of the skeleton, a text to be escaped, or finished HTML. -/
inductive Part where
  | fixed (text : String)
  | text (text : String)
  | html (html : String)

def Part.write : Part → List Char
  | fixed s => s.toList
  | text s => (Escape.slot s).toList
  | html s => s.toList

/-- The link to a page above. -/
def crumbParts (c : Crumb) : List Part :=
  [.fixed "<a href=\"", .html c.href, .fixed "\">", .text c.name, .fixed "</a> &#x00BB; "]

/-- An entry of the table of contents. -/
def entryParts (e : ContentsEntry) : List Part :=
  [.fixed "\n      <li class=\"toc-level-", .text (toString e.level.toNat),
    .fixed "\"><a href=\"#", .text e.anchor, .fixed "\">", .text e.text, .fixed "</a></li>\n    "]

/-- The table of contents, if there are entries. -/
def tocParts : List ContentsEntry → List Part
  | [] => []
  | entries =>
    .fixed "\n  <nav class=\"odoc-toc\">\n    <ul>\n    " :: entries.flatMap entryParts ++
      [.fixed "\n    </ul>\n  </nav>\n  "]

/-- The whole document of a page. -/
def parts (p : Page) : List Part :=
  [.fixed "<!DOCTYPE html>\n<html lang=\"en\">\n<head>\n  <meta charset=\"utf-8\">\n",
    .fixed "  <meta name=\"viewport\" content=\"width=device-width, initial-scale=1\">\n  <title>",
    .text p.title, .fixed "</title>\n  <link rel=\"stylesheet\" href=\"",
    .html (climb p.path.length),
    .fixed "odoc.css\">\n</head>\n<body class=\"odoc\">\n  <nav class=\"odoc-nav\">\n    "] ++
  p.path.crumbs.flatMap crumbParts ++
  [.text p.name, .fixed "\n  </nav>\n  <header class=\"odoc-preamble\">\n    <h1>",
    .text p.title, .fixed "</h1>\n    ", .html (Markup.toHtml p.header),
    .fixed "\n  </header>\n  "] ++
  tocParts p.toc ++
  [.fixed "\n  <div class=\"odoc-content\">\n    ", .html (Markup.toHtml p.body),
    .fixed "\n  </div>\n</body>\n</html>\n"]

end Document

/-- The document of a page, without the pages below it. -/
def Page.document (p : Page) : String :=
  String.ofList ((Document.parts p).flatMap Document.Part.write)

end DocSite
