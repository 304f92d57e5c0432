import DocSite.Interface.Signature
import DocSite.Render.Documentation
import DocSite.Site.Scopes

/-!
# Rendering pages

What renders a signature opens and closes pages, leaves warnings, and stops at the first fault of
the interface.  A `Render` takes the open pages and gives back the result, the pages still open and
the warnings it left: the pages and the warnings are there whether or not the result is.

The text of a page needs none of this, it only has to know on which page it stands.  Texts are
therefore `Noted` or `Checked`, and `Render.note` and `Render.check` put them on the current page.
`Render.onPage` is the only way to open a page, and it closes the page on every way out.
-/

namespace DocSite

/-- A note together with the page that it is about. -/
structure Warning where
  page : String
  note : Note

namespace Warning

def message (w : Warning) : String := w.page ++ ": " ++ w.note.message

end Warning

/-- What is left after rendering. -/
structure Outcome (α : Type) where
  result : Except RenderError α
  scopes : Scopes
  warnings : List Warning

/-- Rendering of a part of an interface: it depends on the settings and on the open pages. -/
def Render (α : Type) : Type := Settings → Scopes → Outcome α

namespace Render

variable {α β : Type}

instance : Monad Render where
  pure a := fun _ s => ⟨.ok a, s, []⟩
  bind x f := fun cfg s =>
    let first := x cfg s
    match first.result with
    | .error e => ⟨.error e, first.scopes, first.warnings⟩
    | .ok a =>
      let second := f a cfg first.scopes
      ⟨second.result, second.scopes, first.warnings ++ second.warnings⟩

theorem pure_run (a : α) (cfg : Settings) (s : Scopes) :
    (pure a : Render α) cfg s = ⟨.ok a, s, []⟩ := rfl

theorem bind_run (x : Render α) (f : α → Render β) (cfg : Settings) (s : Scopes) :
    (x >>= f) cfg s =
      match (x cfg s).result with
      | .error e => ⟨.error e, (x cfg s).scopes, (x cfg s).warnings⟩
      | .ok a =>
        ⟨(f a cfg (x cfg s).scopes).result, (f a cfg (x cfg s).scopes).scopes,
          (x cfg s).warnings ++ (f a cfg (x cfg s).scopes).warnings⟩ := rfl

/-- Renders a text on the current page; its notes become warnings, and its fault is one of this
page. -/
def check (f : Here → Checked α) : Render α := fun cfg s =>
  let noted := (f ⟨cfg, s.path⟩).run
  ⟨noted.value.mapError (RenderError.mk s.address), s, noted.notes.map (Warning.mk s.address)⟩

/-- Renders a text that cannot be faulty on the current page. -/
def note (f : Here → Noted α) : Render α := fun cfg s =>
  let noted := f ⟨cfg, s.path⟩
  ⟨.ok noted.value, s, noted.notes.map (Warning.mk s.address)⟩

/-- Renders something on a page below the current one.  The page is left even if rendering fails,
and a failure to render comes before a failure to leave. -/
def onPage (kind : PageKind) (name : String) (body : Render α) : Render α := fun cfg s =>
  let (token, inner) := s.enter kind name
  let out := body cfg inner
  match out.scopes.leave token with
  | .ok outer => ⟨out.result, outer, out.warnings⟩
  | .error e =>
    ⟨out.result.bind fun _ => .error ⟨out.scopes.address, .scope e⟩, out.scopes, out.warnings⟩

/-- The current page with its content. -/
def buildPage (title : String) (header : Markup) (toc : List ContentsEntry) (body : Markup)
    (children : List Page) : Render Page := fun _ s =>
  match s.build title header toc body children with
  | .ok page => ⟨.ok page, s, []⟩
  | .error e => ⟨.error ⟨"site tree", .scope e⟩, s, []⟩

end Render

/-- What rendering a signature contributes to its page: nodes, headings and pages below it. -/
structure Content where
  body : Markup := []
  toc : List ContentsEntry := []
  pages : List Page := []

namespace Content

/-- One content after another. -/
def append (a b : Content) : Content :=
  ⟨a.body ++ b.body, a.toc ++ b.toc, a.pages ++ b.pages⟩

instance : Append Content := ⟨append⟩

/-- The content of an item without a page. -/
def ofNode (node : Node) : Content := ⟨[node], [], []⟩

/-- The content of an item that may have a page. -/
def ofItem (node : Node) (page : Option Page) : Content := ⟨[node], [], page.toList⟩

end Content

/-- Whether the comments between items are shown. -/
inductive Visibility where
  | visible
  | hidden
  deriving DecidableEq

namespace Visibility

/-- A stop marker hides the comments that follow it, or shows them again. -/
def toggle : Visibility → Visibility
  | visible => hidden
  | hidden => visible

end Visibility

/-- The content of a comment between items, if comments are shown. -/
def Docs.comment (here : Here) (visibility : Visibility) (docs : Docs) : Noted Content :=
  match visibility with
  | .hidden => pure {}
  | .visible => do
    let body ← docs.render here
    return ⟨if body.isEmpty then [] else [Markup.block "odoc-comment" body], docs.headings, []⟩

namespace Here

/-- The link to a page below this one. -/
def linkBelow (here : Here) (kind : PageKind) (name label : String) : Node :=
  .link (kind.hrefBelow name here.settings.semanticUris) [.text label]

/-- How an item shows its name and documentation: if it has a page, the name links to the page and
the documentation is cut to its first paragraph, the whole of it being on the page. -/
def heading (here : Here) (kind : PageKind) (name : String) (doc : Docs) (hasPage : Bool) :
    Noted (Node × Markup) :=
  if hasPage then do
    let doc ← doc.renderSynopsis here
    return (here.linkBelow kind name name, doc)
  else do
    let doc ← doc.render here
    return (.text name, doc)

end Here

namespace Render

/-! ## Items and their pages -/

/-- The content of a page with its documentation at the top. -/
def pageOf (title : String) (doc : Docs) (content : Render Content) : Render Page := do
  let header ← note fun here => doc.render here
  let content ← content
  buildPage title header (doc.headings ++ content.toc) content.body content.pages

/-- The page of an item, if it has an expansion.  A fault of the expansion itself is met before its
page is entered. -/
def pageOfExpansion (kind : PageKind) (name : String) (id : Identifier) (doc : Docs) :
    Option (Except Fault (Render Content)) → Render (Option Page)
  | none => pure none
  | some (.error fault) => check fun _ => throw fault
  | some (.ok content) => do
    let page ← onPage kind name (pageOf (kind.title ++ " " ++ id.display) doc content)
    return some page

/-- An item that may have a page: what it is declared as is rendered before its page, and its node
after it. -/
def item {Declared : Type} (kind : PageKind) (name : String) (id : Identifier) (doc : Docs)
    (declared : Here → Checked Declared) (node : Here → Declared → Bool → Noted Node)
    (expansion : Option (Except Fault (Render Content))) : Render Content := do
  let declared ← check declared
  let page ← pageOfExpansion kind name id doc expansion
  let node ← note fun here => node here declared page.isSome
  return .ofItem node page

end Render

end DocSite
