import DocSite.Interface.Root
import DocSite.Render.Signature

/-!
# Rendering a root

A unit or a page of documentation, rendered inside its package.  The package is a directory and has
no page of its own: it is entered so that every path begins with it.
-/

namespace DocSite

/-- The modules of a pack, each with the path it stands for. -/
def PackedModule.renderAll (here : Here) : List PackedModule → Noted Content
  | [] => pure {}
  | m :: ms => do
    let path ← here.path false m.path
    let anchor ← m.id.anchorOrNote
    let code := [.keyword "module", .text " ", .text m.id.name, .text " = "] ++ path
    return .ofNode (Markup.declaration "module" anchor [.code code] []) ++
      (← PackedModule.renderAll here ms)

def UnitContent.render : UnitContent → Render Content
  | .module items => Signature.render items
  | .pack modules => .note fun here => PackedModule.renderAll here modules

def CompilationUnit.render (u : CompilationUnit) : Render Page :=
  Render.pageOf (PageKind.unit.title ++ " " ++ u.id.display) u.doc u.content.render

/-- A page of documentation: its whole content is body. -/
def DocPage.render (p : DocPage) : Render Page := do
  let body ← .note fun here => Docs.render here p.content
  Render.buildPage p.id.name [] (Docs.headings p.content) body []

namespace Root

/-- The page of a root, inside the page of its package. -/
def renderIn (package : String) (r : Root) : Render Page :=
  .onPage .package package <|
    match r with
    | unit u => .onPage .unit u.id.name u.render
    | page p => .onPage .page p.id.name p.render

/-- A rendered root: the pages of its tree, and the warnings in the order they were left. -/
structure Rendered where
  package : String
  page : Page
  warnings : List Warning

/-- Renders a root, starting with no page open.  All pages have to be closed at the end. -/
def render (cfg : Settings) (r : Root) : Except RenderError Rendered :=
  let package := cfg.packages.packageOf r.id
  let out := r.renderIn package cfg {}
  match out.result with
  | .error e => .error e
  | .ok tree =>
    if out.scopes.stack.isEmpty then .ok ⟨package, tree, out.warnings⟩
    else .error ⟨out.scopes.address, .scopesLeftOpen out.scopes.depth⟩

end Root

end DocSite
