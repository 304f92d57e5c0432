import DocSite.Interface.Description
import DocSite.Interface.TypeExpr
import DocSite.Markup.Node
import DocSite.Site.Href

/-!
# Links

Identifiers, paths and fragments as links of a page.  A path is linked part by part: what is
resolved becomes a link and what is not stays text, but if one resolved part has no location the
path as a whole has no links.
-/

namespace DocSite

/-- What a site is made with: the packages, whether addresses name directories instead of files,
and whether includes are shown open unless they say otherwise. -/
structure Settings where
  packages : Packages := {}
  semanticUris : Bool := false
  defaultOpen : Bool := false

namespace Settings

/-- The link from a page to a declaration. -/
def href (cfg : Settings) (source : PagePath) (id : Identifier) (stopBefore : Bool) :
    Except ResolveError String :=
  (id.location cfg.packages stopBefore).map fun l => l.hrefFrom source cfg.semanticUris

/-- A path as a page shows it.  The parent of a projection is reached from outside, since what is
shown is a part of it. -/
def pathMarkup (cfg : Settings) (source : PagePath) (stopBefore : Bool) :
    Path → Except ResolveError Markup
  | .resolved p =>
    if p.target.kind.isCore then .ok [.text p.display]
    else do return [.link (← cfg.href source p.target stopBefore) [.text p.display]]
  | .root n => .ok [.text n]
  | .forward n => .ok [.text n]
  | .dot p n => do return (← cfg.pathMarkup source true p) ++ [.text ("." ++ n)]
  | .apply f a => do
    let functor ← cfg.pathMarkup source stopBefore f
    let argument ← cfg.pathMarkup source false a
    return functor ++ .text "(" :: argument ++ [.text ")"]

/-- A fragment relative to a signature, as a page shows it. -/
def fragmentMarkup (cfg : Settings) (source : PagePath) (base : Identifier) :
    Fragment → Except ResolveError Markup
  | .resolved f => do return [.link (← cfg.href source (f.target base) true) [.text f.display]]
  | .root => .ok []
  | .dot p n => .ok [.text (Fragment.dot p n).display]

end Settings

/-- The anchor of one row of a polymorphic variant.  A tag is anchored below its type by its name,
and the tags of another type by the last name of that type if its path is resolved. -/
def VariantElement.anchor (typeId : Identifier) (element : VariantElement) :
    Except ResolveError String := do
  let head ← typeId.anchor
  match element with
  | .tag name _ _ => return head ++ "." ++ name
  | .inherit (.constr (.resolved (.identifier id)) _) => return head ++ "." ++ id.name
  | .inherit (.constr (.resolved (.dot _ _ name)) _) => return head ++ "." ++ name
  | .inherit (.constr (.resolved (.apply f a)) _) =>
    throw (.unresolved (ResolvedPath.apply f a).display)
  | .inherit t => throw (.unresolved t.description)

end DocSite
