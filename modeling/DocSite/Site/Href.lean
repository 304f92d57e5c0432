import DocSite.Site.Location

/-!
# Relative links

A link climbs from the page that carries it to the deepest directory that both pages lie in, and
descends from there.
-/

namespace DocSite

/-- How many segments two paths share at their beginning. -/
def commonLength : PagePath → PagePath → Nat
  | a :: as, b :: bs => if a = b then commonLength as bs + 1 else 0
  | _, _ => 0

/-- The steps of a link up. -/
def climb : Nat → String
  | 0 => ""
  | n + 1 => "../" ++ climb n

/-- The steps of a link down. -/
def descend : PagePath → String
  | [] => ""
  | s :: ss => s ++ "/" ++ descend ss

/-- The part of a link that names an anchor. -/
def fragmentPart : Option String → String
  | some anchor => "#" ++ anchor
  | none => ""

/-- The link from a page to a location.  A link within a page names the anchor alone. -/
def Location.hrefFrom (source : PagePath) (semantic : Bool) (target : Location) : String :=
  if source = target.page then
    match target.anchor with
    | some anchor => "#" ++ anchor
    | none => if semantic then "./" else "index.html"
  else
    let common := commonLength source target.page
    climb (source.length - common) ++ descend (target.page.drop common) ++
      PageKind.indexFile semantic ++ fragmentPart target.anchor

end DocSite
