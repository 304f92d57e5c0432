import DocSite.Site.Packages
import DocSite.Site.Page

/-!
# Locations

Where a declaration is documented, read off its identifier alone.  A declaration of a kind that owns
a page has a page whose path follows the chain of its parents; any other has an anchor on the page
of the nearest ancestor that owns one.  A declaration that owns a page can also be located from
outside, by its anchor on the page above it: this is what stopping before the page means.

The chain of an identifier is arbitrary, so all of this can fail.
-/

namespace DocSite

/-- Why a target has no location, or a row no anchor. -/
inductive ResolveError where
  | noAnchor (kind : Kind) (name : String)
  | noPage (kind : Kind) (name : String)
  | unresolved (target : String)
  deriving DecidableEq

namespace ResolveError

def message : ResolveError → String
  | noAnchor kind name => "no anchor for " ++ kind.label ++ " `" ++ name ++ "`"
  | noPage kind name => "no page for " ++ kind.label ++ " `" ++ name ++ "`"
  | unresolved target => "unresolved target: " ++ target

end ResolveError

namespace Kind

/-- The class that marks declarations of a kind on a page. -/
def cssClass : Kind → String
  | root | «module» => "module"
  | page => "page"
  | argument _ => "argument"
  | moduleType => "module-type"
  | type | coreType => "type"
  | constructor => "constructor"
  | field => "field"
  | extension => "extension"
  | exception | coreException => "exception"
  | value => "value"
  | «class» => "class"
  | classType => "class-type"
  | method => "method"
  | instanceVariable => "instance-variable"

/-- The kind of the page that things of a kind own. -/
def pageKind? : Kind → Option PageKind
  | root => some .unit
  | page => some .page
  | «module» => some .module
  | moduleType => some .moduleType
  | argument _ => some .argument
  | «class» => some .class
  | classType => some .classType
  | _ => none

/-- The name of the page that a thing owns: an argument is told apart by its position. -/
def pageName (kind : Kind) (name : String) : String :=
  match kind with
  | argument position => toString position.toNat ++ "-" ++ name
  | _ => name

/-- What the anchor of a thing begins with, for the kinds whose anchor does not depend on their
parent. -/
def anchorHead? : Kind → Option String
  | «module» => some "module-"
  | moduleType => some "module-type-"
  | argument position => some ("argument-" ++ toString position.toNat ++ "-")
  | type => some "type-"
  | extension => some "extension-"
  | exception => some "exception-"
  | value | instanceVariable => some "val-"
  | «class» => some "class-"
  | classType => some "class-type-"
  | method => some "method-"
  | _ => none

/-- Constructors and fields are anchored below their parent. -/
def isRow : Kind → Bool
  | constructor | field => true
  | _ => false

/-- Units and pages are where a site begins; they have no place on any other page. -/
def isTop : Kind → Bool
  | root | page => true
  | _ => false

/-- Things of the language itself are documented nowhere. -/
def isCore : Kind → Bool
  | coreType | coreException => true
  | _ => false

end Kind

/-- Where a declaration is: a page, and an anchor on it unless it is the page itself. -/
structure Location where
  page : PagePath
  anchor : Option String
  deriving DecidableEq

namespace Identifier

/-- The anchor of a declaration on the page that shows it. -/
def anchor : Identifier → Except ResolveError String
  | top k n =>
    match k.anchorHead? with
    | some head => .ok (head ++ n)
    | none => .error (.noAnchor k n)
  | child p k n =>
    if k.isRow then p.anchor.map fun a => a ++ "." ++ n
    else
      match k.anchorHead? with
      | some head => .ok (head ++ n)
      | none => .error (.noAnchor k n)

/-- The last segment of the page that a declaration owns. -/
def segment? (id : Identifier) : Option String :=
  id.kind.pageKind?.map fun kind => kind.segment (id.kind.pageName id.name)

/-- The path of the page that a declaration owns. -/
def page (packages : Packages) : Identifier → Except ResolveError PagePath
  | top k n =>
    match (top k n).segment? with
    | some s => if k.isTop then .ok [packages.packageOf (top k n), s] else .error (.noPage k n)
    | none => .error (.noPage k n)
  | child p k n =>
    match (child p k n).segment? with
    | some s =>
      if k.isTop then .ok [packages.packageOf (child p k n), s]
      else (p.page packages).map fun path => path ++ [s]
    | none => .error (.noPage k n)

/-- The nearest ancestor that owns a page. -/
def container? : Identifier → Option Identifier
  | top _ _ => none
  | child p _ _ => if p.kind.ownsPage then some p else p.container?

/-- The location of a declaration; with `stopBefore`, one that owns a page is located on the page
above it. -/
def location (packages : Packages) (stopBefore : Bool) (id : Identifier) :
    Except ResolveError Location :=
  if id.kind.isTop || (id.kind.ownsPage && !stopBefore) then
    (id.page packages).map fun page => ⟨page, none⟩
  else if id.kind.isCore then .error (.noPage id.kind id.name)
  else
    match id.container? with
    | none => .error (.noPage id.kind id.name)
    | some container => do
      let page ← container.page packages
      let anchor ← id.anchor
      return ⟨page, some anchor⟩

end Identifier

end DocSite
