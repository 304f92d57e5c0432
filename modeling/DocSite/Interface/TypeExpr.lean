import DocSite.Interface.Path
import DocSite.Interface.Doc

/-!
# Type expressions

The types that declarations mention.  Three families nest in one another: types, the elements of a
polymorphic variant and the fields of an object.  Everything else a type holds (labels, paths,
fragments) is finished before types begin.
-/

namespace DocSite

/-- The name of a function argument. -/
inductive Label where
  | label (name : String)
  | optional (name : String)
  deriving DecidableEq

/-- Which tags a polymorphic variant admits: exactly the listed ones, at least them, or at most
them with some required. -/
inductive VariantKind where
  | fixed
  | «open»
  | closed (required : List String)
  deriving DecidableEq

mutual

inductive TypeExpr where
  | var (name : String)
  | any
  | alias (type : TypeExpr) (name : String)
  | arrow (label : Option Label) (source target : TypeExpr)
  | tuple (elements : List TypeExpr)
  | constr (path : Path) (arguments : List TypeExpr)
  | variant (kind : VariantKind) (elements : List VariantElement)
  | object (fields : List ObjectField) (isOpen : Bool)
  | «class» (path : Path) (arguments : List TypeExpr)
  | poly (names : List String) (body : TypeExpr)
  | package (path : Path) (substitutions : List (Fragment × TypeExpr))

/-- One element of a polymorphic variant: the tags of another type, or a tag of its own. -/
inductive VariantElement where
  | inherit (type : TypeExpr)
  | tag (name : String) (arguments : List TypeExpr) (doc : Docs)

inductive ObjectField where
  | method (name : String) (type : TypeExpr)
  | inherit (type : TypeExpr)

end

namespace TypeExpr

/-- A type of the language itself. -/
def core (name : String) : TypeExpr :=
  .constr (.resolved (.identifier (.top .coreType name))) []

end TypeExpr

end DocSite
