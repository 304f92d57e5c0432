import DocSite.Interface.Declaration

/-!
# Classes and class types

A class type is a name applied to types or an object signature written out, and an object signature
may inherit from further class types; these two are defined together.
-/

namespace DocSite

structure Method where
  id : Identifier
  doc : Docs := []
  isPrivate : Bool := false
  isVirtual : Bool := false
  type : TypeExpr

structure InstanceVariable where
  id : Identifier
  doc : Docs := []
  isMutable : Bool := false
  isVirtual : Bool := false
  type : TypeExpr

mutual

inductive ClassTypeExpr where
  | constr (path : Path) (arguments : List TypeExpr)
  | signature (self : Option TypeExpr) (items : List ClassItem)

inductive ClassItem where
  | method (declared : Method)
  | instanceVariable (declared : InstanceVariable)
  | constraint (left right : TypeExpr)
  | inherit (type : ClassTypeExpr)
  | comment (comment : Comment)

end

/-- The members of an object, with the type of the object itself if it is named. -/
structure ClassSignature where
  self : Option TypeExpr := none
  items : List ClassItem

/-- The type of a class: its object type after the arguments of its constructor. -/
inductive ClassDecl where
  | classType (type : ClassTypeExpr)
  | arrow (label : Option Label) (source : TypeExpr) (target : ClassDecl)

structure Class where
  id : Identifier
  doc : Docs := []
  isVirtual : Bool := false
  parameters : List TypeParameter := []
  type : ClassDecl
  expansion : Option ClassSignature := none

structure ClassType where
  id : Identifier
  doc : Docs := []
  isVirtual : Bool := false
  parameters : List TypeParameter := []
  expr : ClassTypeExpr
  expansion : Option ClassSignature := none

end DocSite
