import DocSite.Interface.Class

/-!
# Signatures

The items a module declares, and the types of modules.  Signatures contain modules, modules have
module types, and module types contain signatures, so the whole family is one definition.

A declaration may carry an *expansion*: the signature that its type stands for, worked out in
advance.  Where the declared type is already a signature the expansion is `asDeclared` and the
declaration is to be read off the type; nothing enforces that the type really is a signature, and
rendering reports the ones that are not.
-/

namespace DocSite

/-- How a declaration stands to the one before it. -/
inductive Recursion where
  | ordinary
  | recursive
  | and
  | nonrecursive
  deriving DecidableEq

mutual

/-- What a module is declared as. -/
inductive ModuleDecl where
  | alias (path : Path)
  | moduleType (type : ModuleTypeExpr)

/-- A parameter of a functor: the empty one, or a named module. -/
inductive FunctorParameter where
  | unit
  | named (id : Identifier) (type : ModuleTypeExpr) (expansion : Option ModuleExpansion)

/-- The signature behind a declaration. -/
inductive ModuleExpansion where
  | asDeclared
  | signature (items : List SignatureItem)
  | functor (parameters : List FunctorParameter) (result : List SignatureItem)

/-- One constraint on a module type. -/
inductive Substitution where
  | moduleEq (fragment : Fragment) (decl : ModuleDecl)
  | typeEq (fragment : Fragment) (equation : TypeEquation)
  | moduleSubst (fragment : Fragment) (path : Path)
  | typeSubst (fragment : Fragment) (equation : TypeEquation)

inductive ModuleTypeExpr where
  | path (path : Path)
  | signature (items : List SignatureItem)
  | functor (parameter : FunctorParameter) (result : ModuleTypeExpr)
  | constrained (base : ModuleTypeExpr) (substitutions : List Substitution)
  | typeOf (decl : ModuleDecl)

inductive SignatureItem where
  | «module» (recursion : Recursion) (id : Identifier) (doc : Docs) (decl : ModuleDecl)
      (expansion : Option ModuleExpansion)
  | moduleType (id : Identifier) (doc : Docs) (type : Option ModuleTypeExpr)
      (expansion : Option ModuleExpansion)
  | moduleSubstitution (id : Identifier) (doc : Docs) (manifest : Path)
  | type (recursion : Recursion) (decl : TypeDecl)
  | typeSubstitution (decl : TypeDecl)
  | extension (extension : Extension)
  | exception (exception : Constructor)
  | value (value : Value)
  | external (external : External)
  | «class» (recursion : Recursion) (decl : Class)
  | classType (recursion : Recursion) (decl : ClassType)
  | «include» (parent : Identifier) (doc : Docs) (decl : ModuleDecl)
      (expansion : List SignatureItem)
  | comment (comment : Comment)

end

/-- The items of a module in order. -/
abbrev Signature := List SignatureItem

/-- The stop markers that stand directly in a signature. -/
def Signature.stopMarkers (sig : Signature) : Nat :=
  sig.countP fun
    | .comment .stop => true
    | _ => false

/-- The component that the fragments of a constraint are relative to: the module type being
constrained if it is named by a resolved path, and otherwise `fallback`, the declaration in which
the constraint stands. -/
def ModuleTypeExpr.constraintBase (fallback : Identifier) : ModuleTypeExpr → Identifier
  | .path (.resolved p) => p.target
  | .constrained base _ => base.constraintBase fallback
  | .typeOf (.alias (.resolved p)) => p.target
  | .typeOf (.moduleType t) => t.constraintBase fallback
  | _ => fallback

end DocSite
