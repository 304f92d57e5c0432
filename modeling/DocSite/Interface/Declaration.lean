import DocSite.Interface.TypeExpr

/-!
# Declarations of types, exceptions and values

The items of a signature that contain no signature themselves.
-/

namespace DocSite

inductive Variance where
  | positive
  | negative
  deriving DecidableEq

inductive ParameterName where
  | any
  | var (name : String)
  deriving DecidableEq

/-- A parameter of a type or class declaration. -/
structure TypeParameter where
  name : ParameterName
  variance : Option Variance := none
  deriving DecidableEq

/-- What a declared type is known to be equal to. -/
structure TypeEquation where
  parameters : List TypeParameter := []
  isPrivate : Bool := false
  manifest : Option TypeExpr := none
  constraints : List (TypeExpr × TypeExpr) := []

structure Field where
  id : Identifier
  doc : Docs := []
  isMutable : Bool := false
  type : TypeExpr

/-- The arguments of a constructor: a tuple, empty for a constant constructor, or a record. -/
inductive ConstructorArguments where
  | tuple (types : List TypeExpr)
  | record (fields : List Field)

/-- A constructor of a variant type, of an extensible type, or an exception: the three are declared
alike. -/
structure Constructor where
  id : Identifier
  doc : Docs := []
  arguments : ConstructorArguments := .tuple []
  result : Option TypeExpr := none

inductive TypeRepresentation where
  | variant (constructors : List Constructor)
  | record (fields : List Field)
  | extensible

structure TypeDecl where
  id : Identifier
  doc : Docs := []
  equation : TypeEquation := {}
  representation : Option TypeRepresentation := none

/-- New constructors for an extensible type. -/
structure Extension where
  path : Path
  doc : Docs := []
  parameters : List TypeParameter := []
  isPrivate : Bool := false
  constructors : List Constructor

structure Value where
  id : Identifier
  doc : Docs := []
  type : TypeExpr

/-- A value implemented outside the language. -/
structure External where
  id : Identifier
  doc : Docs := []
  type : TypeExpr
  primitives : List String

end DocSite
