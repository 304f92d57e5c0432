import DocSite.Interface.Identifier

/-!
# Paths and fragments

A path is how one thing refers to another: a name that has been found (`resolved`), a bare name
that has not, a projection out of another path, or a functor application.  Resolved and unresolved
parts mix freely, because the argument of a resolved application is an arbitrary path; the two types
are therefore defined together.

A fragment names a component of a signature that is being constrained.  It is a path without a
beginning: a resolved fragment becomes an identifier only once the signature it is relative to is
known.
-/

namespace DocSite

mutual

/-- A path whose target is known. -/
inductive ResolvedPath where
  | identifier (id : Identifier)
  | dot (parent : ResolvedPath) (kind : Kind) (name : String)
  | apply (functor : ResolvedPath) (argument : Path)

/-- A reference from one thing to another, known or not. -/
inductive Path where
  | resolved (path : ResolvedPath)
  | root (name : String)
  | forward (name : String)
  | dot (parent : Path) (name : String)
  | apply (functor argument : Path)

end

/-- What a resolved path points at.  An application points at its functor. -/
def ResolvedPath.target : ResolvedPath → Identifier
  | .identifier id => id
  | .dot p k n => .child p.target k n
  | .apply f _ => f.target

/-- What a path points at, if that is known. -/
def Path.target? : Path → Option Identifier
  | .resolved p => some p.target
  | _ => none

mutual

/-- The path as written: only the last name of an identifier is shown. -/
def ResolvedPath.display : ResolvedPath → String
  | .identifier id => id.name
  | .dot p _ n => p.display ++ "." ++ n
  | .apply f a => f.display ++ "(" ++ a.display ++ ")"

@[inherit_doc ResolvedPath.display]
def Path.display : Path → String
  | .resolved p => p.display
  | .root n => n
  | .forward n => n
  | .dot p n => p.display ++ "." ++ n
  | .apply f a => f.display ++ "(" ++ a.display ++ ")"

end

/-- A component of a signature, found, and named relative to that signature. -/
inductive ResolvedFragment where
  | top (kind : Kind) (name : String)
  | child (parent : ResolvedFragment) (kind : Kind) (name : String)
  deriving DecidableEq

namespace ResolvedFragment

/-- The identifier of the component in the signature of `base`. -/
def target (base : Identifier) : ResolvedFragment → Identifier
  | top k n => .child base k n
  | child p k n => .child (p.target base) k n

def display : ResolvedFragment → String
  | top _ n => n
  | child p _ n => p.display ++ "." ++ n

end ResolvedFragment

/-- A component of a signature as a constraint names it.  `root` is the signature itself. -/
inductive Fragment where
  | resolved (fragment : ResolvedFragment)
  | root
  | dot (parent : Fragment) (name : String)
  deriving DecidableEq

namespace Fragment

/-- A direct component of the signature, by its name. -/
def ofName (name : String) : Fragment := .dot .root name

def target? (base : Identifier) : Fragment → Option Identifier
  | resolved f => some (f.target base)
  | _ => none

def display : Fragment → String
  | resolved f => f.display
  | root => ""
  | dot root n => n
  | dot p n => p.display ++ "." ++ n

end Fragment

end DocSite
