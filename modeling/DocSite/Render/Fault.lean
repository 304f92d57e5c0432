import DocSite.Interface.Path
import DocSite.Site.Scopes

/-!
# Faults

What stops rendering.  A missing link or anchor never does; an interface that contradicts itself
does, and so does a page that is built or closed out of turn.
-/

namespace DocSite

/-- What is wrong with an interface that cannot be rendered. -/
inductive Fault where
  /-- An expansion says to read the declared type, which is no signature. -/
  | notASignature (id : Identifier)
  /-- A functor argument stands at another position than its identifier says. -/
  | misplacedArgument (id : Identifier) (position : Nat) (claimed : UInt64)
  /-- A functor argument has an identifier of another kind. -/
  | notAnArgument (id : Identifier)
  /-- A type is to be replaced, and nothing is given to replace it by. -/
  | missingManifest (fragment : Fragment)
  /-- A class inherits from an object type that is written out in place. -/
  | inlineInheritance
  | scope (error : ScopeError)
  | scopesLeftOpen (count : Nat)

namespace Fault

def message : Fault → String
  | notASignature id =>
    "`" ++ id.display ++ "` reuses its declared signature, but it is not declared with one"
  | misplacedArgument id position claimed =>
    "functor argument `" ++ id.display ++ "` at position " ++ toString position ++
      " claims position " ++ toString claimed.toNat
  | notAnArgument id =>
    "functor argument `" ++ id.display ++ "` has a " ++ id.kind.label ++ " identifier"
  | missingManifest fragment =>
    "destructive substitution of type `" ++ fragment.display ++ "` has no manifest"
  | inlineInheritance => "class signature inherits an inline object signature"
  | scope error => error.message
  | scopesLeftOpen count => toString count ++ " page scopes left open"

end Fault

/-- A fault and where it was met. -/
structure RenderError where
  context : String
  fault : Fault

namespace RenderError

def message (e : RenderError) : String :=
  "malformed interface in " ++ e.context ++ ": " ++ e.fault.message

end RenderError

end DocSite
