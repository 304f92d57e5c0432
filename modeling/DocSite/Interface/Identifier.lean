/-!
# Identifiers

Every documented thing has a name of its own: a kind, a local name, and the chain of things that
contain it.  An identifier is that chain.  It is built from the outside in: `top` starts a chain
and `child` adds one link, so a function on identifiers recurses towards the enclosing thing, which
is the direction in which pages, anchors and packages are all found.

The chain is not checked.  A value may sit directly under a constructor, or nowhere at all, and
still be an identifier; what such a chain cannot have is a location, and `Location` says so.
-/

namespace DocSite

/-- What a named thing is.  A functor argument also knows its position, counted from one. -/
inductive Kind where
  | root
  | page
  | «module»
  | argument (position : UInt64)
  | moduleType
  | type
  | coreType
  | constructor
  | field
  | extension
  | exception
  | coreException
  | value
  | «class»
  | classType
  | method
  | instanceVariable
  deriving DecidableEq

namespace Kind

/-- Things of these kinds are documented on a page of their own; all others live on the page of
what contains them. -/
def ownsPage : Kind → Bool
  | root | page | «module» | argument _ | moduleType | «class» | classType => true
  | _ => false

/-- The kind in words, as messages name it. -/
def label : Kind → String
  | root => "root"
  | page => "page"
  | «module» => "module"
  | argument _ => "argument"
  | moduleType => "module type"
  | type => "type"
  | coreType => "core type"
  | constructor => "constructor"
  | field => "field"
  | extension => "extension"
  | exception => "exception"
  | coreException => "core exception"
  | value => "value"
  | «class» => "class"
  | classType => "class type"
  | method => "method"
  | instanceVariable => "instance variable"

end Kind

/-- A named thing together with everything that contains it. -/
inductive Identifier where
  | top (kind : Kind) (name : String)
  | child (parent : Identifier) (kind : Kind) (name : String)
  deriving DecidableEq

namespace Identifier

def kind : Identifier → Kind
  | top k _ => k
  | child _ k _ => k

def name : Identifier → String
  | top _ n => n
  | child _ _ n => n

def parent? : Identifier → Option Identifier
  | top _ _ => none
  | child p _ _ => some p

/-- The names along the chain, outermost first, divided by points. -/
def display : Identifier → String
  | top _ n => n
  | child p _ n => p.display ++ "." ++ n

/-- The outermost link of the chain. -/
def outermost : Identifier → Identifier
  | top k n => top k n
  | child p _ _ => p.outermost

/-- The root a thing belongs to, if its chain does start at a root. -/
def root? (id : Identifier) : Option Identifier :=
  if id.outermost.kind = .root then some id.outermost else none

@[simp] theorem kind_top (k : Kind) (n : String) : (top k n).kind = k := rfl

@[simp] theorem kind_child (p : Identifier) (k : Kind) (n : String) : (child p k n).kind = k := rfl

@[simp] theorem name_top (k : Kind) (n : String) : (top k n).name = n := rfl

@[simp] theorem name_child (p : Identifier) (k : Kind) (n : String) : (child p k n).name = n := rfl

@[simp] theorem outermost_child (p : Identifier) (k : Kind) (n : String) :
    (child p k n).outermost = p.outermost := rfl

end Identifier

end DocSite
