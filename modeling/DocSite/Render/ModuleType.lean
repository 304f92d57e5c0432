import DocSite.Interface.Signature
import DocSite.Render.TypeText

/-!
# Module types on a page

The text of module types.  A signature written out is not shown, its items have a page; constraints
are, and one of them can be faulty: a type that is to be replaced has to say by what.
-/

namespace DocSite

open TypeText

namespace TypeEquation

/-- The constrained type, with its parameters. -/
def head (name : Markup) (e : TypeEquation) : Markup :=
  [.keyword "type", .text " ", .text (TypeParameter.list .round e.parameters)] ++ name

/-- A type made equal to another. -/
def renderEqual (here : Here) (base : Identifier) (fragment : Fragment) (e : TypeEquation) :
    Noted Markup := do
  let name ← here.fragment base fragment
  let manifest ←
    match e.manifest with
    | none => pure []
    | some t => do
      let type ← t.render here false
      pure (.text " = " :: (if e.isPrivate then [.keyword "private "] else []) ++ type)
  let constraints ← TypeEquation.renderConstraints here e.constraints
  return e.head name ++ manifest ++ constraints

/-- A type replaced by another. -/
def renderReplaced (here : Here) (base : Identifier) (fragment : Fragment) (e : TypeEquation)
    (manifest : TypeExpr) : Noted Markup := do
  let name ← here.fragment base fragment
  let type ← manifest.render here false
  return e.head name ++ .text " := " :: type

end TypeEquation

mutual

/-- A module type.  Fragments of its constraints are relative to what is constrained, or to `base`
if that is not known. -/
def ModuleTypeExpr.render (here : Here) (base : Identifier) : ModuleTypeExpr → Checked Markup
  | .path p => here.path true p
  | .signature _ => return [.keyword "sig", .text " ... ", .keyword "end"]
  | .functor .unit result => do
    let result ← result.render here base
    return [.keyword "functor", .text " () ", Markup.arrow, .text " "] ++ result
  | .functor (.named id type _) result => do
    let parameter ← type.render here base
    let result ← result.render here base
    return [.keyword "functor", .text " (", .text id.name, .text " : "] ++ parameter ++
      [.text ") ", Markup.arrow, .text " "] ++ result
  | .constrained inner substitutions => do
    let shown ← inner.render here base
    let parts ← Substitution.renderAll here (inner.constraintBase base) substitutions
    return shown ++ [.text " ", .keyword "with", .text " "] ++
      Markup.join [.keyword " and "] parts
  | .typeOf decl => do
    let shown ← decl.renderBody here base
    return [.keyword "module type of", .text " "] ++ shown

/-- What a module is declared as, without the sign before it. -/
def ModuleDecl.renderBody (here : Here) (base : Identifier) : ModuleDecl → Checked Markup
  | .alias p => here.path true p
  | .moduleType t => t.render here base

def Substitution.renderAll (here : Here) (base : Identifier) :
    List Substitution → Checked (List Markup)
  | [] => return []
  | s :: ss => do
    let part ← s.render here base
    return part :: (← Substitution.renderAll here base ss)

def Substitution.render (here : Here) (base : Identifier) : Substitution → Checked Markup
  | .moduleEq fragment decl => do
    let name ← here.fragment base fragment
    let shown ← decl.renderBody here base
    return [.keyword "module", .text " "] ++ name ++ .text " = " :: shown
  | .moduleSubst fragment path => do
    let name ← here.fragment base fragment
    let path ← here.path true path
    return [.keyword "module", .text " "] ++ name ++ .text " := " :: path
  | .typeEq fragment e => e.renderEqual here base fragment
  | .typeSubst fragment e =>
    match e.manifest with
    | none => throw (.missingManifest fragment)
    | some t => e.renderReplaced here base fragment t

end

/-- A declaration with its sign: an alias is equal to its path, anything else has its type. -/
def ModuleDecl.render (here : Here) (base : Identifier) (decl : ModuleDecl) : Checked Markup := do
  let shown ← decl.renderBody here base
  let sign :=
    match decl with
    | .alias _ => " = "
    | .moduleType _ => " : "
  return .text sign :: shown

end DocSite
