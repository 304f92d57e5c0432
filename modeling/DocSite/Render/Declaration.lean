import DocSite.Interface.Signature
import DocSite.Markup.Definition
import DocSite.Render.Documentation
import DocSite.Render.TypeText

/-!
# Declarations on a page

Types, exceptions, values and the other items that need no page of their own.  Constructors, fields
and tags are rows of a table, each a target of its own; a row whose anchor cannot be found keeps its
text and loses only the anchor.
-/

namespace DocSite

open TypeText

/-! ## Rows -/

/-- A row: the definition, led by its own anchor, and the documentation if there is any. -/
def Row.ofDefinition (here : Here) (anchor : Option String) (kind : String) (definition : Markup)
    (doc : Docs) : Noted Row := do
  let cell := Cell.mk ("def " ++ kind) ((anchor.map Node.anchor).toList ++ definition)
  if doc.isSilent then return .mk anchor [cell]
  else return .mk anchor [cell, .mk "doc" (← doc.render here)]

namespace Identifier

/-- The last name of a declaration, marked by its kind. -/
def marked (id : Identifier) : Node := .span id.kind.cssClass [.text id.name]

end Identifier

namespace Field

def row (here : Here) (f : Field) : Noted Row := do
  let anchor ← f.id.rowAnchorOrNote
  let type ← f.type.render here false
  let code := (if f.isMutable then [.keyword "mutable "] else []) ++
    f.id.marked :: .text " : " :: type ++ [.text ";"]
  Row.ofDefinition here anchor f.id.kind.cssClass [.code code] f.doc

def rows (here : Here) : List Field → Noted (List Row)
  | [] => pure []
  | f :: fs => do return (← f.row here) :: (← rows here fs)

/-- A record: its fields as a table between braces. -/
def record (here : Here) (fields : List Field) : Noted (List Definition.Part) := do
  let rows ← rows here fields
  return [.inline [.text "\x7b"], .block (.table "record" rows), .inline [.text "\x7d"]]

end Field

namespace Constructor

/-- What divides the name of a constructor from its arguments: a colon if it states its result. -/
def separator (hasResult : Bool) : Node := if hasResult then .text ":" else .keyword "of"

def argumentParts (here : Here) (hasResult : Bool) :
    ConstructorArguments → Noted (List Definition.Part)
  | .tuple [] => pure []
  | .tuple ts => do
    let parts ← TypeExpr.renderAll here true ts
    return [.inline ([.text " ", separator hasResult, .text " "] ++ product parts)]
  | .record fields => do
    let record ← Field.record here fields
    return .inline [.text " ", separator hasResult, .text " "] :: record

/-- The result of a constructor: it follows an arrow, or a colon if there are no arguments. -/
def resultParts (here : Here) (arguments : ConstructorArguments) :
    Option TypeExpr → Noted (List Definition.Part)
  | none => pure []
  | some t => do
    let type ← t.render here false
    let mark : Node :=
      match arguments with
      | .tuple [] => .text ":"
      | _ => Markup.arrow
    return [.inline ([.text " ", mark, .text " "] ++ type)]

/-- A constructor: its name, its arguments and its result. -/
def parts (here : Here) (c : Constructor) : Noted (List Definition.Part) := do
  let arguments ← argumentParts here c.result.isSome c.arguments
  let result ← resultParts here c.arguments c.result
  return .inline [c.id.marked] :: arguments ++ result

def row (here : Here) (c : Constructor) : Noted Row := do
  let anchor ← c.id.rowAnchorOrNote
  let parts ← c.parts here
  Row.ofDefinition here anchor c.id.kind.cssClass
    (Definition.layout (.inline [.text "| "] :: parts)) c.doc

def rows (here : Here) : List Constructor → Noted (List Row)
  | [] => pure []
  | c :: cs => do return (← c.row here) :: (← rows here cs)

end Constructor

namespace VariantElement

/-- The text of one element on a line of its own. -/
def text (here : Here) : VariantElement → Noted Markup
  | inherit t => t.render here false
  | .tag n ts _ => do return TypeText.tag n (← TypeExpr.renderAll here true ts)

/-- One element of a variant that is declared as a type.  A missing anchor is noted after what the
text of the element leaves to note. -/
def row (here : Here) (typeId : Identifier) (element : VariantElement) : Noted Row := do
  let case ← element.text here
  let anchor ← Noted.orElse ((element.anchor typeId).map some) (.variantRow typeId) none
  let definition : Markup := [.code (.text "| " :: case)]
  match element with
  | inherit _ => Row.ofDefinition here anchor "type" definition []
  | .tag _ _ doc => Row.ofDefinition here anchor "constructor" definition doc

def rows (here : Here) (typeId : Identifier) : List VariantElement → Noted (List Row)
  | [] => pure []
  | e :: es => do return (← e.row here typeId) :: (← rows here typeId es)

end VariantElement

/-! ## Type declarations -/

namespace TypeDecl

def headKeyword : Recursion → String
  | .ordinary | .recursive => "type"
  | .and => "and"
  | .nonrecursive => "type nonrec"

/-- The keyword of a private declaration, where it is due. -/
def privacy (isPrivate : Bool) : Markup := if isPrivate then [.keyword "private "] else []

/-- What a type is equal to.  A polymorphic variant is laid out as a table. -/
def manifestParts (here : Here) (id : Identifier) (sign : String) (isPrivate : Bool) :
    Option TypeExpr → Noted (List Definition.Part)
  | none => pure []
  | some (.variant kind elements) => do
    let rows ← VariantElement.rows here id elements
    let (opening, closing) := variantBrackets kind
    return [.inline (.text sign :: privacy isPrivate ++ [.text opening]),
      .block (.table "variant" rows), .inline [.text closing]]
  | some t => do
    return [.inline (.text sign :: privacy isPrivate ++ (← t.render here false))]

def representationParts (here : Here) (isPrivate : Bool) :
    Option TypeRepresentation → Noted (List Definition.Part)
  | none => pure []
  | some repr => do
    let parts ←
      match repr with
      | .extensible => pure [.inline [.text ".."]]
      | .variant cs => do pure [.block (.table "variant" (← Constructor.rows here cs))]
      | .record fields => Field.record here fields
    return .inline (.text " = " :: privacy isPrivate) :: parts

/-- A type declaration; with `substitution`, one that replaces a type. -/
def render (here : Here) (recursion : Recursion) (substitution : Bool) (d : TypeDecl) :
    Noted Node := do
  let eqn := d.equation
  let manifest ←
    manifestParts here d.id (if substitution then " := " else " = ") eqn.isPrivate eqn.manifest
  let representation ←
    representationParts here (eqn.isPrivate && eqn.manifest.isNone) d.representation
  let constraints ← TypeEquation.renderConstraints here eqn.constraints
  let anchor ← d.id.anchorOrNote
  let doc ← d.doc.render here
  let head : Markup :=
    [.keyword (headKeyword recursion), .text " ", .text (TypeParameter.list .round eqn.parameters),
      .text d.id.name]
  return Markup.declaration "type" anchor
    (Definition.layout (.inline head :: manifest ++ representation ++ [.inline constraints])) doc

end TypeDecl

/-! ## The other items -/

def Extension.render (here : Here) (e : Extension) : Noted Node := do
  let path ← here.path false e.path
  let rows ← Constructor.rows here e.constructors
  let doc ← e.doc.render here
  let head : Markup :=
    [.keyword "type", .text " ", .text (TypeParameter.list .round e.parameters)] ++ path ++
      .text " += " :: TypeDecl.privacy e.isPrivate
  return Markup.declaration "extension" none
    (Definition.layout [.inline head, .block (.table "extension" rows)]) doc

/-- An exception, which is declared like a constructor. -/
def Constructor.renderException (here : Here) (e : Constructor) : Noted Node := do
  let parts ← e.parts here
  let anchor ← e.id.anchorOrNote
  let doc ← e.doc.render here
  return Markup.declaration "exception" anchor
    (Definition.layout (.inline [.keyword "exception", .text " "] :: parts)) doc

def Value.render (here : Here) (v : Value) : Noted Node := do
  let type ← v.type.render here false
  let anchor ← v.id.anchorOrNote
  let doc ← v.doc.render here
  return Markup.declaration "value" anchor
    [.code ([.keyword "val", .text " ", .text v.id.name, .text " : "] ++ type)] doc

namespace External

/-- The names under which a value is found outside, each in quotes. -/
def primitiveText (primitives : List String) : String :=
  " = " ++ " ".intercalate (primitives.map fun p => "\"" ++ p ++ "\"")

def render (here : Here) (e : External) : Noted Node := do
  let type ← e.type.render here false
  let anchor ← e.id.anchorOrNote
  let doc ← e.doc.render here
  return Markup.declaration "external" anchor
    [.code ([.keyword "external", .text " ", .text e.id.name, .text " : "] ++ type ++
      [.text (primitiveText e.primitives)])] doc

end External

/-- A module that is replaced by another. -/
def renderModuleSubstitution (here : Here) (id : Identifier) (doc : Docs) (manifest : Path) :
    Noted Node := do
  let path ← here.path true manifest
  let anchor ← id.anchorOrNote
  let doc ← doc.render here
  return Markup.declaration "module-substitution" anchor
    [.code ([.keyword "module", .text " ", .text id.name, .text " := "] ++ path)] doc

end DocSite
