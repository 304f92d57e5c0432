import DocSite.Render.Basic
import DocSite.Render.Declaration

/-!
# Classes on a page

Classes and class types with their members.  A class that carries its expansion has a page of its
own, on which the members stand.
-/

namespace DocSite

open TypeText

/-! ## Class types -/

def ClassTypeExpr.render (here : Here) : ClassTypeExpr → Noted Markup
  | .constr p ts => do
    let path ← here.path false p
    return application .square (← TypeExpr.renderAll here (simpleArguments ts) ts) path
  | .signature _ _ => pure [.keyword "object", .text " ... ", .keyword "end"]

def ClassDecl.render (here : Here) : ClassDecl → Noted Markup
  | .classType t => t.render here
  | .arrow l a d => do
    let source ← a.render here true
    let target ← d.render here
    return label l ++ source ++ [.text " ", Markup.arrow, .text " "] ++ target

/-! ## Members -/

/-- A keyword and the blank after it, if it is due. -/
def keywordIf (due : Bool) (word : String) : Markup :=
  if due then [.keyword word, .text " "] else []

def Method.render (here : Here) (m : Method) : Noted Node := do
  let type ← m.type.render here false
  let anchor ← m.id.anchorOrNote
  let doc ← m.doc.render here
  return Markup.declaration "method" anchor
    [.code ([.keyword "method", .text " "] ++ keywordIf m.isPrivate "private" ++
      keywordIf m.isVirtual "virtual" ++ [.text m.id.name, .text " : "] ++ type)] doc

def InstanceVariable.render (here : Here) (v : InstanceVariable) : Noted Node := do
  let type ← v.type.render here false
  let anchor ← v.id.anchorOrNote
  let doc ← v.doc.render here
  return Markup.declaration "instance-variable" anchor
    [.code ([.keyword "val", .text " "] ++ keywordIf v.isMutable "mutable" ++
      keywordIf v.isVirtual "virtual" ++ [.text v.id.name, .text " : "] ++ type)] doc

namespace ClassItem

def renderConstraint (here : Here) (left right : TypeExpr) : Noted Node := do
  let left ← left.render here false
  let right ← right.render here false
  return Markup.declaration "constraint" none
    [.code ([.keyword "constraint", .text " "] ++ left ++ .text " = " :: right)] []

def renderInherited (here : Here) (type : ClassTypeExpr) : Noted Node := do
  let type ← type.render here
  return Markup.declaration "inherit" none [.code ([.keyword "inherit", .text " "] ++ type)] []

/-- Members in order, starting with comments shown or hidden. -/
def renderAll (here : Here) : Visibility → List ClassItem → Checked Content
  | _, [] => return {}
  | visibility, .comment .stop :: items => renderAll here visibility.toggle items
  | visibility, .comment (.docs docs) :: items => do
    let content ← docs.comment here visibility
    return content ++ (← renderAll here visibility items)
  | visibility, .method m :: items => do
    let node ← m.render here
    return .ofNode node ++ (← renderAll here visibility items)
  | visibility, .instanceVariable v :: items => do
    let node ← v.render here
    return .ofNode node ++ (← renderAll here visibility items)
  | visibility, .constraint a b :: items => do
    let node ← renderConstraint here a b
    return .ofNode node ++ (← renderAll here visibility items)
  | _, .inherit (.signature _ _) :: _ => throw .inlineInheritance
  | visibility, .inherit (.constr p ts) :: items => do
    let node ← renderInherited here (.constr p ts)
    return .ofNode node ++ (← renderAll here visibility items)

end ClassItem

/-- The members of a class, comments shown at first. -/
def ClassSignature.render (here : Here) (sig : ClassSignature) : Checked Content :=
  ClassItem.renderAll here .visible sig.items

/-! ## Classes -/

/-- The keywords before the name of a class. -/
def classKeywords (head : String) (isVirtual : Bool) (parameters : List TypeParameter) : Markup :=
  [.keyword head, .text " "] ++ keywordIf isVirtual "virtual" ++
    if parameters.isEmpty then [] else [.text (TypeParameter.list .square parameters)]

namespace Class

/-- The node of a class, whose type is already rendered. -/
def node (here : Here) (recursion : Recursion) (c : Class) (decl : Markup) (hasPage : Bool) :
    Noted Node := do
  let (name, doc) ← here.heading .class c.id.name c.doc hasPage
  let anchor ← c.id.anchorOrNote
  let head := if recursion = .and then "and" else "class"
  let code := classKeywords head c.isVirtual c.parameters ++ [name, .text " : "] ++ decl
  return Markup.declaration "class" anchor [.code code] doc

def render (recursion : Recursion) (c : Class) : Render Content :=
  Render.item .class c.id.name c.id c.doc (fun here => c.type.render here)
    (fun here => c.node here recursion)
    (c.expansion.map fun sig => .ok (Render.check fun here => sig.render here))

end Class

namespace ClassType

@[inherit_doc Class.node]
def node (here : Here) (recursion : Recursion) (c : ClassType) (expr : Markup) (hasPage : Bool) :
    Noted Node := do
  let (name, doc) ← here.heading .classType c.id.name c.doc hasPage
  let anchor ← c.id.anchorOrNote
  let head := if recursion = .and then "and" else "class type"
  let code := classKeywords head c.isVirtual c.parameters ++ [name, .text " = "] ++ expr
  return Markup.declaration "class-type" anchor [.code code] doc

def render (recursion : Recursion) (c : ClassType) : Render Content :=
  Render.item .classType c.id.name c.id c.doc (fun here => c.expr.render here)
    (fun here => c.node here recursion)
    (c.expansion.map fun sig => .ok (Render.check fun here => sig.render here))

end ClassType

end DocSite
