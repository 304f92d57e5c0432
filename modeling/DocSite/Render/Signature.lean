import DocSite.Render.Class
import DocSite.Render.ModuleType

/-!
# Signatures on a page

Every item of a signature becomes a node of its page.  Modules, module types and functor arguments
that carry an expansion get a page of their own as well: it is entered, the expansion is rendered on
it, it is left again, and the name of the item links to it.

Comments are shown or hidden by stop markers.  The state belongs to one signature: an include that
is spliced into its surroundings shares it with them, every other signature starts anew.
-/

namespace DocSite

/-! ## The nodes of items -/

def moduleHead : Recursion → String
  | .ordinary | .nonrecursive => "module"
  | .recursive => "module rec"
  | .and => "and"

/-- The node of a module, whose declared type is already rendered. -/
def moduleNode (here : Here) (recursion : Recursion) (id : Identifier) (doc : Docs) (decl : Markup)
    (hasPage : Bool) : Noted Node := do
  let (name, doc) ← here.heading .module id.name doc hasPage
  let anchor ← id.anchorOrNote
  let code := [.keyword (moduleHead recursion), .text " ", name] ++ decl
  return Markup.declaration "module" anchor [.code code] doc

/-- What a module type is equal to, if that is known. -/
def moduleTypeTail (here : Here) (id : Identifier) : Option ModuleTypeExpr → Checked Markup
  | none => return []
  | some type => return .text " = " :: (← type.render here id)

@[inherit_doc moduleNode]
def moduleTypeNode (here : Here) (id : Identifier) (doc : Docs) (tail : Markup) (hasPage : Bool) :
    Noted Node := do
  let (name, doc) ← here.heading .moduleType id.name doc hasPage
  let anchor ← id.anchorOrNote
  let code := [.keyword "module type", .text " ", name] ++ tail
  return Markup.declaration "module-type" anchor [.code code] doc

/-- Whether the identifier of a functor argument says where the argument stands. -/
def checkArgument (position : Nat) (id : Identifier) : Checked Unit :=
  match id.kind with
  | .argument claimed =>
    if claimed.toNat = position then return ()
    else throw (.misplacedArgument id position claimed)
  | _ => throw (.notAnArgument id)

/-- The type of a functor argument, if the argument stands where it should. -/
def parameterType (here : Here) (position : Nat) (id : Identifier) (type : ModuleTypeExpr) :
    Checked Markup := do
  checkArgument position id
  type.render here id

/-- The name of the page of a functor argument. -/
def parameterPageName (position : Nat) (id : Identifier) : String :=
  toString position ++ "-" ++ id.name

/-- The node of a functor argument, whose type is already rendered. -/
def parameterNode (here : Here) (position : Nat) (id : Identifier) (type : Markup)
    (hasPage : Bool) : Noted Node := do
  let name :=
    if hasPage then here.linkBelow .argument (parameterPageName position id) id.name
    else .text id.name
  let anchor ← id.anchorOrNote
  return Markup.declaration "argument" anchor [.code ([name, .text " : "] ++ type)] []

/-- The content of a functor: its parameters and then its result, each under a heading. -/
def functorBody (parameters result : Content) : Content :=
  { body := [.heading 3 (some "parameters") [.text "Parameters"],
      .list false (parameters.body.map fun node => [node]),
      .heading 3 (some "signature") [.text "Signature"]] ++ result.body
    toc := result.toc
    pages := parameters.pages ++ result.pages }

/-- Whether an include is shown open: if it is tagged so, or if that is the default and it is not
tagged as closed. -/
def includeIsOpen (cfg : Settings) (doc : Docs) : Bool :=
  doc.hasTag .open || (cfg.defaultOpen && !doc.hasTag .closed)

/-- What stands above an include: what is included, and the documentation. -/
def includeHead (here : Here) (parent : Identifier) (doc : Docs) (decl : ModuleDecl) :
    Checked (Markup × Markup) := do
  let summary ← decl.renderBody here parent
  let docMarkup ← doc.render here
  return (summary, docMarkup)

/-- The content of an include that can be opened and closed, under its head. -/
def includeBody (cfg : Settings) (doc : Docs) (head : Markup × Markup) (inner : Content) :
    Content :=
  let details : Node :=
    .details (includeIsOpen cfg doc) [.code ([.keyword "include", .text " "] ++ head.1)] inner.body
  let children :=
    (if head.2.isEmpty then [] else [Markup.block "spec-doc" head.2]) ++ [details]
  { inner with body := [Markup.block "spec include" children] }

/-! ## Comments and stop markers -/

mutual

/-- Whether comments are shown after some items, if they were shown or hidden before. -/
def SignatureItem.visibilityAfterAll (visibility : Visibility) : List SignatureItem → Visibility
  | [] => visibility
  | item :: items => SignatureItem.visibilityAfterAll (item.visibilityAfter visibility) items

/-- Only stop markers change whether comments are shown; they may be those of an include that is
spliced in. -/
def SignatureItem.visibilityAfter (visibility : Visibility) : SignatureItem → Visibility
  | .comment .stop => visibility.toggle
  | .include _ doc _ expansion =>
    if doc.hasTag .inline then SignatureItem.visibilityAfterAll visibility expansion
    else visibility
  | _ => visibility

end

/-! ## Signatures -/

namespace Render

/-- An include that can be opened and closed. -/
def includeItem (parent : Identifier) (doc : Docs) (decl : ModuleDecl)
    (expansion : Render Content) : Render Content := do
  let head ← check fun here => includeHead here parent doc decl
  let inner ← expansion
  note fun here => pure (includeBody here.settings doc head inner)

/-- The content of an item that never has a page. -/
def plainItem (node : Here → Noted Node) : Render Content := do
  return .ofNode (← note node)

end Render

open Render

mutual

/-- The items of a signature, starting with comments shown or hidden. -/
def SignatureItem.renderAll (visibility : Visibility) : List SignatureItem → Render Content
  | [] => pure {}
  | item :: items => do
    let first ← item.render visibility
    let rest ← SignatureItem.renderAll (item.visibilityAfter visibility) items
    return first ++ rest

/-- One item.  Only comments look at the state of comments. -/
def SignatureItem.render (visibility : Visibility) : SignatureItem → Render Content
  | .module recursion id doc decl expansion =>
    item .module id.name id doc (fun here => decl.render here id)
      (fun here => moduleNode here recursion id doc)
      (ModuleExpansion.content? id (ModuleDecl.content? decl) expansion)
  | .moduleType id doc type expansion =>
    item .moduleType id.name id doc (fun here => moduleTypeTail here id type)
      (fun here => moduleTypeNode here id doc)
      (ModuleExpansion.content? id (ModuleTypeExpr.optionContent? type) expansion)
  | .moduleSubstitution id doc manifest =>
    plainItem fun here => renderModuleSubstitution here id doc manifest
  | .type recursion decl => plainItem fun here => decl.render here recursion false
  | .typeSubstitution decl => plainItem fun here => decl.render here .ordinary true
  | .extension e => plainItem fun here => e.render here
  | .exception e => plainItem fun here => e.renderException here
  | .value v => plainItem fun here => v.render here
  | .external e => plainItem fun here => e.render here
  | .class recursion c => c.render recursion
  | .classType recursion c => c.render recursion
  | .include parent doc decl expansion =>
    if doc.hasTag .inline then SignatureItem.renderAll visibility expansion
    else includeItem parent doc decl (SignatureItem.renderAll .visible expansion)
  | .comment .stop => pure {}
  | .comment (.docs docs) => note fun here => docs.comment here visibility

/-- What the page of an expansion holds.  An expansion that says to read the declared type needs
the content of that type. -/
def ModuleExpansion.content? (id : Identifier) (declared : Option (Render Content)) :
    Option ModuleExpansion → Option (Except Fault (Render Content))
  | none => none
  | some .asDeclared =>
    match declared with
    | some content => some (.ok content)
    | none => some (.error (.notASignature id))
  | some (.signature items) => some (.ok (SignatureItem.renderAll .visible items))
  | some (.functor parameters result) => some (.ok do
    let parameters ← FunctorParameter.renderAll 1 parameters
    let result ← SignatureItem.renderAll .visible result
    return functorBody parameters result)

/-- What the declared type of a module holds, if it is a signature. -/
def ModuleDecl.content? : ModuleDecl → Option (Render Content)
  | .moduleType (.signature items) => some (SignatureItem.renderAll .visible items)
  | _ => none

@[inherit_doc ModuleDecl.content?]
def ModuleTypeExpr.content? : ModuleTypeExpr → Option (Render Content)
  | .signature items => some (SignatureItem.renderAll .visible items)
  | _ => none

@[inherit_doc ModuleDecl.content?]
def ModuleTypeExpr.optionContent? : Option ModuleTypeExpr → Option (Render Content)
  | some type => ModuleTypeExpr.content? type
  | none => none

/-- The parameters of a functor from a position on, with their pages.  An empty parameter has a
position but is not shown. -/
def FunctorParameter.renderAll (position : Nat) : List FunctorParameter → Render Content
  | [] => pure {}
  | .unit :: parameters => FunctorParameter.renderAll (position + 1) parameters
  | .named id type expansion :: parameters => do
    let first ← item .argument (parameterPageName position id) id []
      (fun here => parameterType here position id type)
      (fun here => parameterNode here position id)
      (ModuleExpansion.content? id (ModuleTypeExpr.content? type) expansion)
    let rest ← FunctorParameter.renderAll (position + 1) parameters
    return first ++ rest

end

/-- A whole signature, comments shown at first. -/
def Signature.render (items : Signature) : Render Content :=
  SignatureItem.renderAll .visible items

end DocSite
