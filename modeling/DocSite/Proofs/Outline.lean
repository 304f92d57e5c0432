import DocSite.Proofs.Run

/-!
# Outlines

Rendering does two things at once.  It writes the text of a page, and whenever it meets an item with
an expansion it interrupts itself to write another page below.  This file takes the two apart, on
the side of the input.

*What is shown.*  `SignatureItem.shownAll` is the text that items leave on the page they stand on,
and nothing else: it knows the page it is on, opens no page, and of an expansion it only asks
whether there is one.  Included items stand on the page of the include.

*What lies below.*  `SignatureItem.outlinesAll` lists the expansions that items carry, in the order
in which they are met, each with the expansions met inside it.  Such a tree is an `Outline`.  Every
node of an outline is a `Topic`: what a page is called and what it is about.

`Outline.Describes` then says what it means that a tree of pages is an outline written out: page by
page the same names and places, and on each page exactly what is shown of its topic, as seen from
that page.
-/

namespace DocSite

/-! ## Topics -/

/-- What a page shows below its documentation. -/
inductive Subject where
  | signature (items : List SignatureItem)
  | functor (parameters : List FunctorParameter) (result : List SignatureItem)
  | members (items : List ClassItem)
  | pack (modules : List PackedModule)
  | text (docs : Docs)

/-- What a page is about: the declaration it belongs to, and what is to be said of it. -/
structure Topic where
  kind : PageKind
  name : String
  id : Identifier
  doc : Docs
  subject : Subject

namespace Topic

/-- The last segment of the page. -/
def segment (t : Topic) : String := t.kind.segment t.name

/-- The title of the page: that of a page of documentation is its name alone. -/
def title (t : Topic) : String :=
  match t.kind with
  | .page => t.id.name
  | kind => kind.title ++ " " ++ t.id.display

end Topic

/-- A topic with the topics below it, in order. -/
structure Outline where
  topic : Topic
  children : List Outline

/-! ## What is shown of a topic -/

/-- An item that may have a page, as the page around it shows it. -/
def Checked.item {Declared : Type} (declared : Checked Declared)
    (node : Declared → Bool → Noted Node) (hasPage : Bool) : Checked Content := do
  let declared ← declared
  let node ← node declared hasPage
  return .ofNode node

mutual

/-- The text of items, starting with comments shown or hidden. -/
def SignatureItem.shownAll (here : Here) (visibility : Visibility) :
    List SignatureItem → Checked Content
  | [] => return {}
  | item :: items => do
    let first ← item.shown here visibility
    let rest ← SignatureItem.shownAll here (item.visibilityAfter visibility) items
    return first ++ rest

@[inherit_doc SignatureItem.shownAll]
def SignatureItem.shown (here : Here) (visibility : Visibility) : SignatureItem → Checked Content
  | .module recursion id doc decl expansion =>
    .item (decl.render here id) (moduleNode here recursion id doc) expansion.isSome
  | .moduleType id doc expr expansion =>
    .item (moduleTypeTail here id expr) (moduleTypeNode here id doc) expansion.isSome
  | .moduleSubstitution id doc manifest =>
    return .ofNode (← renderModuleSubstitution here id doc manifest)
  | .type recursion decl => return .ofNode (← decl.render here recursion false)
  | .typeSubstitution decl => return .ofNode (← decl.render here .ordinary true)
  | .extension e => return .ofNode (← e.render here)
  | .exception e => return .ofNode (← e.renderException here)
  | .value v => return .ofNode (← v.render here)
  | .external e => return .ofNode (← e.render here)
  | .class recursion c => .item (c.type.render here) (c.node here recursion) c.expansion.isSome
  | .classType recursion c => .item (c.expr.render here) (c.node here recursion) c.expansion.isSome
  | .include parent doc decl expansion =>
    if doc.hasTag .inline then SignatureItem.shownAll here visibility expansion
    else do
      let head ← includeHead here parent doc decl
      let inner ← SignatureItem.shownAll here .visible expansion
      return includeBody here.settings doc head inner
  | .comment .stop => return {}
  | .comment (.docs docs) => docs.comment here visibility

end

/-- The text of functor parameters, from a position on. -/
def FunctorParameter.shownAll (here : Here) (position : Nat) :
    List FunctorParameter → Checked Content
  | [] => return {}
  | .unit :: parameters => FunctorParameter.shownAll here (position + 1) parameters
  | .named id type expansion :: parameters => do
    let first ← .item (parameterType here position id type) (parameterNode here position id)
      expansion.isSome
    let rest ← FunctorParameter.shownAll here (position + 1) parameters
    return first ++ rest

/-- Documentation as all that a page holds. -/
def Docs.content (here : Here) (docs : Docs) : Noted Content :=
  return ⟨← docs.render here, docs.headings, []⟩

/-- The text of the page about a subject. -/
def Subject.shown (here : Here) : Subject → Checked Content
  | .signature items => SignatureItem.shownAll here .visible items
  | .functor parameters result => do
    let parameters ← FunctorParameter.shownAll here 1 parameters
    let result ← SignatureItem.shownAll here .visible result
    return functorBody parameters result
  | .members items => ClassItem.renderAll here .visible items
  | .pack modules => PackedModule.renderAll here modules
  | .text docs => docs.content here

/-! ## What lies below a topic -/

/-- The page of a class, on which its members stand. -/
def ClassSignature.outlines (topic : Subject → Topic) : Option ClassSignature → List Outline
  | none => []
  | some sig => [⟨topic (.members sig.items), []⟩]

mutual

/-- The expansions that items carry, in order.  Those of an include are met where it stands. -/
def SignatureItem.outlinesAll : List SignatureItem → List Outline
  | [] => []
  | item :: items => item.outlines ++ SignatureItem.outlinesAll items

@[inherit_doc SignatureItem.outlinesAll]
def SignatureItem.outlines : SignatureItem → List Outline
  | .module _ id doc decl expansion =>
    ModuleExpansion.outlines (Topic.mk .module id.name id doc) (ModuleDecl.declared? decl) expansion
  | .moduleType id doc type expansion =>
    ModuleExpansion.outlines (Topic.mk .moduleType id.name id doc)
      (ModuleTypeExpr.optionDeclared? type) expansion
  | .class _ c => ClassSignature.outlines (Topic.mk .class c.id.name c.id c.doc) c.expansion
  | .classType _ c =>
    ClassSignature.outlines (Topic.mk .classType c.id.name c.id c.doc) c.expansion
  | .include _ _ _ expansion => SignatureItem.outlinesAll expansion
  | .moduleSubstitution .. | .type .. | .typeSubstitution .. | .extension .. | .exception ..
  | .value .. | .external .. | .comment .. => []

/-- The page of an expansion.  One that says to read the declared type is about that type; if that
is no signature there is nothing to read, and no rendering succeeds. -/
def ModuleExpansion.outlines (topic : Subject → Topic)
    (declared : Option (Subject × List Outline)) : Option ModuleExpansion → List Outline
  | none => []
  | some .asDeclared =>
    match declared with
    | some (subject, children) => [⟨topic subject, children⟩]
    | none => [⟨topic (.signature []), []⟩]
  | some (.signature items) => [⟨topic (.signature items), SignatureItem.outlinesAll items⟩]
  | some (.functor parameters result) =>
    [⟨topic (.functor parameters result),
      FunctorParameter.outlinesAll 1 parameters ++ SignatureItem.outlinesAll result⟩]

/-- What the declared type of a module is about, if it is a signature. -/
def ModuleDecl.declared? : ModuleDecl → Option (Subject × List Outline)
  | .moduleType (.signature items) => some (.signature items, SignatureItem.outlinesAll items)
  | _ => none

@[inherit_doc ModuleDecl.declared?]
def ModuleTypeExpr.declared? : ModuleTypeExpr → Option (Subject × List Outline)
  | .signature items => some (.signature items, SignatureItem.outlinesAll items)
  | _ => none

@[inherit_doc ModuleDecl.declared?]
def ModuleTypeExpr.optionDeclared? : Option ModuleTypeExpr → Option (Subject × List Outline)
  | some type => ModuleTypeExpr.declared? type
  | none => none

/-- The expansions of functor parameters, from a position on.  An empty parameter has none, but it
takes up its position. -/
def FunctorParameter.outlinesAll (position : Nat) : List FunctorParameter → List Outline
  | [] => []
  | .unit :: parameters => FunctorParameter.outlinesAll (position + 1) parameters
  | .named id type expansion :: parameters =>
    ModuleExpansion.outlines (Topic.mk .argument (parameterPageName position id) id [])
      (ModuleTypeExpr.declared? type) expansion ++
      FunctorParameter.outlinesAll (position + 1) parameters

end

/-- An expansion has one page, about the item that carries it. -/
theorem ModuleExpansion.outlines_of_isSome {expansion : Option ModuleExpansion}
    (h : expansion.isSome) (topic : Subject → Topic) (declared : Option (Subject × List Outline)) :
    ∃ subject children,
      ModuleExpansion.outlines topic declared expansion = [⟨topic subject, children⟩] := by
  match expansion, declared with
  | some .asDeclared, none => exact ⟨.signature [], [], rfl⟩
  | some .asDeclared, some (subject, children) => exact ⟨subject, children, rfl⟩
  | some (.signature items), _ => exact ⟨.signature items, _, rfl⟩
  | some (.functor parameters result), _ => exact ⟨.functor parameters result, _, rfl⟩

@[inherit_doc ModuleExpansion.outlines_of_isSome]
theorem ClassSignature.outlines_of_isSome {expansion : Option ClassSignature}
    (h : expansion.isSome) (topic : Subject → Topic) :
    ∃ subject, ClassSignature.outlines topic expansion = [⟨topic subject, []⟩] := by
  match expansion with
  | some sig => exact ⟨.members sig.items, rfl⟩

/-- The pages below the page about a subject. -/
def Subject.outlines : Subject → List Outline
  | .signature items => SignatureItem.outlinesAll items
  | .functor parameters result =>
    FunctorParameter.outlinesAll 1 parameters ++ SignatureItem.outlinesAll result
  | .members _ | .pack _ | .text _ => []

/-- What the page of a unit is about. -/
def UnitContent.subject : UnitContent → Subject
  | .module items => .signature items
  | .pack modules => .pack modules

/-- The outline of a root: its own page, and below it the pages of all expansions. -/
def Root.outline : Root → Outline
  | .unit u => ⟨⟨.unit, u.id.name, u.id, u.doc, u.content.subject⟩, u.content.subject.outlines⟩
  | .page p => ⟨⟨.page, p.id.name, p.id, [], .text p.content⟩, []⟩

/-! ## Pages of an outline -/

/-- The page is about the topic and stands at `here`: it has its name, kind and title, and it shows
what there is to show of the topic, seen from `here`. -/
structure Topic.Fits (here : Here) (t : Topic) (p : Page) : Prop where
  name : p.name = t.segment
  kind : p.kind = t.kind
  path : p.path = here.page
  title : p.title = t.title
  header : p.header = (t.doc.render here).value
  content : ∃ c ns, (t.subject.shown here).Gives c ns ∧
    p.body = c.body ∧ p.toc = t.doc.headings ++ c.toc

/-- What has to be noted on the page about a topic. -/
def Topic.notes (here : Here) (t : Topic) : List Note :=
  (t.doc.render here).notes ++ (t.subject.shown here).run.notes

namespace Outline

mutual

/-- An outline with all outlines inside it, each before those below it. -/
def nodes : Outline → List Outline
  | ⟨topic, children⟩ => ⟨topic, children⟩ :: nodesAll children

@[inherit_doc nodes]
def nodesAll : List Outline → List Outline
  | [] => []
  | o :: os => o.nodes ++ nodesAll os

end

mutual

/-- A tree of pages below `above` is the outline written out. -/
def Describes (cfg : Settings) (above : PagePath) : Outline → Page → Prop
  | ⟨topic, children⟩, page =>
    topic.Fits ⟨cfg, above ++ [topic.segment]⟩ page ∧
      DescribesAll cfg (above ++ [topic.segment]) children page.children

@[inherit_doc Describes]
def DescribesAll (cfg : Settings) (above : PagePath) : List Outline → List Page → Prop
  | [], [] => True
  | o :: os, page :: pages => o.Describes cfg above page ∧ DescribesAll cfg above os pages
  | _, _ => False

end

mutual

/-- The warnings that the pages of an outline give rise to. -/
def warnings (cfg : Settings) (above : PagePath) : Outline → List Warning
  | ⟨topic, children⟩ =>
    (topic.notes ⟨cfg, above ++ [topic.segment]⟩).map
        (Warning.mk ("/".intercalate (above ++ [topic.segment]))) ++
      warningsAll cfg (above ++ [topic.segment]) children

@[inherit_doc warnings]
def warningsAll (cfg : Settings) (above : PagePath) : List Outline → List Warning
  | [] => []
  | o :: os => o.warnings cfg above ++ warningsAll cfg above os

end

end Outline

end DocSite
