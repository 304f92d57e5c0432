import DocSite.Proofs.Outline

/-!
# What a page mentions

The links of a page come from what its text mentions: links and references of the documentation,
paths, and fragments of a signature that is being constrained.  Each `Mention` says by itself which
links it can become on a page, and which notes it leaves there when it cannot be linked.  Anchors
are mentions too, since an identifier without an anchor leaves a note; they become no links.

The lists of this file collect the mentions of each part of an interface.  They follow what is shown
on one page: a signature that is written out mentions nothing, since its items have a page of their
own; an item with a page only shows the first paragraph of its documentation; hidden comments show
nothing.
-/

namespace DocSite

/-! ## Mentions -/

/-- The identifiers that the resolved parts of a path point at, each with whether it is located from
outside. -/
def Path.targets (stopBefore : Bool) : Path → List (Identifier × Bool)
  | .resolved p => [(p.target, stopBefore)]
  | .root _ | .forward _ => []
  | .dot p _ => p.targets true
  | .apply f a => f.targets stopBefore ++ a.targets false

/-- Something that the text of a page mentions, or anchors on it. -/
inductive Mention where
  | external (target : String)
  | reference (target : Identifier)
  | path (stopBefore : Bool) (path : Path)
  | fragment (base : Identifier) (fragment : Fragment)
  | anchor (id : Identifier)
  | row (id : Identifier)
  | variantRow (typeId : Identifier) (element : VariantElement)

namespace Mention

/-- The mention can become this link on the page.  Only links of the documentation are as they are
written; all others lead from the page to the location of an identifier. -/
def Links (here : Here) (href : String) : Mention → Prop
  | external target => href = target
  | reference target => here.settings.href here.page target false = .ok href
  | path stopBefore p =>
    ∃ target ∈ p.targets stopBefore,
      here.settings.href here.page target.1 target.2 = .ok href
  | fragment base f =>
    ∃ target ∈ f.target? base, here.settings.href here.page target true = .ok href
  | anchor _ | row _ | variantRow .. => False

/-- The mention fails on the page, and this is the note about it. -/
def Fails (here : Here) (note : Note) : Mention → Prop
  | external _ => False
  | reference target =>
    ∃ e, here.settings.href here.page target false = .error e ∧ note = .reference target e
  | path stopBefore p =>
    ∃ e, here.settings.pathMarkup here.page stopBefore p = .error e ∧ note = .path p e
  | fragment base f =>
    ∃ e, here.settings.fragmentMarkup here.page base f = .error e ∧ note = .fragment f e
  | anchor id => ∃ e, id.anchor = .error e ∧ note = .anchor id e
  | row id => ∃ e, id.anchor = .error e ∧ note = .row id e
  | variantRow typeId element =>
    ∃ e, element.anchor typeId = .error e ∧ note = .variantRow typeId e

end Mention

/-! ## Documentation -/

mutual

def Inline.mentions : Inline → List Mention
  | .text _ | .code _ => []
  | .emphasis xs | .bold xs => Inline.mentionsAll xs
  | .link target xs => .external target :: Inline.mentionsAll xs
  | .reference target xs => .reference target :: Inline.mentionsAll xs

def Inline.mentionsAll : List Inline → List Mention
  | [] => []
  | x :: xs => x.mentions ++ Inline.mentionsAll xs

end

def Tag.mentions : Tag → List Mention
  | .deprecated xs | .return xs => Inline.mentionsAll xs
  | .open | .closed | .inline | .author _ | .since _ | .version _ => []

mutual

def Block.mentions : Block → List Mention
  | .paragraph xs | .heading _ _ xs => Inline.mentionsAll xs
  | .codeBlock _ | .verbatim _ => []
  | .list _ items => Block.mentionsItems items
  | .tag t => t.mentions

def Block.mentionsAll : List Block → List Mention
  | [] => []
  | b :: bs => b.mentions ++ Block.mentionsAll bs

def Block.mentionsItems : List (List Block) → List Mention
  | [] => []
  | bs :: items => Block.mentionsAll bs ++ Block.mentionsItems items

end

namespace Docs

def mentions (docs : Docs) : List Mention := Block.mentionsAll docs

/-- The mentions of the first paragraph. -/
def synopsisMentions (docs : Docs) : List Mention :=
  match docs.synopsis? with
  | some b => b.mentions
  | none => []

/-- The documentation of an item is cut to its first paragraph if the item has a page. -/
def itemMentions (docs : Docs) (hasPage : Bool) : List Mention :=
  if hasPage then docs.synopsisMentions else docs.mentions

/-- A comment between items, if comments are shown. -/
def commentMentions (docs : Docs) : Visibility → List Mention
  | .visible => docs.mentions
  | .hidden => []

end Docs

/-! ## Types -/

/-- A fragment whose base is not known is only text. -/
def Fragment.mentions (f : Fragment) : Option Identifier → List Mention
  | some base => [.fragment base f]
  | none => []

mutual

def TypeExpr.mentions : TypeExpr → List Mention
  | .var _ | .any => []
  | .alias t _ => t.mentions
  | .arrow _ a b => a.mentions ++ b.mentions
  | .tuple ts => TypeExpr.mentionsAll ts
  | .constr p ts | .class p ts => .path false p :: TypeExpr.mentionsAll ts
  | .variant _ es => VariantElement.mentionsAll es
  | .object fs _ => ObjectField.mentionsAll fs
  | .poly _ t => t.mentions
  | .package p ss => .path false p :: TypeExpr.mentionsSubstitutions p.target? ss

def TypeExpr.mentionsAll : List TypeExpr → List Mention
  | [] => []
  | t :: ts => t.mentions ++ TypeExpr.mentionsAll ts

/-- The constraints of a package are on components of `base`. -/
def TypeExpr.mentionsSubstitutions (base : Option Identifier) :
    List (Fragment × TypeExpr) → List Mention
  | [] => []
  | (f, t) :: ss => f.mentions base ++ t.mentions ++ TypeExpr.mentionsSubstitutions base ss

/-- On one line, tags are shown without their documentation. -/
def VariantElement.mentionsAll : List VariantElement → List Mention
  | [] => []
  | .inherit t :: es => t.mentions ++ VariantElement.mentionsAll es
  | .tag _ ts _ :: es => TypeExpr.mentionsAll ts ++ VariantElement.mentionsAll es

def ObjectField.mentionsAll : List ObjectField → List Mention
  | [] => []
  | .method _ t :: fs | .inherit t :: fs => t.mentions ++ ObjectField.mentionsAll fs

end

/-- Both sides of each constraint. -/
def TypeEquation.constraintMentions (constraints : List (TypeExpr × TypeExpr)) : List Mention :=
  constraints.flatMap fun c => c.1.mentions ++ c.2.mentions

/-! ## Declarations -/

def Field.mentions (f : Field) : List Mention := .row f.id :: f.type.mentions ++ f.doc.mentions

namespace Constructor

def argumentMentions : ConstructorArguments → List Mention
  | .tuple ts => TypeExpr.mentionsAll ts
  | .record fields => fields.flatMap Field.mentions

def resultMentions (result : Option TypeExpr) : List Mention :=
  result.toList.flatMap TypeExpr.mentions

/-- The arguments and the result of a constructor. -/
def partsMentions (c : Constructor) : List Mention :=
  argumentMentions c.arguments ++ resultMentions c.result

/-- A constructor as a row of a table. -/
def mentions (c : Constructor) : List Mention :=
  .row c.id :: c.partsMentions ++ c.doc.mentions

end Constructor

namespace VariantElement

def textMentions : VariantElement → List Mention
  | inherit t => t.mentions
  | .tag _ ts _ => TypeExpr.mentionsAll ts

def docMentions : VariantElement → List Mention
  | inherit _ => []
  | .tag _ _ doc => doc.mentions

/-- An element as a row of a table, where tags have their documentation. -/
def mentions (typeId : Identifier) (e : VariantElement) : List Mention :=
  .variantRow typeId e :: e.textMentions ++ e.docMentions

end VariantElement

namespace TypeDecl

def manifestMentions (id : Identifier) : Option TypeExpr → List Mention
  | none => []
  | some (.variant _ elements) => elements.flatMap (VariantElement.mentions id)
  | some t => t.mentions

def representationMentions : Option TypeRepresentation → List Mention
  | none | some .extensible => []
  | some (.variant constructors) => constructors.flatMap Constructor.mentions
  | some (.record fields) => fields.flatMap Field.mentions

def mentions (d : TypeDecl) : List Mention :=
  manifestMentions d.id d.equation.manifest ++ representationMentions d.representation ++
    TypeEquation.constraintMentions d.equation.constraints ++ .anchor d.id :: d.doc.mentions

end TypeDecl

def Extension.mentions (e : Extension) : List Mention :=
  .path false e.path :: e.constructors.flatMap Constructor.mentions ++ e.doc.mentions

def Constructor.exceptionMentions (e : Constructor) : List Mention :=
  .anchor e.id :: e.partsMentions ++ e.doc.mentions

/-- Values, and all that is shown as a name with its type. -/
def typedMentions (id : Identifier) (type : TypeExpr) (doc : Docs) : List Mention :=
  .anchor id :: type.mentions ++ doc.mentions

/-! ## Module types -/

mutual

/-- The fragments of a constraint are relative to what is constrained, or to `base` if that is not
known. -/
def ModuleTypeExpr.mentions (base : Identifier) : ModuleTypeExpr → List Mention
  | .path p => [.path true p]
  | .signature _ => []
  | .functor .unit result => result.mentions base
  | .functor (.named _ type _) result => type.mentions base ++ result.mentions base
  | .constrained inner substitutions =>
    inner.mentions base ++ Substitution.mentionsAll (inner.constraintBase base) substitutions
  | .typeOf decl => decl.mentions base

def ModuleDecl.mentions (base : Identifier) : ModuleDecl → List Mention
  | .alias p => [.path true p]
  | .moduleType t => t.mentions base

def Substitution.mentionsAll (base : Identifier) : List Substitution → List Mention
  | [] => []
  | s :: ss => s.mentions base ++ Substitution.mentionsAll base ss

/-- A type that is replaced only shows by what. -/
def Substitution.mentions (base : Identifier) : Substitution → List Mention
  | .moduleEq f decl => .fragment base f :: decl.mentions base
  | .moduleSubst f p => [.fragment base f, .path true p]
  | .typeEq f e =>
    .fragment base f :: e.manifest.toList.flatMap TypeExpr.mentions ++
      TypeEquation.constraintMentions e.constraints
  | .typeSubst f e => .fragment base f :: e.manifest.toList.flatMap TypeExpr.mentions

end

/-! ## Classes -/

def ClassTypeExpr.mentions : ClassTypeExpr → List Mention
  | .constr p ts => .path false p :: TypeExpr.mentionsAll ts
  | .signature _ _ => []

def ClassDecl.mentions : ClassDecl → List Mention
  | .classType t => t.mentions
  | .arrow _ a d => a.mentions ++ d.mentions

/-- The members of a class, starting with comments shown or hidden. -/
def ClassItem.mentionsAll : Visibility → List ClassItem → List Mention
  | _, [] => []
  | visibility, .comment .stop :: items => ClassItem.mentionsAll visibility.toggle items
  | visibility, .comment (.docs docs) :: items =>
    docs.commentMentions visibility ++ ClassItem.mentionsAll visibility items
  | visibility, .method m :: items =>
    typedMentions m.id m.type m.doc ++ ClassItem.mentionsAll visibility items
  | visibility, .instanceVariable v :: items =>
    typedMentions v.id v.type v.doc ++ ClassItem.mentionsAll visibility items
  | visibility, .constraint a b :: items =>
    a.mentions ++ b.mentions ++ ClassItem.mentionsAll visibility items
  | visibility, .inherit type :: items => type.mentions ++ ClassItem.mentionsAll visibility items

/-! ## Pages -/

mutual

/-- The items of a signature, starting with comments shown or hidden. -/
def SignatureItem.mentionsAll (visibility : Visibility) : List SignatureItem → List Mention
  | [] => []
  | item :: items =>
    item.mentions visibility ++ SignatureItem.mentionsAll (item.visibilityAfter visibility) items

@[inherit_doc SignatureItem.mentionsAll]
def SignatureItem.mentions (visibility : Visibility) : SignatureItem → List Mention
  | .module _ id doc decl expansion =>
    decl.mentions id ++ .anchor id :: doc.itemMentions expansion.isSome
  | .moduleType id doc expr expansion =>
    expr.toList.flatMap (ModuleTypeExpr.mentions id) ++
      .anchor id :: doc.itemMentions expansion.isSome
  | .moduleSubstitution id doc manifest => .path true manifest :: .anchor id :: doc.mentions
  | .type _ decl | .typeSubstitution decl => decl.mentions
  | .extension e => e.mentions
  | .exception e => e.exceptionMentions
  | .value v => typedMentions v.id v.type v.doc
  | .external e => typedMentions e.id e.type e.doc
  | .class _ c => c.type.mentions ++ .anchor c.id :: c.doc.itemMentions c.expansion.isSome
  | .classType _ c => c.expr.mentions ++ .anchor c.id :: c.doc.itemMentions c.expansion.isSome
  | .include parent doc decl expansion =>
    if doc.hasTag .inline then SignatureItem.mentionsAll visibility expansion
    else decl.mentions parent ++ doc.mentions ++ SignatureItem.mentionsAll .visible expansion
  | .comment .stop => []
  | .comment (.docs docs) => docs.commentMentions visibility

end

def FunctorParameter.mentionsAll : List FunctorParameter → List Mention
  | [] => []
  | .unit :: parameters => FunctorParameter.mentionsAll parameters
  | .named id type _ :: parameters =>
    type.mentions id ++ .anchor id :: FunctorParameter.mentionsAll parameters

def PackedModule.mentions (m : PackedModule) : List Mention := [.path false m.path, .anchor m.id]

def Subject.mentions : Subject → List Mention
  | .signature items => SignatureItem.mentionsAll .visible items
  | .functor parameters result =>
    FunctorParameter.mentionsAll parameters ++ SignatureItem.mentionsAll .visible result
  | .members items => ClassItem.mentionsAll .visible items
  | .pack modules => modules.flatMap PackedModule.mentions
  | .text docs => docs.mentions

/-- All that the page about a topic mentions. -/
def Topic.mentions (t : Topic) : List Mention := t.doc.mentions ++ t.subject.mentions

end DocSite
