import DocSite.Proofs.Mentions
import DocSite.Proofs.ShownDocs

/-!
# References come from documentation

Among all that a page mentions, references come from documentation only: types, paths and
constraints have mentions of their own kinds.  So each reference among the mentions of a topic is a
piece of the documentation that its page shows (`Topic.covers_mentions`).  What holds of all pieces
of `Topic.docs` holds of all references that can become links of the page.
-/

namespace DocSite

/-- The mention, if it is a reference, is one of the pieces of text. -/
def Mention.In (xs : List Inline) : Mention → Prop
  | reference target => ∃ content, .reference target content ∈ xs
  | external _ | path .. | fragment .. | anchor _ | row _ | variantRow .. => True

/-- All references among the mentions are among the pieces of text. -/
def Inline.Cover (xs : List Inline) (ms : List Mention) : Prop := ∀ m ∈ ms, m.In xs

namespace Inline.Cover

variable {xs ys : List Inline} {m : Mention} {ms ns : List Mention}

theorem nil : Cover xs [] := fun _ h => absurd h List.not_mem_nil

theorem cons (hm : m.In xs) (h : Cover xs ms) : Cover xs (m :: ms) :=
  List.forall_mem_cons.mpr ⟨hm, h⟩

theorem append (h : Cover xs ms) (h' : Cover xs ns) : Cover xs (ms ++ ns) :=
  List.forall_mem_append.mpr ⟨h, h'⟩

theorem flatMap {α : Type} {as : List α} {f : α → List Mention} (h : ∀ a ∈ as, Cover xs (f a)) :
    Cover xs (as.flatMap f) := by
  intro m hm
  obtain ⟨a, ha, hm⟩ := List.mem_flatMap.mp hm
  exact h a ha m hm

theorem mono (h : Cover xs ms) (hsub : xs ⊆ ys) : Cover ys ms := by
  intro m hm
  have hin := h m hm
  cases m with
  | reference target =>
    obtain ⟨content, hcontent⟩ := hin
    exact ⟨content, hsub hcontent⟩
  | _ => trivial

theorem left (h : Cover xs ms) : Cover (xs ++ ys) ms := h.mono (List.subset_append_left _ _)

theorem right (h : Cover ys ms) : Cover (xs ++ ys) ms := h.mono (List.subset_append_right _ _)

end Inline.Cover

open Inline (Cover)

/-! ## Documentation -/

mutual

theorem Inline.cover_mentions : ∀ x : Inline, Cover x.pieces x.mentions
  | .text _ | .code _ => .nil
  | .emphasis xs | .bold xs => (Inline.cover_mentionsAll xs).mono (List.subset_cons_self _ _)
  | .link _ xs => .cons trivial ((Inline.cover_mentionsAll xs).mono (List.subset_cons_self _ _))
  | .reference _ xs =>
    .cons ⟨xs, List.mem_cons_self⟩ ((Inline.cover_mentionsAll xs).mono (List.subset_cons_self _ _))

theorem Inline.cover_mentionsAll :
    ∀ xs : List Inline, Cover (Inline.piecesAll xs) (Inline.mentionsAll xs)
  | [] => .nil
  | x :: xs => .append (Inline.cover_mentions x).left (Inline.cover_mentionsAll xs).right

end

theorem Tag.cover_mentions (t : Tag) : Cover t.pieces t.mentions := by
  cases t with
  | deprecated xs | «return» xs => exact Inline.cover_mentionsAll xs
  | «open» | closed | inline | author | since | version => exact .nil

mutual

theorem Block.cover_mentions : ∀ b : Block, Cover b.pieces b.mentions
  | .paragraph xs | .heading _ _ xs => Inline.cover_mentionsAll xs
  | .codeBlock _ | .verbatim _ => .nil
  | .list _ items => Block.cover_mentionsItems items
  | .tag t => t.cover_mentions

theorem Block.cover_mentionsAll :
    ∀ bs : List Block, Cover (Block.piecesAll bs) (Block.mentionsAll bs)
  | [] => .nil
  | b :: bs => .append (Block.cover_mentions b).left (Block.cover_mentionsAll bs).right

theorem Block.cover_mentionsItems :
    ∀ items : List (List Block), Cover (Block.piecesItems items) (Block.mentionsItems items)
  | [] => .nil
  | bs :: items => .append (Block.cover_mentionsAll bs).left (Block.cover_mentionsItems items).right

end

/-- All references among the mentions stand in the documentation. -/
def Docs.Covers (docs : Docs) (ms : List Mention) : Prop := Cover docs.pieces ms

namespace Docs

theorem Covers.mono {docs docs' : Docs} {ms : List Mention} (h : docs.Covers ms)
    (hsub : docs ⊆ docs') : docs'.Covers ms := by
  refine Inline.Cover.mono h fun x hx => ?_
  obtain ⟨b, hb, hpiece⟩ := mem_pieces.mp hx
  exact mem_pieces.mpr ⟨b, hsub hb, hpiece⟩

theorem Covers.left {docs : Docs} {ms : List Mention} (h : docs.Covers ms) (docs' : Docs) :
    (docs ++ docs').Covers ms :=
  h.mono (List.subset_append_left _ _)

theorem Covers.right {docs : Docs} {ms : List Mention} (h : docs.Covers ms) (docs' : Docs) :
    (docs' ++ docs).Covers ms :=
  h.mono (List.subset_append_right _ _)

theorem covers_mentions (docs : Docs) : docs.Covers docs.mentions := Block.cover_mentionsAll docs

theorem covers_itemMentions (docs : Docs) (hasPage : Bool) :
    (docs.ofItem hasPage).Covers (docs.itemMentions hasPage) := by
  cases hasPage with
  | false => exact docs.covers_mentions
  | true =>
    change Covers docs.synopsis?.toList docs.synopsisMentions
    rw [synopsisMentions]
    cases docs.synopsis? with
    | none => exact .nil
    | some b => exact (Block.cover_mentions b).left

theorem covers_commentMentions (docs : Docs) (visibility : Visibility) :
    (docs.ofComment visibility).Covers (docs.commentMentions visibility) := by
  cases visibility with
  | visible => exact docs.covers_mentions
  | hidden => exact .nil

end Docs

/-! ## Types -/

section Types

variable {xs : List Inline}

theorem Fragment.cover_mentions (f : Fragment) (base : Option Identifier) :
    Cover xs (f.mentions base) := by
  cases base with
  | none => exact .nil
  | some base => exact .cons trivial .nil

mutual

/-- Types have no references. -/
theorem TypeExpr.cover_mentions : ∀ t : TypeExpr, Cover xs t.mentions
  | .var _ | .any => .nil
  | .alias t _ | .poly _ t => TypeExpr.cover_mentions t
  | .arrow _ a b => .append (TypeExpr.cover_mentions a) (TypeExpr.cover_mentions b)
  | .tuple ts => TypeExpr.cover_mentionsAll ts
  | .constr _ ts | .class _ ts => .cons trivial (TypeExpr.cover_mentionsAll ts)
  | .variant _ es => VariantElement.cover_mentionsAll es
  | .object fs _ => ObjectField.cover_mentionsAll fs
  | .package p ss => .cons trivial (TypeExpr.cover_mentionsSubstitutions p.target? ss)

@[inherit_doc TypeExpr.cover_mentions]
theorem TypeExpr.cover_mentionsAll : ∀ ts : List TypeExpr, Cover xs (TypeExpr.mentionsAll ts)
  | [] => .nil
  | t :: ts => .append (TypeExpr.cover_mentions t) (TypeExpr.cover_mentionsAll ts)

@[inherit_doc TypeExpr.cover_mentions]
theorem TypeExpr.cover_mentionsSubstitutions (base : Option Identifier) :
    ∀ ss : List (Fragment × TypeExpr), Cover xs (TypeExpr.mentionsSubstitutions base ss)
  | [] => .nil
  | (f, t) :: ss =>
    .append (.append (f.cover_mentions base) (TypeExpr.cover_mentions t))
      (TypeExpr.cover_mentionsSubstitutions base ss)

@[inherit_doc TypeExpr.cover_mentions]
theorem VariantElement.cover_mentionsAll :
    ∀ es : List VariantElement, Cover xs (VariantElement.mentionsAll es)
  | [] => .nil
  | .inherit t :: es => .append (TypeExpr.cover_mentions t) (VariantElement.cover_mentionsAll es)
  | .tag _ ts _ :: es =>
    .append (TypeExpr.cover_mentionsAll ts) (VariantElement.cover_mentionsAll es)

@[inherit_doc TypeExpr.cover_mentions]
theorem ObjectField.cover_mentionsAll :
    ∀ fs : List ObjectField, Cover xs (ObjectField.mentionsAll fs)
  | [] => .nil
  | .method _ t :: fs | .inherit t :: fs =>
    .append (TypeExpr.cover_mentions t) (ObjectField.cover_mentionsAll fs)

end

theorem TypeEquation.cover_constraintMentions (constraints : List (TypeExpr × TypeExpr)) :
    Cover xs (TypeEquation.constraintMentions constraints) :=
  .flatMap fun c _ => .append c.1.cover_mentions c.2.cover_mentions

theorem TypeExpr.cover_optionMentions (t : Option TypeExpr) :
    Cover xs (t.toList.flatMap TypeExpr.mentions) :=
  .flatMap fun t _ => t.cover_mentions

mutual

/-- Module types have no references. -/
theorem ModuleTypeExpr.cover_mentions (base : Identifier) :
    ∀ t : ModuleTypeExpr, Cover xs (t.mentions base)
  | .path _ => .cons trivial .nil
  | .signature _ => .nil
  | .functor .unit result => ModuleTypeExpr.cover_mentions base result
  | .functor (.named _ type _) result =>
    .append (ModuleTypeExpr.cover_mentions base type) (ModuleTypeExpr.cover_mentions base result)
  | .constrained inner substitutions =>
    .append (ModuleTypeExpr.cover_mentions base inner)
      (Substitution.cover_mentionsAll (inner.constraintBase base) substitutions)
  | .typeOf decl => ModuleDecl.cover_mentions base decl

@[inherit_doc ModuleTypeExpr.cover_mentions]
theorem ModuleDecl.cover_mentions (base : Identifier) :
    ∀ decl : ModuleDecl, Cover xs (decl.mentions base)
  | .alias _ => .cons trivial .nil
  | .moduleType t => ModuleTypeExpr.cover_mentions base t

@[inherit_doc ModuleTypeExpr.cover_mentions]
theorem Substitution.cover_mentionsAll (base : Identifier) :
    ∀ ss : List Substitution, Cover xs (Substitution.mentionsAll base ss)
  | [] => .nil
  | s :: ss => .append (Substitution.cover_mentions base s) (Substitution.cover_mentionsAll base ss)

@[inherit_doc ModuleTypeExpr.cover_mentions]
theorem Substitution.cover_mentions (base : Identifier) :
    ∀ s : Substitution, Cover xs (s.mentions base)
  | .moduleEq _ decl => .cons trivial (ModuleDecl.cover_mentions base decl)
  | .moduleSubst _ _ => .cons trivial (.cons trivial .nil)
  | .typeEq _ e =>
    .append (.cons trivial (TypeExpr.cover_optionMentions e.manifest))
      (TypeEquation.cover_constraintMentions e.constraints)
  | .typeSubst _ e => .cons trivial (TypeExpr.cover_optionMentions e.manifest)

end

theorem ClassTypeExpr.cover_mentions (t : ClassTypeExpr) : Cover xs t.mentions := by
  cases t with
  | constr _ ts => exact .cons trivial (TypeExpr.cover_mentionsAll ts)
  | signature => exact .nil

theorem ClassDecl.cover_mentions (d : ClassDecl) : Cover xs d.mentions := by
  induction d with
  | classType t => exact t.cover_mentions
  | arrow _ a _ ih => exact .append a.cover_mentions ih

theorem FunctorParameter.cover_mentionsAll (parameters : List FunctorParameter) :
    Cover xs (FunctorParameter.mentionsAll parameters) := by
  induction parameters with
  | nil => exact .nil
  | cons parameter parameters ih =>
    cases parameter with
    | unit => exact ih
    | named id type expansion =>
      exact .append (ModuleTypeExpr.cover_mentions id type) (.cons trivial ih)

end Types

/-! ## Tables -/

theorem Table.mem_docs {ts : List (Table Element)} {b : Block} :
    b ∈ Table.docs ts ↔ ∃ t ∈ ts, ∃ e ∈ t.entries, b ∈ e.doc := by
  simp only [Table.docs, List.mem_flatMap]
  grind

theorem Table.docs_subset {ts us : List (Table Element)} (h : ts ⊆ us) :
    Table.docs ts ⊆ Table.docs us := by
  intro b hb
  obtain ⟨t, ht, hrow⟩ := Table.mem_docs.mp hb
  exact Table.mem_docs.mpr ⟨t, h ht, hrow⟩

namespace Element

/-- What a row of a table mentions, with the tables inside it. -/
def mentions : Element → List Mention
  | field f => f.mentions
  | constructor c => c.mentions
  | variant typeId e => e.mentions typeId

theorem covers_partsMentions (c : Constructor) :
    (Table.docs (constructor c).nested).Covers c.partsMentions := by
  refine .append ?_ (TypeExpr.cover_optionMentions c.result)
  rcases c with ⟨id, doc, ts | fields, result⟩
  · exact TypeExpr.cover_mentionsAll ts
  · refine .flatMap fun f hf => .append (.cons trivial f.type.cover_mentions) ?_
    refine f.doc.covers_mentions.mono fun b hb => ?_
    exact Table.mem_docs.mpr ⟨_, List.mem_cons_self, .field f, List.mem_map_of_mem hf, hb⟩

theorem covers_mentions (e : Element) : (e.doc ++ Table.docs e.nested).Covers e.mentions := by
  cases e with
  | field f =>
    exact .append (.cons trivial f.type.cover_mentions) (f.doc.covers_mentions.left _)
  | constructor c =>
    exact .append (.cons trivial ((covers_partsMentions c).right _)) (c.doc.covers_mentions.left _)
  | variant typeId e =>
    cases e with
    | «inherit» t => exact .append (.cons trivial t.cover_mentions) .nil
    | tag name ts doc =>
      exact .append (.cons trivial (TypeExpr.cover_mentionsAll ts)) (doc.covers_mentions.left _)

end Element

/-- The documentation of a table and of those inside it has all references of its rows. -/
theorem Table.covers_mentions {α : Type} (cls : String) (f : α → Element) (xs : List α) :
    (Table.docs (Table.withNested ⟨cls, xs.map f⟩)).Covers
      (xs.flatMap fun x => (f x).mentions) := by
  refine .flatMap fun x hx => (f x).covers_mentions.mono (List.append_subset.mpr ⟨?_, ?_⟩)
  · intro b hb
    exact Table.mem_docs.mpr ⟨_, List.mem_cons_self, f x, List.mem_map_of_mem hx, hb⟩
  · refine Table.docs_subset (List.subset_cons_of_subset _ fun u hu => ?_)
    exact List.mem_flatMap.mpr ⟨f x, List.mem_map_of_mem hx, hu⟩

/-! ## Declarations -/

namespace TypeDecl

theorem covers_manifestMentions (d : TypeDecl) :
    (Table.docs d.tables).Covers (manifestMentions d.id d.equation.manifest) := by
  rw [tables, outerTables, List.flatMap_append]
  cases d.equation.manifest with
  | none => exact .nil
  | some t =>
    cases t with
    | variant _ elements =>
      refine (Table.covers_mentions "variant" (.variant d.id) elements).mono (Table.docs_subset ?_)
      simp [manifestTables]
    | _ => exact TypeExpr.cover_mentions _

theorem covers_representationMentions (d : TypeDecl) :
    (Table.docs d.tables).Covers (representationMentions d.representation) := by
  rw [tables, outerTables, List.flatMap_append]
  rcases d.representation with _ | constructors | fields | _
  · exact .nil
  · refine (Table.covers_mentions "variant" .constructor constructors).mono (Table.docs_subset ?_)
    simp [representationTables]
  · refine (Table.covers_mentions "record" .field fields).mono (Table.docs_subset ?_)
    simp [representationTables]
  · exact .nil

theorem covers_mentions (d : TypeDecl) : (Table.docs d.tables ++ d.doc).Covers d.mentions := by
  have htables := Inline.Cover.append d.covers_manifestMentions d.covers_representationMentions
  refine .append (.append (Docs.Covers.left htables _) ?_) (.cons trivial ?_)
  · exact TypeEquation.cover_constraintMentions d.equation.constraints
  · exact d.doc.covers_mentions.right _

end TypeDecl

theorem Extension.covers_mentions (e : Extension) :
    (Table.docs e.tables ++ e.doc).Covers e.mentions := by
  have hrows := Table.covers_mentions "extension" .constructor e.constructors
  exact .append (.cons trivial (hrows.left _)) (e.doc.covers_mentions.right _)

theorem Constructor.covers_exceptionMentions (e : Constructor) :
    (Table.docs (Element.constructor e).nested ++ e.doc).Covers e.exceptionMentions :=
  .append (.cons trivial ((Element.covers_partsMentions e).left _)) (e.doc.covers_mentions.right _)

theorem covers_typedMentions (id : Identifier) (type : TypeExpr) (doc : Docs) :
    doc.Covers (typedMentions id type doc) :=
  .append (.cons trivial type.cover_mentions) doc.covers_mentions

/-! ## Pages -/

mutual

/-- The documentation shown with items has all references of the items. -/
theorem SignatureItem.covers_mentionsAll :
    ∀ (items : List SignatureItem) (visibility : Visibility),
      (SignatureItem.docsAll visibility items).Covers (SignatureItem.mentionsAll visibility items)
  | [], _ => .nil
  | item :: items, visibility =>
    .append ((SignatureItem.covers_mentions item visibility).left _)
      ((SignatureItem.covers_mentionsAll items (item.visibilityAfter visibility)).right _)

@[inherit_doc SignatureItem.covers_mentionsAll]
theorem SignatureItem.covers_mentions :
    ∀ (item : SignatureItem) (visibility : Visibility),
      (item.docs visibility).Covers (item.mentions visibility)
  | .module _ id doc decl expansion, _ =>
    .append (decl.cover_mentions id) (.cons trivial (doc.covers_itemMentions expansion.isSome))
  | .moduleType id doc expr expansion, _ =>
    .append (.flatMap fun t _ => t.cover_mentions id)
      (.cons trivial (doc.covers_itemMentions expansion.isSome))
  | .moduleSubstitution _ doc _, _ => .cons trivial (.cons trivial doc.covers_mentions)
  | .type _ decl, _ | .typeSubstitution decl, _ => decl.covers_mentions
  | .extension e, _ => e.covers_mentions
  | .exception e, _ => e.covers_exceptionMentions
  | .value v, _ => covers_typedMentions v.id v.type v.doc
  | .external e, _ => covers_typedMentions e.id e.type e.doc
  | .class _ c, _ =>
    .append c.type.cover_mentions (.cons trivial (c.doc.covers_itemMentions c.expansion.isSome))
  | .classType _ c, _ =>
    .append c.expr.cover_mentions (.cons trivial (c.doc.covers_itemMentions c.expansion.isSome))
  | .include parent doc decl expansion, visibility => by
    rw [SignatureItem.docs, SignatureItem.mentions]
    split
    · exact SignatureItem.covers_mentionsAll expansion visibility
    · exact .append (.append (decl.cover_mentions parent) (doc.covers_mentions.left _))
        ((SignatureItem.covers_mentionsAll expansion .visible).right _)
  | .comment .stop, _ => .nil
  | .comment (.docs docs), visibility => docs.covers_commentMentions visibility

end

theorem ClassItem.covers_mentionsAll (items : List ClassItem) (visibility : Visibility) :
    (ClassItem.docsAll visibility items).Covers (ClassItem.mentionsAll visibility items) := by
  induction items generalizing visibility with
  | nil => exact .nil
  | cons item items ih =>
    cases item with
    | method m => exact .append ((covers_typedMentions m.id m.type m.doc).left _) ((ih _).right _)
    | instanceVariable v =>
      exact .append ((covers_typedMentions v.id v.type v.doc).left _) ((ih _).right _)
    | constraint a b => exact .append (.append a.cover_mentions b.cover_mentions) (ih visibility)
    | «inherit» type => exact .append type.cover_mentions (ih visibility)
    | comment c =>
      cases c with
      | stop => exact ih visibility.toggle
      | docs docs =>
        exact .append ((docs.covers_commentMentions visibility).left _) ((ih visibility).right _)

theorem Subject.covers_mentions (subject : Subject) : subject.docs.Covers subject.mentions := by
  cases subject with
  | signature items => exact SignatureItem.covers_mentionsAll items .visible
  | functor parameters result =>
    exact .append (FunctorParameter.cover_mentionsAll parameters)
      (SignatureItem.covers_mentionsAll result .visible)
  | members items => exact ClassItem.covers_mentionsAll items .visible
  | pack modules => exact .flatMap fun m _ => .cons trivial (.cons trivial .nil)
  | text docs => exact docs.covers_mentions

/-- **Where references stand.**  Each reference among the mentions of a topic is a piece of the
documentation that its page shows. -/
theorem Topic.covers_mentions (t : Topic) : t.docs.Covers t.mentions :=
  .append (t.doc.covers_mentions.left _) (t.subject.covers_mentions.right _)

end DocSite
