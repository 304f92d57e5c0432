import DocSite.Proofs.Locations
import DocSite.Proofs.TextLinks

/-!
# Links are relative to the page that carries them

Every link of a page comes from something that the page mentions, or leads to a page directly below
it; and it leads from that page and no other.  Every warning is about a mention of the page that it
names.

What a page shows is one text, as seen from that page.  So all that has to be said is that the text
of a signature, too, gets its links from its mentions and from the pages of its items.
-/

namespace DocSite

open TypeText

section Parts

variable {here : Here} {ok : String → Prop} {bad : Note → Prop}

/-! ## Module types -/

namespace TypeEquation

@[simp] theorem linksAre_head {name : Markup} {e : TypeEquation} :
    Markup.LinksAre ok (e.head name) ↔ Markup.LinksAre ok name := by
  simp [head]

theorem ensures_renderEqual {base : Identifier} {f : Fragment} {e : TypeEquation}
    (h : ∀ m ∈ (Substitution.typeEq f e).mentions base, m.Allowed here ok bad) :
    (e.renderEqual here base f).Ensures bad (Markup.LinksAre ok) := by
  rw [Substitution.mentions, List.cons_append, List.forall_mem_cons, List.forall_mem_append] at h
  obtain ⟨hf, hmanifest, hconstraints⟩ := h
  refine (Here.ensures_fragment hf).bind fun name hname => ?_
  have hrest : ∀ manifest, Markup.LinksAre ok manifest →
      (do
        let constraints ← TypeEquation.renderConstraints here e.constraints
        return e.head name ++ manifest ++ constraints : Noted Markup).Ensures bad
          (Markup.LinksAre ok) := by
    intro manifest hmanifest
    refine (ensures_renderConstraints hconstraints).bind fun constraints hcs => .pure ?_
    simp [hname, hmanifest, hcs]
  cases hm : e.manifest with
  | none => exact hrest [] (by simp)
  | some t =>
    have ht : ∀ m ∈ t.mentions, m.Allowed here ok bad := by simpa [hm] using hmanifest
    refine (TypeExpr.ensures_render ht).bind fun type htype => hrest _ ?_
    cases e.isPrivate <;> simp [htype]

theorem ensures_renderReplaced {base : Identifier} {f : Fragment} {e : TypeEquation} {t : TypeExpr}
    (hf : (Mention.fragment base f).Allowed here ok bad)
    (ht : ∀ m ∈ t.mentions, m.Allowed here ok bad) :
    (e.renderReplaced here base f t).Ensures bad (Markup.LinksAre ok) := by
  refine (Here.ensures_fragment hf).bind fun name hname => ?_
  refine (TypeExpr.ensures_render ht).bind fun type htype => .pure ?_
  simp [hname, htype]

end TypeEquation

mutual

theorem ModuleTypeExpr.ensures_render :
    ∀ {t : ModuleTypeExpr} {base : Identifier},
      (∀ m ∈ t.mentions base, m.Allowed here ok bad) →
      (t.render here base).Ensures bad (Markup.LinksAre ok)
  | .path p, base, h => .lift (Here.ensures_path (h _ (List.mem_singleton.mpr rfl)))
  | .signature _, base, _ => .pure (by simp)
  | .functor .unit result, base, h => by
    rw [ModuleTypeExpr.mentions] at h
    refine (ModuleTypeExpr.ensures_render h).bind fun result hresult => .pure ?_
    simp [hresult]
  | .functor (.named id type _) result, base, h => by
    rw [ModuleTypeExpr.mentions, List.forall_mem_append] at h
    refine (ModuleTypeExpr.ensures_render h.1).bind fun parameter hparameter => ?_
    refine (ModuleTypeExpr.ensures_render h.2).bind fun result hresult => .pure ?_
    simp [hparameter, hresult]
  | .constrained inner substitutions, base, h => by
    rw [ModuleTypeExpr.mentions, List.forall_mem_append] at h
    refine (ModuleTypeExpr.ensures_render h.1).bind fun shown hshown => ?_
    refine (Substitution.ensures_renderAll h.2).bind fun parts hparts => .pure ?_
    have hjoin : Markup.LinksAre ok (Markup.join [.keyword " and "] parts) :=
      Markup.linksAre_join (by simp) hparts
    simp [hshown, hjoin]
  | .typeOf decl, base, h => by
    rw [ModuleTypeExpr.mentions] at h
    refine (ModuleDecl.ensures_renderBody h).bind fun shown hshown => .pure ?_
    simp [hshown]

theorem ModuleDecl.ensures_renderBody :
    ∀ {decl : ModuleDecl} {base : Identifier},
      (∀ m ∈ decl.mentions base, m.Allowed here ok bad) →
      (decl.renderBody here base).Ensures bad (Markup.LinksAre ok)
  | .alias p, base, h => .lift (Here.ensures_path (h _ (List.mem_singleton.mpr rfl)))
  | .moduleType t, base, h => by
    rw [ModuleDecl.mentions] at h
    exact ModuleTypeExpr.ensures_render h

theorem Substitution.ensures_renderAll :
    ∀ {ss : List Substitution} {base : Identifier},
      (∀ m ∈ Substitution.mentionsAll base ss, m.Allowed here ok bad) →
      (Substitution.renderAll here base ss).Ensures bad fun parts =>
        ∀ part ∈ parts, Markup.LinksAre ok part
  | [], base, _ => .pure (by simp)
  | s :: ss, base, h => by
    rw [Substitution.mentionsAll, List.forall_mem_append] at h
    refine (Substitution.ensures_render h.1).bind fun part hpart => ?_
    refine (Substitution.ensures_renderAll h.2).bind fun parts hparts => .pure ?_
    exact List.forall_mem_cons.mpr ⟨hpart, hparts⟩

theorem Substitution.ensures_render :
    ∀ {s : Substitution} {base : Identifier}, (∀ m ∈ s.mentions base, m.Allowed here ok bad) →
      (s.render here base).Ensures bad (Markup.LinksAre ok)
  | .moduleEq f decl, base, h => by
    rw [Substitution.mentions, List.forall_mem_cons] at h
    refine Checked.Ensures.bind (.lift (Here.ensures_fragment h.1)) fun name hname => ?_
    refine (ModuleDecl.ensures_renderBody h.2).bind fun shown hshown => .pure ?_
    simp [hname, hshown]
  | .moduleSubst f p, base, h => by
    rw [Substitution.mentions, List.forall_mem_cons, List.forall_mem_singleton] at h
    refine Checked.Ensures.bind (.lift (Here.ensures_fragment h.1)) fun name hname => ?_
    refine Checked.Ensures.bind (.lift (Here.ensures_path h.2)) fun path hpath => .pure ?_
    simp [hname, hpath]
  | .typeEq f e, base, h => .lift (TypeEquation.ensures_renderEqual h)
  | .typeSubst f e, base, h => by
    rw [Substitution.mentions, List.forall_mem_cons] at h
    rw [Substitution.render]
    cases hm : e.manifest with
    | none => exact .throw _
    | some t =>
      have ht : ∀ m ∈ t.mentions, m.Allowed here ok bad := by simpa [hm] using h.2
      exact .lift (TypeEquation.ensures_renderReplaced h.1 ht)

end

theorem ModuleDecl.ensures_render {decl : ModuleDecl} {base : Identifier}
    (h : ∀ m ∈ decl.mentions base, m.Allowed here ok bad) :
    (decl.render here base).Ensures bad (Markup.LinksAre ok) := by
  refine (ModuleDecl.ensures_renderBody h).bind fun shown hshown => .pure ?_
  simp [hshown]

/-! ## Classes -/

theorem ClassTypeExpr.ensures_render {t : ClassTypeExpr}
    (h : ∀ m ∈ t.mentions, m.Allowed here ok bad) :
    (t.render here).Ensures bad (Markup.LinksAre ok) := by
  cases t with
  | signature self items => exact .pure (by simp)
  | constr p ts =>
    rw [ClassTypeExpr.mentions, List.forall_mem_cons] at h
    refine (Here.ensures_path h.1).bind fun path hpath => ?_
    refine (TypeExpr.ensures_renderAll h.2).bind fun arguments harguments => .pure ?_
    exact linksAre_application harguments hpath

theorem ClassDecl.ensures_render {d : ClassDecl} (h : ∀ m ∈ d.mentions, m.Allowed here ok bad) :
    (d.render here).Ensures bad (Markup.LinksAre ok) := by
  induction d with
  | classType t => exact ClassTypeExpr.ensures_render h
  | arrow l a d ih =>
    rw [ClassDecl.mentions, List.forall_mem_append] at h
    refine (TypeExpr.ensures_render h.1).bind fun source hsource => ?_
    refine (ih h.2).bind fun target htarget => .pure ?_
    simp [hsource, htarget]

@[simp] theorem linksAre_keywordIf {due : Bool} {word : String} :
    Markup.LinksAre ok (keywordIf due word) := by
  cases due <;> simp [keywordIf]

theorem ClassItem.ensures_renderAll :
    ∀ {items : List ClassItem} {visibility : Visibility},
      (∀ m ∈ ClassItem.mentionsAll visibility items, m.Allowed here ok bad) →
      (ClassItem.renderAll here visibility items).Ensures bad fun c => Markup.LinksAre ok c.body
  | [], _, _ => .pure (by simp)
  | .comment .stop :: items, visibility, h => by
    rw [ClassItem.mentionsAll] at h
    rw [ClassItem.renderAll]
    exact ClassItem.ensures_renderAll h
  | .comment (.docs docs) :: items, visibility, h => by
    rw [ClassItem.mentionsAll, List.forall_mem_append] at h
    refine Checked.Ensures.bind (.lift (Docs.ensures_comment h.1)) fun first hfirst => ?_
    refine (ClassItem.ensures_renderAll h.2).bind fun rest hrest => .pure ?_
    simp [hfirst, hrest]
  | .method m :: items, visibility, h => by
    rw [ClassItem.mentionsAll, List.forall_mem_append] at h
    have hnode : (m.render here).Ensures bad (Node.LinksAre ok) :=
      ensures_typed h.1 fun type anchor doc htype hdoc => by simp [htype, hdoc]
    refine Checked.Ensures.bind (.lift hnode) fun node hnode => ?_
    refine (ClassItem.ensures_renderAll h.2).bind fun rest hrest => .pure ?_
    simp [hnode, hrest]
  | .instanceVariable v :: items, visibility, h => by
    rw [ClassItem.mentionsAll, List.forall_mem_append] at h
    have hnode : (v.render here).Ensures bad (Node.LinksAre ok) :=
      ensures_typed h.1 fun type anchor doc htype hdoc => by simp [htype, hdoc]
    refine Checked.Ensures.bind (.lift hnode) fun node hnode => ?_
    refine (ClassItem.ensures_renderAll h.2).bind fun rest hrest => .pure ?_
    simp [hnode, hrest]
  | .constraint a b :: items, visibility, h => by
    rw [ClassItem.mentionsAll, List.forall_mem_append, List.forall_mem_append] at h
    have hnode : (ClassItem.renderConstraint here a b).Ensures bad (Node.LinksAre ok) := by
      refine (TypeExpr.ensures_render h.1.1).bind fun left hleft => ?_
      refine (TypeExpr.ensures_render h.1.2).bind fun right hright => .pure ?_
      simp [hleft, hright]
    refine Checked.Ensures.bind (.lift hnode) fun node hnode => ?_
    refine (ClassItem.ensures_renderAll h.2).bind fun rest hrest => .pure ?_
    simp [hnode, hrest]
  | .inherit (.signature self members) :: items, visibility, h => .throw _
  | .inherit (.constr p ts) :: items, visibility, h => by
    rw [ClassItem.mentionsAll, List.forall_mem_append] at h
    have hnode : (ClassItem.renderInherited here (.constr p ts)).Ensures bad
        (Node.LinksAre ok) := by
      refine (ClassTypeExpr.ensures_render h.1).bind fun type htype => .pure ?_
      simp [htype]
    refine Checked.Ensures.bind (.lift hnode) fun node hnode => ?_
    refine (ClassItem.ensures_renderAll h.2).bind fun rest hrest => .pure ?_
    simp [hnode, hrest]

/-! ## Items -/

/-- The heading of an item: if the item has a page, the name links to it. -/
theorem Here.ensures_heading {kind : PageKind} {name : String} {doc : Docs} {hasPage : Bool}
    (hdoc : ∀ m ∈ doc.itemMentions hasPage, m.Allowed here ok bad)
    (hpage : hasPage = true → ok (kind.hrefBelow name here.settings.semanticUris)) :
    (here.heading kind name doc hasPage).Ensures bad fun p =>
      p.1.LinksAre ok ∧ Markup.LinksAre ok p.2 := by
  cases hasPage with
  | true =>
    refine (Docs.ensures_renderSynopsis hdoc).bind fun shown hshown => .pure ⟨?_, hshown⟩
    simpa [Here.linkBelow] using hpage rfl
  | false =>
    refine (Docs.ensures_render hdoc).bind fun shown hshown => .pure ⟨?_, hshown⟩
    simp

theorem Checked.ensures_item {Declared : Type} {R : Declared → Prop} {declared : Checked Declared}
    {node : Declared → Bool → Noted Node} {hasPage : Bool} (hdeclared : declared.Ensures bad R)
    (hnode : ∀ d, R d → (node d hasPage).Ensures bad (Node.LinksAre ok)) :
    (Checked.item declared node hasPage).Ensures bad fun c => Markup.LinksAre ok c.body := by
  refine hdeclared.bind fun d hd => ?_
  refine Checked.Ensures.bind (.lift (hnode d hd)) fun n hn => .pure ?_
  simp [hn]

theorem Checked.ensures_plain {node : Noted Node} (h : node.Ensures bad (Node.LinksAre ok)) :
    Checked.Ensures bad (fun c => Markup.LinksAre ok c.body)
      (do return Content.ofNode (← node) : Checked Content) := by
  refine Checked.Ensures.bind (.lift h) fun n hn => .pure ?_
  simp [hn]

@[simp] theorem linksAre_classKeywords {head : String} {isVirtual : Bool}
    {parameters : List TypeParameter} :
    Markup.LinksAre ok (classKeywords head isVirtual parameters) := by
  cases parameters <;> simp [classKeywords]

theorem linksAre_includeBody {cfg : Settings} {doc : Docs} {head : Markup × Markup}
    {inner : Content} (hsummary : Markup.LinksAre ok head.1) (hdoc : Markup.LinksAre ok head.2)
    (hinner : Markup.LinksAre ok inner.body) :
    Markup.LinksAre ok (includeBody cfg doc head inner).body := by
  obtain ⟨summary, shown⟩ := head
  cases shown <;> simp_all [includeBody, Markup.block]

theorem moduleTypeTail_ensures {id : Identifier} {expr : Option ModuleTypeExpr}
    (h : ∀ m ∈ expr.toList.flatMap (ModuleTypeExpr.mentions id), m.Allowed here ok bad) :
    (moduleTypeTail here id expr).Ensures bad (Markup.LinksAre ok) := by
  cases expr with
  | none => exact .pure (by simp)
  | some t =>
    have ht : ∀ m ∈ t.mentions id, m.Allowed here ok bad := by simpa using h
    refine (ModuleTypeExpr.ensures_render ht).bind fun shown hshown => .pure ?_
    simp [hshown]

/-- If an expansion has a page, the link to it is `ok`. -/
theorem ModuleExpansion.ok_of_outlines {kind : PageKind} {name : String} {id : Identifier}
    {doc : Docs} {declared : Option (Subject × List Outline)} {expansion : Option ModuleExpansion}
    (h : ∀ o ∈ ModuleExpansion.outlines (Topic.mk kind name id doc) declared expansion,
      ok (o.topic.kind.hrefBelow o.topic.name here.settings.semanticUris))
    (hsome : expansion.isSome = true) :
    ok (kind.hrefBelow name here.settings.semanticUris) := by
  obtain ⟨subject, children, heq⟩ :=
    ModuleExpansion.outlines_of_isSome hsome (Topic.mk kind name id doc) declared
  exact h ⟨⟨kind, name, id, doc, subject⟩, children⟩ (by rw [heq]; exact List.mem_cons_self)

@[inherit_doc ModuleExpansion.ok_of_outlines]
theorem ClassSignature.ok_of_outlines {kind : PageKind} {name : String} {id : Identifier}
    {doc : Docs} {expansion : Option ClassSignature}
    (h : ∀ o ∈ ClassSignature.outlines (Topic.mk kind name id doc) expansion,
      ok (o.topic.kind.hrefBelow o.topic.name here.settings.semanticUris))
    (hsome : expansion.isSome = true) :
    ok (kind.hrefBelow name here.settings.semanticUris) := by
  obtain ⟨subject, heq⟩ := ClassSignature.outlines_of_isSome hsome (Topic.mk kind name id doc)
  exact h ⟨⟨kind, name, id, doc, subject⟩, []⟩ (by rw [heq]; exact List.mem_cons_self)

mutual

/-- The links of a signature come from its mentions and from the pages of its items. -/
theorem SignatureItem.ensures_shownAll :
    ∀ {items : List SignatureItem} {visibility : Visibility},
      (∀ m ∈ SignatureItem.mentionsAll visibility items, m.Allowed here ok bad) →
      (∀ o ∈ SignatureItem.outlinesAll items,
        ok (o.topic.kind.hrefBelow o.topic.name here.settings.semanticUris)) →
      (SignatureItem.shownAll here visibility items).Ensures bad fun c =>
        Markup.LinksAre ok c.body
  | [], _, _, _ => .pure (by simp)
  | item :: items, visibility, h, hpages => by
    rw [SignatureItem.mentionsAll, List.forall_mem_append] at h
    rw [SignatureItem.outlinesAll, List.forall_mem_append] at hpages
    refine (SignatureItem.ensures_shown h.1 hpages.1).bind fun first hfirst => ?_
    refine (SignatureItem.ensures_shownAll h.2 hpages.2).bind fun rest hrest => .pure ?_
    simp [hfirst, hrest]

@[inherit_doc SignatureItem.ensures_shownAll]
theorem SignatureItem.ensures_shown :
    ∀ {item : SignatureItem} {visibility : Visibility},
      (∀ m ∈ item.mentions visibility, m.Allowed here ok bad) →
      (∀ o ∈ item.outlines,
        ok (o.topic.kind.hrefBelow o.topic.name here.settings.semanticUris)) →
      (item.shown here visibility).Ensures bad fun c => Markup.LinksAre ok c.body
  | .module recursion id doc decl expansion, visibility, h, hpages => by
    rw [SignatureItem.mentions, List.forall_mem_append, List.forall_mem_cons] at h
    rw [SignatureItem.outlines] at hpages
    have hpage := ModuleExpansion.ok_of_outlines hpages
    refine Checked.ensures_item (ModuleDecl.ensures_render h.1) fun d hd => ?_
    refine (Here.ensures_heading h.2.2 hpage).bind fun heading hheading => ?_
    refine (Identifier.ensures_anchor h.2.1).bind fun anchor _ => .pure ?_
    simp [hheading, hd]
  | .moduleType id doc expr expansion, visibility, h, hpages => by
    rw [SignatureItem.mentions, List.forall_mem_append, List.forall_mem_cons] at h
    rw [SignatureItem.outlines] at hpages
    have hpage := ModuleExpansion.ok_of_outlines hpages
    refine Checked.ensures_item (moduleTypeTail_ensures h.1) fun d hd => ?_
    refine (Here.ensures_heading h.2.2 hpage).bind fun heading hheading => ?_
    refine (Identifier.ensures_anchor h.2.1).bind fun anchor _ => .pure ?_
    simp [hheading, hd]
  | .moduleSubstitution id doc manifest, _, h, _ =>
    Checked.ensures_plain (ensures_renderModuleSubstitution h)
  | .type recursion decl, _, h, _ => Checked.ensures_plain (TypeDecl.ensures_render h)
  | .typeSubstitution decl, _, h, _ => Checked.ensures_plain (TypeDecl.ensures_render h)
  | .extension e, _, h, _ => Checked.ensures_plain (Extension.ensures_render h)
  | .exception e, _, h, _ => Checked.ensures_plain (Constructor.ensures_renderException h)
  | .value v, _, h, _ => Checked.ensures_plain <|
    ensures_typed h fun type anchor doc htype hdoc => by simp [htype, hdoc]
  | .external e, _, h, _ => Checked.ensures_plain <|
    ensures_typed h fun type anchor doc htype hdoc => by simp [htype, hdoc]
  | .class recursion c, visibility, h, hpages => by
    rw [SignatureItem.mentions, List.forall_mem_append, List.forall_mem_cons] at h
    rw [SignatureItem.outlines] at hpages
    have hpage := ClassSignature.ok_of_outlines hpages
    refine Checked.ensures_item (.lift (ClassDecl.ensures_render h.1)) fun d hd => ?_
    refine (Here.ensures_heading h.2.2 hpage).bind fun heading hheading => ?_
    refine (Identifier.ensures_anchor h.2.1).bind fun anchor _ => .pure ?_
    simp [hheading, hd]
  | .classType recursion c, visibility, h, hpages => by
    rw [SignatureItem.mentions, List.forall_mem_append, List.forall_mem_cons] at h
    rw [SignatureItem.outlines] at hpages
    have hpage := ClassSignature.ok_of_outlines hpages
    refine Checked.ensures_item (.lift (ClassTypeExpr.ensures_render h.1)) fun d hd => ?_
    refine (Here.ensures_heading h.2.2 hpage).bind fun heading hheading => ?_
    refine (Identifier.ensures_anchor h.2.1).bind fun anchor _ => .pure ?_
    simp [hheading, hd]
  | .include parent doc decl expansion, visibility, h, hpages => by
    rw [SignatureItem.mentions] at h
    rw [SignatureItem.outlines] at hpages
    rw [SignatureItem.shown]
    split at h
    · rename_i hinline
      rw [if_pos hinline]
      exact SignatureItem.ensures_shownAll h hpages
    · rename_i hinline
      rw [if_neg hinline]
      rw [List.forall_mem_append, List.forall_mem_append] at h
      have hhead : (includeHead here parent doc decl).Ensures bad fun head =>
          Markup.LinksAre ok head.1 ∧ Markup.LinksAre ok head.2 := by
        refine (ModuleDecl.ensures_renderBody h.1.1).bind fun summary hsummary => ?_
        refine Checked.Ensures.bind (.lift (Docs.ensures_render h.1.2)) fun shown hshown => ?_
        exact .pure ⟨hsummary, hshown⟩
      refine hhead.bind fun head hhead => ?_
      refine (SignatureItem.ensures_shownAll h.2 hpages).bind fun inner hinner => .pure ?_
      exact linksAre_includeBody hhead.1 hhead.2 hinner
  | .comment .stop, _, _, _ => .pure (by simp)
  | .comment (.docs docs), _, h, _ => .lift (Docs.ensures_comment h)

end

/-! ## Subjects -/

theorem ensures_checkArgument (position : Nat) (id : Identifier) :
    (checkArgument position id).Ensures bad fun _ => True := by
  rw [checkArgument]
  split
  · split
    · exact .pure trivial
    · exact .throw _
  · exact .throw _

theorem ensures_parameterNode {position : Nat} {id : Identifier} {type : Markup} {hasPage : Bool}
    (hanchor : (Mention.anchor id).Allowed here ok bad)
    (hpage : hasPage = true →
      ok (PageKind.argument.hrefBelow (parameterPageName position id) here.settings.semanticUris))
    (htype : Markup.LinksAre ok type) :
    (parameterNode here position id type hasPage).Ensures bad (Node.LinksAre ok) := by
  refine (Identifier.ensures_anchor hanchor).bind fun anchor _ => .pure ?_
  cases hasPage with
  | true => simp [Here.linkBelow, hpage rfl, htype]
  | false => simp [htype]

theorem FunctorParameter.ensures_shownAll :
    ∀ {parameters : List FunctorParameter} {position : Nat},
      (∀ m ∈ FunctorParameter.mentionsAll parameters, m.Allowed here ok bad) →
      (∀ o ∈ FunctorParameter.outlinesAll position parameters,
        ok (o.topic.kind.hrefBelow o.topic.name here.settings.semanticUris)) →
      (FunctorParameter.shownAll here position parameters).Ensures bad fun c =>
        Markup.LinksAre ok c.body
  | [], _, _, _ => .pure (by simp)
  | .unit :: parameters, position, h, hpages => by
    rw [FunctorParameter.mentionsAll] at h
    rw [FunctorParameter.outlinesAll] at hpages
    rw [FunctorParameter.shownAll]
    exact FunctorParameter.ensures_shownAll h hpages
  | .named id type expansion :: parameters, position, h, hpages => by
    rw [FunctorParameter.mentionsAll, List.forall_mem_append, List.forall_mem_cons] at h
    rw [FunctorParameter.outlinesAll, List.forall_mem_append] at hpages
    have hpage := ModuleExpansion.ok_of_outlines hpages.1
    have htype : (parameterType here position id type).Ensures bad (Markup.LinksAre ok) :=
      (ensures_checkArgument position id).bind fun _ _ => ModuleTypeExpr.ensures_render h.1
    have hfirst := Checked.ensures_item htype fun d hd => ensures_parameterNode h.2.1 hpage hd
    refine hfirst.bind fun first hfirst => ?_
    refine (FunctorParameter.ensures_shownAll h.2.2 hpages.2).bind fun rest hrest => .pure ?_
    simp [hfirst, hrest]

theorem PackedModule.ensures_renderAll {modules : List PackedModule}
    (h : ∀ m ∈ modules.flatMap PackedModule.mentions, m.Allowed here ok bad) :
    (PackedModule.renderAll here modules).Ensures bad fun c => Markup.LinksAre ok c.body := by
  induction modules with
  | nil => exact .pure (by simp)
  | cons m modules ih =>
    rw [List.flatMap_cons, List.forall_mem_append, PackedModule.mentions, List.forall_mem_cons,
      List.forall_mem_singleton] at h
    refine (Here.ensures_path h.1.1).bind fun path hpath => ?_
    refine (Identifier.ensures_anchor h.1.2).bind fun anchor _ => ?_
    refine (ih h.2).bind fun rest hrest => .pure ?_
    simp [hpath, hrest]

theorem linksAre_functorBody {parameters result : Content}
    (hparameters : Markup.LinksAre ok parameters.body) (hresult : Markup.LinksAre ok result.body) :
    Markup.LinksAre ok (functorBody parameters result).body := by
  have hitems : ∀ item ∈ parameters.body.map fun node => [node], Markup.LinksAre ok item := by
    intro item hitem
    obtain ⟨node, hnode, rfl⟩ := List.mem_map.mp hitem
    intro href children hmem
    refine hparameters href children (Markup.allNodes_subset_of_mem hnode ?_)
    simpa [Markup.allNodes] using hmem
  simpa [functorBody, hresult] using hitems

/-- **Links of a page.**  They come from what its subject mentions, and from the pages below. -/
theorem Subject.ensures_shown {subject : Subject}
    (h : ∀ m ∈ subject.mentions, m.Allowed here ok bad)
    (hpages : ∀ o ∈ subject.outlines,
      ok (o.topic.kind.hrefBelow o.topic.name here.settings.semanticUris)) :
    (subject.shown here).Ensures bad fun c => Markup.LinksAre ok c.body := by
  cases subject with
  | signature items => exact SignatureItem.ensures_shownAll h hpages
  | functor parameters result =>
    rw [Subject.mentions, List.forall_mem_append] at h
    rw [Subject.outlines, List.forall_mem_append] at hpages
    refine (FunctorParameter.ensures_shownAll h.1 hpages.1).bind fun a ha => ?_
    refine (SignatureItem.ensures_shownAll h.2 hpages.2).bind fun b hb => .pure ?_
    exact linksAre_functorBody ha hb
  | members items => exact ClassItem.ensures_renderAll h
  | pack modules => exact .lift (PackedModule.ensures_renderAll h)
  | text docs =>
    refine .lift ((Docs.ensures_render h).bind fun body hbody => .pure hbody)

end Parts

/-! ## Pages and warnings -/

namespace Topic

variable {cfg : Settings} {t : Topic} {page : Page}

/-- The links that the page about a topic may have. -/
def MayLink (here : Here) (t : Topic) (href : String) : Prop :=
  (∃ m ∈ t.mentions, m.Links here href) ∨
    ∃ o ∈ t.subject.outlines, href = o.topic.kind.hrefBelow o.topic.name here.settings.semanticUris

/-- The notes that the page about a topic may leave. -/
def MayNote (here : Here) (t : Topic) (note : Note) : Prop := ∃ m ∈ t.mentions, m.Fails here note

theorem allowed_of_mem_mentions {here : Here} {m : Mention} (h : m ∈ t.mentions) :
    m.Allowed here (t.MayLink here) (t.MayNote here) :=
  ⟨fun _ hlinks => .inl ⟨m, h, hlinks⟩, fun _ hfails => ⟨m, h, hfails⟩⟩

theorem ensures_doc (here : Here) (t : Topic) :
    (t.doc.render here).Ensures (t.MayNote here) (Markup.LinksAre (t.MayLink here)) :=
  Docs.ensures_render fun _ hm => allowed_of_mem_mentions (List.mem_append_left _ hm)

theorem ensures_subject (here : Here) (t : Topic) :
    (t.subject.shown here).Ensures (t.MayNote here)
      fun c => Markup.LinksAre (t.MayLink here) c.body :=
  Subject.ensures_shown (fun _ hm => allowed_of_mem_mentions (List.mem_append_right _ hm))
    fun o ho => .inr ⟨o, ho, rfl⟩

theorem mayNote_of_mem_notes {here : Here} {note : Note} (h : note ∈ t.notes here) :
    t.MayNote here note := by
  rcases List.mem_append.mp h with h | h
  · exact (t.ensures_doc here).notes note h
  · exact (t.ensures_subject here).notes note h

/-- All links of a page are those of its topic, seen from the page. -/
theorem Fits.links {here : Here} (h : t.Fits here page) :
    Markup.LinksAre (t.MayLink here) (page.header ++ page.body) := by
  obtain ⟨c, ns, hshown, hbody, -⟩ := h.content
  rw [Markup.linksAre_append, h.header, hbody]
  exact ⟨(t.ensures_doc here).value, (t.ensures_subject here).value c ns hshown⟩

end Topic

namespace Outline

variable {cfg : Settings} {w : Warning}

mutual

/-- A warning is about a page of the tree: it has its address and notes what the page could not
show. -/
theorem Describes.exists_of_mem_warnings :
    ∀ {above : PagePath} {o : Outline} {p : Page}, o.Describes cfg above p →
      w ∈ o.warnings cfg above →
      ∃ n ∈ o.nodes, ∃ page ∈ p.pages, n.topic.Fits ⟨cfg, page.path⟩ page ∧
        w.page = "/".intercalate page.path ∧ w.note ∈ n.topic.notes ⟨cfg, page.path⟩
  | above, ⟨topic, children⟩, ⟨name, kind, path, title, header, toc, body, below⟩, h, hw => by
    have hpath : path = above ++ [topic.segment] := h.path
    rw [Outline.warnings, List.mem_append, ← hpath] at hw
    rcases hw with hw | hw
    · obtain ⟨note, hnote, rfl⟩ := List.mem_map.mp hw
      exact ⟨_, mem_nodes_self _, _, Page.mem_pages_self _, h.fits, rfl, hnote⟩
    · have hbelow : DescribesAll cfg path children below := by
        rw [hpath]
        exact h.2
      obtain ⟨n, hn, page, hpage, hrest⟩ := DescribesAll.exists_of_mem_warnings hbelow hw
      exact ⟨n, List.mem_cons_of_mem _ hn, page, List.mem_cons_of_mem _ hpage, hrest⟩

@[inherit_doc Describes.exists_of_mem_warnings]
theorem DescribesAll.exists_of_mem_warnings :
    ∀ {above : PagePath} {os : List Outline} {ps : List Page}, DescribesAll cfg above os ps →
      w ∈ warningsAll cfg above os →
      ∃ n ∈ nodesAll os, ∃ page ∈ Page.pagesAll ps, n.topic.Fits ⟨cfg, page.path⟩ page ∧
        w.page = "/".intercalate page.path ∧ w.note ∈ n.topic.notes ⟨cfg, page.path⟩
  | _, [], [], _, hw => by simp [warningsAll] at hw
  | above, o :: os, p :: ps, ⟨hp, hps⟩, hw => by
    rw [warningsAll, List.mem_append] at hw
    rcases hw with hw | hw
    · obtain ⟨n, hn, page, hpage, hrest⟩ := Describes.exists_of_mem_warnings hp hw
      exact ⟨n, List.mem_append_left _ hn, page, List.mem_append_left _ hpage, hrest⟩
    · obtain ⟨n, hn, page, hpage, hrest⟩ := DescribesAll.exists_of_mem_warnings hps hw
      exact ⟨n, List.mem_append_right _ hn, page, List.mem_append_right _ hpage, hrest⟩

end

end Outline

/-- **Links are relative to the page that carries them.**  A link on a page is written out in its
documentation, or leads from that very page to the location of an identifier that the page mentions,
or leads to a page directly below.  Every warning has the address of a page, and notes a mention of
that page which cannot be linked from there. -/
theorem Root.links_relative_to_page {cfg : Settings} {r : Root} {out : Root.Rendered}
    (h : r.render cfg = .ok out) :
    List.Forall₂
      (fun o page => o.topic.Fits ⟨cfg, page.path⟩ page ∧
        ∀ href children, Node.link href children ∈ Markup.allNodes (page.header ++ page.body) →
          (∃ m ∈ o.topic.mentions, m.Links ⟨cfg, page.path⟩ href) ∨
          ∃ below ∈ page.children, ∃ name, below.name = below.kind.segment name ∧
            href = below.kind.hrefBelow name cfg.semanticUris)
      r.outline.nodes out.page.pages ∧
    ∀ w ∈ out.warnings, ∃ o ∈ r.outline.nodes, ∃ page ∈ out.page.pages,
      o.topic.Fits ⟨cfg, page.path⟩ page ∧ w.page = "/".intercalate page.path ∧
        ∃ m ∈ o.topic.mentions, m.Fails ⟨cfg, page.path⟩ w.note := by
  obtain ⟨hd, hwarnings⟩ := Root.render_eq_ok h
  constructor
  · have hgrown : r.outline.Grown := r.grown_outline
    refine Outline.Describes.forall_nodes (P := fun _ o => o.Grown) ?_ hd hgrown
    intro above o page hd hgrown
    refine ⟨⟨hd.fits, ?_⟩, fun child hchild => hgrown.of_mem_children hchild⟩
    intro href children hlink
    rcases hd.fits.links href children hlink with hmention | ⟨child, hchild, rfl⟩
    · exact .inl hmention
    · rw [← hgrown o o.mem_nodes_self] at hchild
      obtain ⟨below, hbelow, hdbelow⟩ := hd.exists_child hchild
      refine .inr ⟨below, hbelow, child.topic.name, ?_, ?_⟩
      · rw [hdbelow.fits.name, hdbelow.fits.kind]
        rfl
      · rw [hdbelow.fits.kind]
  · intro w hw
    obtain ⟨o, ho, page, hpage, hfits, haddress, hnote⟩ :=
      hd.exists_of_mem_warnings (hwarnings.mem_iff.mp hw)
    exact ⟨o, ho, page, hpage, hfits, haddress, Topic.mayNote_of_mem_notes hnote⟩

/-- A unit with links of all sorts.  The documentation of its module is shown on two pages and
refers to a value of the unit; a type is referred to from both pages, and a reference leads
nowhere. -/
def sampleLinks : Root :=
  let lib := Identifier.top .root "Lib"
  let inner := lib.child .module "Inner"
  let start := lib.child .value "start"
  let t : TypeExpr := .constr (.resolved (.identifier (lib.child .type "t"))) []
  .unit ⟨lib, [.paragraph [.link "manual.html" [], .reference (.top .value "lost") []]], .module [
    .type .ordinary { id := lib.child .type "t" },
    .value { id := start, type := t },
    .module .ordinary inner [.paragraph [.reference start [.text "start"]]]
      (.moduleType (.signature [.value { id := inner.child .value "next", type := t }]))
      (some .asDeclared)]⟩

theorem links_sampleLinks : ∃ out, sampleLinks.render {} = .ok out ∧
    out.warnings.map Warning.page = ["Lib/Lib"] ∧
    out.page.children.map Page.header =
      [[.paragraph [.link "../index.html#val-start" [.text "start"]]]] ∧
    List.Forall₂
      (fun o page =>
        ∀ href children, Node.link href children ∈ Markup.allNodes (page.header ++ page.body) →
          (∃ m ∈ o.topic.mentions, m.Links ⟨{}, page.path⟩ href) ∨
          ∃ below ∈ page.children, href = below.name ++ "/" ++ "index.html")
      sampleLinks.outline.nodes out.page.pages := by
  refine ⟨_, rfl, rfl, rfl, ?_⟩
  have hrender : sampleLinks.render {} = .ok _ := rfl
  refine (Root.links_relative_to_page hrender).1.imp fun o page hpage href children hlink => ?_
  rcases hpage.2 href children hlink with hmention | ⟨below, hbelow, name, hname, hhref⟩
  · exact .inl hmention
  · exact .inr ⟨below, hbelow, by rw [hhref, hname]; rfl⟩

end DocSite
