import DocSite.Proofs.Mentions
import DocSite.Proofs.TextLogic

/-!
# Links of texts

The links of documentation, of types and of declarations come from what these mention: if every
mention becomes only links that are `ok` and leaves only notes that are `bad`, then so does the
text.  What `ok` and `bad` are is left open here.  Each theorem follows the recursion that renders
the text, and splits the mentions as the text is split.
-/

namespace DocSite

/-! ## Mentions -/

/-- All links that the mention can become are `ok`, and all notes that it can leave are `bad`. -/
structure Mention.Allowed (here : Here) (ok : String → Prop) (bad : Note → Prop) (m : Mention) :
    Prop where
  links : ∀ href, m.Links here href → ok href
  notes : ∀ note, m.Fails here note → bad note

section Parts

variable {α β : Type} {here : Here} {ok : String → Prop} {bad : Note → Prop}

/-- A sequence succeeds if its first part does, and then its second. -/
theorem except_bind_eq_ok {ε : Type} {x : Except ε α} {f : α → Except ε β} {b : β} :
    x >>= f = .ok b ↔ ∃ a, x = .ok a ∧ f a = .ok b := by
  cases x with
  | error e => exact ⟨nofun, nofun⟩
  | ok a =>
    constructor
    · intro h
      exact ⟨a, rfl, h⟩
    · rintro ⟨a', ⟨⟩, h⟩
      exact h

/-- A path that is linked leads to what its resolved parts point at. -/
theorem Settings.linksAre_pathMarkup {cfg : Settings} {source : PagePath} :
    ∀ {p : Path} {stopBefore : Bool} {ns : Markup},
      (∀ target ∈ p.targets stopBefore, ∀ href,
        cfg.href source target.1 target.2 = .ok href → ok href) →
      cfg.pathMarkup source stopBefore p = .ok ns → Markup.LinksAre ok ns
  | .resolved p, stopBefore, ns, hok, h => by
    rw [Settings.pathMarkup] at h
    split at h
    · cases h
      simp
    · obtain ⟨href, hhref, ⟨⟩⟩ := except_bind_eq_ok.mp h
      simpa using hok _ (List.mem_singleton.mpr rfl) href hhref
  | .root n, stopBefore, ns, hok, h => by
    cases h
    simp
  | .forward n, stopBefore, ns, hok, h => by
    cases h
    simp
  | .dot p n, stopBefore, ns, hok, h => by
    rw [Path.targets] at hok
    rw [Settings.pathMarkup] at h
    obtain ⟨inner, hinner, ⟨⟩⟩ := except_bind_eq_ok.mp h
    simpa using Settings.linksAre_pathMarkup hok hinner
  | .apply f a, stopBefore, ns, hok, h => by
    rw [Path.targets, List.forall_mem_append] at hok
    rw [Settings.pathMarkup] at h
    obtain ⟨functor, hfunctor, h⟩ := except_bind_eq_ok.mp h
    obtain ⟨argument, hargument, ⟨⟩⟩ := except_bind_eq_ok.mp h
    have hlinks₁ := Settings.linksAre_pathMarkup hok.1 hfunctor
    have hlinks₂ := Settings.linksAre_pathMarkup hok.2 hargument
    simp [hlinks₁, hlinks₂]

theorem Here.ensures_path {stopBefore : Bool} {p : Path}
    (h : (Mention.path stopBefore p).Allowed here ok bad) :
    (here.path stopBefore p).Ensures bad (Markup.LinksAre ok) := by
  refine .orElse (fun ns hns => Settings.linksAre_pathMarkup ?_ hns) (fun e he => ?_) (by simp)
  · intro target htarget href hhref
    exact h.links href ⟨target, htarget, hhref⟩
  · exact h.notes _ ⟨e, he, rfl⟩

theorem Here.ensures_fragment {base : Identifier} {f : Fragment}
    (h : (Mention.fragment base f).Allowed here ok bad) :
    (here.fragment base f).Ensures bad (Markup.LinksAre ok) := by
  refine .orElse (fun ns hns => ?_) (fun e he => h.notes _ ⟨e, he, rfl⟩) (by simp)
  cases f with
  | root | dot =>
    cases hns
    simp
  | resolved f =>
    obtain ⟨href, hhref, ⟨⟩⟩ := except_bind_eq_ok.mp hns
    simpa using h.links href ⟨f.target base, rfl, hhref⟩

theorem Here.ensures_fragmentOrText {base : Option Identifier} {f : Fragment}
    (h : ∀ m ∈ f.mentions base, m.Allowed here ok bad) :
    (here.fragmentOrText base f).Ensures bad (Markup.LinksAre ok) := by
  cases base with
  | none => exact .pure (by simp)
  | some base => exact Here.ensures_fragment (h _ (List.mem_singleton.mpr rfl))

/-- An anchor is no link, but its absence is noted. -/
theorem Identifier.ensures_anchor {id : Identifier} (h : (Mention.anchor id).Allowed here ok bad) :
    id.anchorOrNote.Ensures bad fun _ => True :=
  .orElse_map (fun _ _ => trivial) (fun e he => h.notes _ ⟨e, he, rfl⟩) trivial

@[inherit_doc Identifier.ensures_anchor]
theorem Identifier.ensures_rowAnchor {id : Identifier} (h : (Mention.row id).Allowed here ok bad) :
    id.rowAnchorOrNote.Ensures bad fun _ => True :=
  .orElse_map (fun _ _ => trivial) (fun e he => h.notes _ ⟨e, he, rfl⟩) trivial

/-! ## Documentation -/

mutual

theorem Inline.ensures_render :
    ∀ {x : Inline}, (∀ m ∈ x.mentions, m.Allowed here ok bad) →
      (x.render here).Ensures bad (Node.LinksAre ok)
  | .text s, _ => .pure (by simp)
  | .code s, _ => .pure (by simp)
  | .emphasis xs, h => by
    refine (Inline.ensures_renderAll h).bind fun children hchildren => .pure ?_
    simp [hchildren]
  | .bold xs, h => by
    refine (Inline.ensures_renderAll h).bind fun children hchildren => .pure ?_
    simp [hchildren]
  | .link target xs, h => by
    rw [Inline.mentions, List.forall_mem_cons] at h
    have hlink : ∀ children, Markup.LinksAre ok children →
        (pure (.link target children) : Noted Node).Ensures bad (Node.LinksAre ok) := by
      intro children hchildren
      exact .pure (by simp [hchildren, h.1.links target rfl])
    rw [Inline.render]
    split
    · exact hlink _ (by simp)
    · exact (Inline.ensures_renderAll h.2).bind hlink
  | .reference target xs, h => by
    rw [Inline.mentions, List.forall_mem_cons] at h
    have hlink : ∀ children, Markup.LinksAre ok children →
        (Noted.orElse
          ((here.settings.href here.page target false).map fun href => .link href children)
          (.reference target) (.span "xref-unresolved" children)).Ensures bad
            (Node.LinksAre ok) := by
      intro children hchildren
      refine .orElse_map (fun href hhref => ?_) (fun e he => h.1.notes _ ⟨e, he, rfl⟩) ?_
      · simp [hchildren, h.1.links href hhref]
      · simpa using hchildren
    rw [Inline.render]
    split
    · exact hlink _ (by simp)
    · exact (Inline.ensures_renderAll h.2).bind hlink

theorem Inline.ensures_renderAll :
    ∀ {xs : List Inline}, (∀ m ∈ Inline.mentionsAll xs, m.Allowed here ok bad) →
      (Inline.renderAll here xs).Ensures bad (Markup.LinksAre ok)
  | [], _ => .pure (by simp)
  | x :: xs, h => by
    rw [Inline.mentionsAll, List.forall_mem_append] at h
    refine (Inline.ensures_render h.1).bind fun node hnode => ?_
    refine (Inline.ensures_renderAll h.2).bind fun rest hrest => .pure ?_
    simp [hnode, hrest]

end

@[simp] theorem Tag.linksAre_block {name : String} {content : Markup} :
    (Tag.block name content).LinksAre ok ↔ Markup.LinksAre ok content := by
  cases content <;> simp [Tag.block, Markup.block]

theorem Tag.ensures_render {t : Tag} (h : ∀ m ∈ t.mentions, m.Allowed here ok bad) :
    (t.render here).Ensures bad (Markup.LinksAre ok) := by
  cases t with
  | «open» | closed | inline | author | since | version => exact .pure (by simp)
  | deprecated xs | «return» xs =>
    refine (Inline.ensures_renderAll h).bind fun content hcontent => .pure ?_
    simpa using hcontent

mutual

theorem Block.ensures_render :
    ∀ {b : Block}, (∀ m ∈ b.mentions, m.Allowed here ok bad) →
      (b.render here).Ensures bad (Markup.LinksAre ok)
  | .paragraph xs, h => by
    refine (Inline.ensures_renderAll h).bind fun content hcontent => .pure ?_
    simpa using hcontent
  | .heading level label content, h => by
    refine (Inline.ensures_renderAll h).bind fun content hcontent => .pure ?_
    simpa using hcontent
  | .codeBlock s, _ => .pure (by simp)
  | .verbatim s, _ => .pure (by simp [Markup.block])
  | .list ordered items, h => by
    refine (Block.ensures_renderItems h).bind fun items hitems => .pure ?_
    simpa using hitems
  | .tag t, h => Tag.ensures_render h

theorem Block.ensures_renderAll :
    ∀ {bs : List Block}, (∀ m ∈ Block.mentionsAll bs, m.Allowed here ok bad) →
      (Block.renderAll here bs).Ensures bad (Markup.LinksAre ok)
  | [], _ => .pure (by simp)
  | b :: bs, h => by
    rw [Block.mentionsAll, List.forall_mem_append] at h
    refine (Block.ensures_render h.1).bind fun first hfirst => ?_
    refine (Block.ensures_renderAll h.2).bind fun rest hrest => .pure ?_
    simp [hfirst, hrest]

theorem Block.ensures_renderItems :
    ∀ {items : List (List Block)}, (∀ m ∈ Block.mentionsItems items, m.Allowed here ok bad) →
      (Block.renderItems here items).Ensures bad
        fun items => ∀ item ∈ items, Markup.LinksAre ok item
  | [], _ => .pure (by simp)
  | bs :: items, h => by
    rw [Block.mentionsItems, List.forall_mem_append] at h
    refine (Block.ensures_renderAll h.1).bind fun first hfirst => ?_
    refine (Block.ensures_renderItems h.2).bind fun rest hrest => .pure ?_
    exact List.forall_mem_cons.mpr ⟨hfirst, hrest⟩

end

namespace Docs

theorem ensures_render {docs : Docs} (h : ∀ m ∈ docs.mentions, m.Allowed here ok bad) :
    (docs.render here).Ensures bad (Markup.LinksAre ok) :=
  Block.ensures_renderAll h

theorem ensures_renderSynopsis {docs : Docs}
    (h : ∀ m ∈ docs.synopsisMentions, m.Allowed here ok bad) :
    (docs.renderSynopsis here).Ensures bad (Markup.LinksAre ok) := by
  rw [synopsisMentions] at h
  rw [renderSynopsis]
  cases hsynopsis : docs.synopsis? with
  | none => exact .pure (by simp)
  | some b =>
    simp only [hsynopsis] at h
    exact Block.ensures_render h

theorem ensures_comment {docs : Docs} {visibility : Visibility}
    (h : ∀ m ∈ docs.commentMentions visibility, m.Allowed here ok bad) :
    (docs.comment here visibility).Ensures bad fun c => Markup.LinksAre ok c.body := by
  cases visibility with
  | hidden => exact .pure (by simp)
  | visible =>
    refine (ensures_render h).bind fun body hbody => .pure ?_
    cases body <;> simp_all [Markup.block]

end Docs

/-! ## Types -/

namespace TypeText

theorem linksAre_enclose {parens : Bool} {inner : Markup} (h : Markup.LinksAre ok inner) :
    Markup.LinksAre ok (enclose parens inner) := by
  cases parens <;> simp [enclose, Markup.inParentheses, h]

@[simp] theorem linksAre_label {l : Option Label} : Markup.LinksAre ok (label l) := by
  match l with
  | none => simp [label]
  | some (.label n) => simp [label]
  | some (.optional n) => simp [label]

theorem linksAre_product {parts : List Markup} (h : ∀ part ∈ parts, Markup.LinksAre ok part) :
    Markup.LinksAre ok (product parts) :=
  Markup.linksAre_join (by simp) h

theorem linksAre_application {brackets : Brackets} {arguments : List Markup} {path : Markup}
    (harguments : ∀ a ∈ arguments, Markup.LinksAre ok a) (hpath : Markup.LinksAre ok path) :
    Markup.LinksAre ok (application brackets arguments path) := by
  match arguments with
  | [] => exact hpath
  | [a] =>
    have ha := harguments a List.mem_cons_self
    simp [application, ha, hpath]
  | a :: b :: rest =>
    have hjoin : Markup.LinksAre ok (Markup.join [.text ("," ++ fixedBlank)] (a :: b :: rest)) :=
      Markup.linksAre_join (by simp) harguments
    simp [application, hjoin, hpath]

theorem linksAre_tag {name : String} {arguments : List Markup}
    (h : ∀ a ∈ arguments, Markup.LinksAre ok a) : Markup.LinksAre ok (tag name arguments) := by
  have hproduct := linksAre_product h
  cases arguments <;> simp [tag, hproduct]

theorem linksAre_object {fields : List Markup} {isOpen : Bool}
    (h : ∀ f ∈ fields, Markup.LinksAre ok f) : Markup.LinksAre ok (object fields isOpen) := by
  have hjoin : Markup.LinksAre ok (Markup.join [.text "; "] fields) :=
    Markup.linksAre_join (by simp) h
  rw [object]
  split
  · simp
  · cases isOpen <;> simp [hjoin]

end TypeText

open TypeText

mutual

theorem TypeExpr.ensures_render :
    ∀ {t : TypeExpr} {parens : Bool}, (∀ m ∈ t.mentions, m.Allowed here ok bad) →
      (t.render here parens).Ensures bad (Markup.LinksAre ok)
  | .var n, _, _ => .pure (by simp)
  | .any, _, _ => .pure (by simp)
  | .alias t n, parens, h => by
    rw [TypeExpr.mentions] at h
    refine (TypeExpr.ensures_render h).bind fun inner hinner => .pure ?_
    exact linksAre_enclose (by simp [hinner])
  | .arrow l a b, parens, h => by
    rw [TypeExpr.mentions, List.forall_mem_append] at h
    refine (TypeExpr.ensures_render h.1).bind fun source hsource => ?_
    refine (TypeExpr.ensures_render h.2).bind fun target htarget => .pure ?_
    exact linksAre_enclose (by simp [hsource, htarget])
  | .tuple ts, parens, h => by
    refine (TypeExpr.ensures_renderAll h).bind fun parts hparts => .pure ?_
    exact linksAre_enclose (linksAre_product hparts)
  | .constr p ts, parens, h => by
    rw [TypeExpr.mentions, List.forall_mem_cons] at h
    refine (Here.ensures_path h.1).bind fun path hpath => ?_
    refine (TypeExpr.ensures_renderAll h.2).bind fun arguments harguments => .pure ?_
    exact linksAre_application harguments hpath
  | .variant k es, parens, h => by
    refine (VariantElement.ensures_renderAll h).bind fun parts hparts => .pure ?_
    have hjoin : Markup.LinksAre ok (Markup.join [.text " | "] parts) :=
      Markup.linksAre_join (by simp) hparts
    simp [hjoin]
  | .object fs isOpen, parens, h => by
    refine (ObjectField.ensures_renderAll h).bind fun fields hfields => .pure ?_
    exact linksAre_object hfields
  | .class p ts, parens, h => by
    rw [TypeExpr.mentions, List.forall_mem_cons] at h
    refine (Here.ensures_path h.1).bind fun path hpath => ?_
    refine (TypeExpr.ensures_renderAll h.2).bind fun arguments harguments => .pure ?_
    exact linksAre_application harguments (by simp [hpath])
  | .poly vs t, parens, h => by
    rw [TypeExpr.mentions] at h
    refine (TypeExpr.ensures_render h).bind fun body hbody => .pure ?_
    simp [hbody]
  | .package p ss, parens, h => by
    rw [TypeExpr.mentions, List.forall_mem_cons] at h
    refine (Here.ensures_path h.1).bind fun path hpath => ?_
    refine (TypeExpr.ensures_renderSubstitutions h.2).bind fun constraints hconstraints => .pure ?_
    have hjoin : Markup.LinksAre ok (Markup.join [.keyword " and "] constraints) :=
      Markup.linksAre_join (by simp) hconstraints
    cases constraints <;> simp_all

theorem TypeExpr.ensures_renderAll :
    ∀ {ts : List TypeExpr} {parens : Bool},
      (∀ m ∈ TypeExpr.mentionsAll ts, m.Allowed here ok bad) →
      (TypeExpr.renderAll here parens ts).Ensures bad fun parts =>
        ∀ part ∈ parts, Markup.LinksAre ok part
  | [], _, _ => .pure (by simp)
  | t :: ts, parens, h => by
    rw [TypeExpr.mentionsAll, List.forall_mem_append] at h
    refine (TypeExpr.ensures_render h.1).bind fun first hfirst => ?_
    refine (TypeExpr.ensures_renderAll h.2).bind fun rest hrest => .pure ?_
    exact List.forall_mem_cons.mpr ⟨hfirst, hrest⟩

theorem TypeExpr.ensures_renderSubstitutions :
    ∀ {ss : List (Fragment × TypeExpr)} {base : Option Identifier},
      (∀ m ∈ TypeExpr.mentionsSubstitutions base ss, m.Allowed here ok bad) →
      (TypeExpr.renderSubstitutions here base ss).Ensures bad fun parts =>
        ∀ part ∈ parts, Markup.LinksAre ok part
  | [], _, _ => .pure (by simp)
  | (f, t) :: ss, base, h => by
    rw [TypeExpr.mentionsSubstitutions, List.forall_mem_append, List.forall_mem_append] at h
    refine (Here.ensures_fragmentOrText h.1.1).bind fun name hname => ?_
    refine (TypeExpr.ensures_render h.1.2).bind fun type htype => ?_
    refine (TypeExpr.ensures_renderSubstitutions h.2).bind fun rest hrest => .pure ?_
    exact List.forall_mem_cons.mpr ⟨by simp [hname, htype], hrest⟩

theorem VariantElement.ensures_renderAll :
    ∀ {es : List VariantElement},
      (∀ m ∈ VariantElement.mentionsAll es, m.Allowed here ok bad) →
      (VariantElement.renderAll here es).Ensures bad fun parts =>
        ∀ part ∈ parts, Markup.LinksAre ok part
  | [], _ => .pure (by simp)
  | .inherit t :: es, h => by
    rw [VariantElement.mentionsAll, List.forall_mem_append] at h
    refine (TypeExpr.ensures_render h.1).bind fun first hfirst => ?_
    refine (VariantElement.ensures_renderAll h.2).bind fun rest hrest => .pure ?_
    exact List.forall_mem_cons.mpr ⟨hfirst, hrest⟩
  | .tag n ts _ :: es, h => by
    rw [VariantElement.mentionsAll, List.forall_mem_append] at h
    refine (TypeExpr.ensures_renderAll h.1).bind fun arguments harguments => ?_
    refine (VariantElement.ensures_renderAll h.2).bind fun rest hrest => .pure ?_
    exact List.forall_mem_cons.mpr ⟨linksAre_tag harguments, hrest⟩

theorem ObjectField.ensures_renderAll :
    ∀ {fs : List ObjectField}, (∀ m ∈ ObjectField.mentionsAll fs, m.Allowed here ok bad) →
      (ObjectField.renderAll here fs).Ensures bad fun parts =>
        ∀ part ∈ parts, Markup.LinksAre ok part
  | [], _ => .pure (by simp)
  | .method n t :: fs, h => by
    rw [ObjectField.mentionsAll, List.forall_mem_append] at h
    refine (TypeExpr.ensures_render h.1).bind fun type htype => ?_
    refine (ObjectField.ensures_renderAll h.2).bind fun rest hrest => .pure ?_
    exact List.forall_mem_cons.mpr ⟨by simp [htype], hrest⟩
  | .inherit t :: fs, h => by
    rw [ObjectField.mentionsAll, List.forall_mem_append] at h
    refine (TypeExpr.ensures_render h.1).bind fun type htype => ?_
    refine (ObjectField.ensures_renderAll h.2).bind fun rest hrest => .pure ?_
    exact List.forall_mem_cons.mpr ⟨htype, hrest⟩

end

theorem TypeEquation.ensures_renderConstraints {constraints : List (TypeExpr × TypeExpr)}
    (h : ∀ m ∈ TypeEquation.constraintMentions constraints, m.Allowed here ok bad) :
    (TypeEquation.renderConstraints here constraints).Ensures bad (Markup.LinksAre ok) := by
  induction constraints with
  | nil => exact .pure (by simp)
  | cons c rest ih =>
    obtain ⟨a, b⟩ := c
    rw [TypeEquation.constraintMentions, List.flatMap_cons, List.forall_mem_append,
      List.forall_mem_append] at h
    refine (TypeExpr.ensures_render h.1.1).bind fun left hleft => ?_
    refine (TypeExpr.ensures_render h.1.2).bind fun right hright => ?_
    refine (ih h.2).bind fun rest hrest => .pure ?_
    simp [hleft, hright, hrest]

/-! ## Rows and declarations -/

theorem Row.ensures_ofDefinition {anchor : Option String} {kind : String} {definition : Markup}
    {doc : Docs} (hdefinition : Markup.LinksAre ok definition)
    (h : ∀ m ∈ doc.mentions, m.Allowed here ok bad) :
    (Row.ofDefinition here anchor kind definition doc).Ensures bad (Row.LinksAre ok) := by
  rw [Row.ofDefinition]
  split
  · refine .pure ?_
    simp [Row.LinksAre, Row.cells, Cell.children, hdefinition]
  · refine (Docs.ensures_render h).bind fun shown hshown => .pure ?_
    simp [Row.LinksAre, Row.cells, Cell.children, hdefinition, hshown]

@[simp] theorem Identifier.linksAre_marked {id : Identifier} : id.marked.LinksAre ok := by
  simp [Identifier.marked]

namespace Field

theorem ensures_row {f : Field} (h : ∀ m ∈ f.mentions, m.Allowed here ok bad) :
    (f.row here).Ensures bad (Row.LinksAre ok) := by
  rw [Field.mentions, List.cons_append, List.forall_mem_cons, List.forall_mem_append] at h
  refine (Identifier.ensures_rowAnchor h.1).bind fun anchor _ => ?_
  refine (TypeExpr.ensures_render h.2.1).bind fun type htype => ?_
  refine Row.ensures_ofDefinition ?_ h.2.2
  cases f.isMutable <;> simp [htype]

theorem ensures_rows {fields : List Field}
    (h : ∀ m ∈ fields.flatMap Field.mentions, m.Allowed here ok bad) :
    (rows here fields).Ensures bad fun rows => ∀ row ∈ rows, row.LinksAre ok := by
  refine .each (row here) (rows here) rfl (fun _ _ => rfl) fun f hf => ensures_row fun m hm => ?_
  exact h m (List.mem_flatMap.mpr ⟨f, hf, hm⟩)

theorem ensures_record {fields : List Field}
    (h : ∀ m ∈ fields.flatMap Field.mentions, m.Allowed here ok bad) :
    (record here fields).Ensures bad fun parts => ∀ part ∈ parts, part.LinksAre ok := by
  refine (ensures_rows h).bind fun rows hrows => .pure ?_
  simpa [Definition.Part.LinksAre] using hrows

end Field

namespace Constructor

@[simp] theorem linksAre_separator {hasResult : Bool} : (separator hasResult).LinksAre ok := by
  cases hasResult <;> simp [separator]

theorem ensures_argumentParts {hasResult : Bool} {arguments : ConstructorArguments}
    (h : ∀ m ∈ argumentMentions arguments, m.Allowed here ok bad) :
    (argumentParts here hasResult arguments).Ensures bad fun parts =>
      ∀ part ∈ parts, part.LinksAre ok := by
  match arguments with
  | .tuple [] => exact .pure (by simp)
  | .tuple (t :: ts) =>
    refine (TypeExpr.ensures_renderAll h).bind fun parts hparts => .pure ?_
    simp [Definition.Part.LinksAre, linksAre_product hparts]
  | .record fields =>
    refine (Field.ensures_record h).bind fun record hrecord => .pure ?_
    exact List.forall_mem_cons.mpr ⟨by simp [Definition.Part.LinksAre], hrecord⟩

theorem ensures_resultParts {arguments : ConstructorArguments} {result : Option TypeExpr}
    (h : ∀ m ∈ resultMentions result, m.Allowed here ok bad) :
    (resultParts here arguments result).Ensures bad fun parts =>
      ∀ part ∈ parts, part.LinksAre ok := by
  cases result with
  | none => exact .pure (by simp)
  | some t =>
    have h' : ∀ m ∈ t.mentions, m.Allowed here ok bad := by simpa [resultMentions] using h
    refine (TypeExpr.ensures_render h').bind fun type htype => .pure ?_
    match arguments with
    | .tuple [] => simp [Definition.Part.LinksAre, htype]
    | .tuple (_ :: _) => simp [Definition.Part.LinksAre, htype]
    | .record _ => simp [Definition.Part.LinksAre, htype]

theorem ensures_parts {c : Constructor} (h : ∀ m ∈ c.partsMentions, m.Allowed here ok bad) :
    (c.parts here).Ensures bad fun parts => ∀ part ∈ parts, part.LinksAre ok := by
  rw [partsMentions, List.forall_mem_append] at h
  refine (ensures_argumentParts h.1).bind fun arguments harguments => ?_
  refine (ensures_resultParts h.2).bind fun result hresult => .pure ?_
  rw [List.cons_append, List.forall_mem_cons, List.forall_mem_append]
  exact ⟨by simp [Definition.Part.LinksAre], harguments, hresult⟩

theorem ensures_row {c : Constructor} (h : ∀ m ∈ c.mentions, m.Allowed here ok bad) :
    (c.row here).Ensures bad (Row.LinksAre ok) := by
  rw [Constructor.mentions, List.cons_append, List.forall_mem_cons, List.forall_mem_append] at h
  refine (Identifier.ensures_rowAnchor h.1).bind fun anchor _ => ?_
  refine (ensures_parts h.2.1).bind fun parts hparts => ?_
  refine Row.ensures_ofDefinition (Definition.linksAre_layout ?_) h.2.2
  exact List.forall_mem_cons.mpr ⟨by simp [Definition.Part.LinksAre], hparts⟩

theorem ensures_rows {constructors : List Constructor}
    (h : ∀ m ∈ constructors.flatMap Constructor.mentions, m.Allowed here ok bad) :
    (rows here constructors).Ensures bad fun rows => ∀ row ∈ rows, row.LinksAre ok := by
  refine .each (row here) (rows here) rfl (fun _ _ => rfl) fun c hc => ensures_row fun m hm => ?_
  exact h m (List.mem_flatMap.mpr ⟨c, hc, hm⟩)

end Constructor

namespace VariantElement

theorem ensures_text {e : VariantElement} (h : ∀ m ∈ e.textMentions, m.Allowed here ok bad) :
    (e.text here).Ensures bad (Markup.LinksAre ok) := by
  cases e with
  | «inherit» t => exact TypeExpr.ensures_render h
  | tag n ts doc =>
    refine (TypeExpr.ensures_renderAll h).bind fun arguments harguments => .pure ?_
    exact linksAre_tag harguments

theorem ensures_row {typeId : Identifier} {e : VariantElement}
    (h : ∀ m ∈ e.mentions typeId, m.Allowed here ok bad) :
    (e.row here typeId).Ensures bad (Row.LinksAre ok) := by
  rw [VariantElement.mentions, List.cons_append, List.forall_mem_cons,
    List.forall_mem_append] at h
  refine (ensures_text h.2.1).bind fun case hcase => ?_
  have hanchor : (Noted.orElse ((e.anchor typeId).map some) (.variantRow typeId) none).Ensures bad
      fun _ => True :=
    .orElse_map (fun _ _ => trivial) (fun e' he => h.1.notes _ ⟨e', he, rfl⟩) trivial
  refine hanchor.bind fun anchor _ => ?_
  cases e with
  | «inherit» t => exact Row.ensures_ofDefinition (by simp [hcase]) h.2.2
  | tag n ts doc => exact Row.ensures_ofDefinition (by simp [hcase]) h.2.2

theorem ensures_rows {typeId : Identifier} {elements : List VariantElement}
    (h : ∀ m ∈ elements.flatMap (VariantElement.mentions typeId), m.Allowed here ok bad) :
    (rows here typeId elements).Ensures bad fun rows => ∀ row ∈ rows, row.LinksAre ok := by
  refine .each (row here typeId) (rows here typeId) rfl (fun _ _ => rfl) fun e he =>
    ensures_row fun m hm => ?_
  exact h m (List.mem_flatMap.mpr ⟨e, he, hm⟩)

end VariantElement

namespace TypeDecl

@[simp] theorem linksAre_privacy {isPrivate : Bool} : Markup.LinksAre ok (privacy isPrivate) := by
  cases isPrivate <;> simp [privacy]

theorem ensures_manifestParts {id : Identifier} {sign : String} {isPrivate : Bool}
    {manifest : Option TypeExpr} (h : ∀ m ∈ manifestMentions id manifest, m.Allowed here ok bad) :
    (manifestParts here id sign isPrivate manifest).Ensures bad fun parts =>
      ∀ part ∈ parts, part.LinksAre ok := by
  cases manifest with
  | none => exact .pure (by simp)
  | some t =>
    cases t with
    | variant kind elements =>
      refine (VariantElement.ensures_rows h).bind fun rows hrows => .pure ?_
      simpa [Definition.Part.LinksAre] using hrows
    | var | any | «alias» | arrow | tuple | constr | object | «class» | poly | package =>
      simp only [manifestMentions] at h
      refine (TypeExpr.ensures_render h).bind fun type htype => .pure ?_
      simp [Definition.Part.LinksAre, htype]

theorem ensures_representationParts {isPrivate : Bool} {repr : Option TypeRepresentation}
    (h : ∀ m ∈ representationMentions repr, m.Allowed here ok bad) :
    (representationParts here isPrivate repr).Ensures bad fun parts =>
      ∀ part ∈ parts, part.LinksAre ok := by
  have hhead : ∀ parts : List Definition.Part, (∀ part ∈ parts, part.LinksAre ok) →
      (pure (.inline (.text " = " :: privacy isPrivate) :: parts) :
        Noted (List Definition.Part)).Ensures bad
          fun parts => ∀ part ∈ parts, part.LinksAre ok := by
    intro parts hparts
    exact .pure (List.forall_mem_cons.mpr ⟨by simp [Definition.Part.LinksAre], hparts⟩)
  cases repr with
  | none => exact .pure (by simp)
  | some repr =>
    cases repr with
    | extensible => exact hhead _ (by simp [Definition.Part.LinksAre])
    | variant constructors =>
      refine (Constructor.ensures_rows h).bind fun rows hrows => hhead _ ?_
      simpa [Definition.Part.LinksAre] using hrows
    | record fields => exact (Field.ensures_record h).bind hhead

theorem ensures_render {d : TypeDecl} {recursion : Recursion} {substitution : Bool}
    (h : ∀ m ∈ d.mentions, m.Allowed here ok bad) :
    (d.render here recursion substitution).Ensures bad (Node.LinksAre ok) := by
  rw [TypeDecl.mentions, List.forall_mem_append, List.forall_mem_append, List.forall_mem_append,
    List.forall_mem_cons] at h
  obtain ⟨⟨⟨hmanifest, hrepresentation⟩, hconstraints⟩, hanchor, hdoc⟩ := h
  refine (ensures_manifestParts hmanifest).bind fun manifest hmanifest => ?_
  refine (ensures_representationParts hrepresentation).bind fun repr hrepr => ?_
  refine (TypeEquation.ensures_renderConstraints hconstraints).bind fun cs hcs => ?_
  refine (Identifier.ensures_anchor hanchor).bind fun anchor _ => ?_
  refine (Docs.ensures_render hdoc).bind fun doc hdoc => .pure ?_
  rw [Markup.linksAre_declaration]
  refine ⟨Definition.linksAre_layout ?_, hdoc⟩
  rw [List.cons_append, List.cons_append, List.forall_mem_cons, List.forall_mem_append,
    List.forall_mem_append, List.forall_mem_singleton]
  exact ⟨by simp [Definition.Part.LinksAre], ⟨hmanifest, hrepr⟩, hcs⟩

end TypeDecl

theorem Extension.ensures_render {e : Extension} (h : ∀ m ∈ e.mentions, m.Allowed here ok bad) :
    (e.render here).Ensures bad (Node.LinksAre ok) := by
  rw [Extension.mentions, List.cons_append, List.forall_mem_cons, List.forall_mem_append] at h
  refine (Here.ensures_path h.1).bind fun path hpath => ?_
  refine (Constructor.ensures_rows h.2.1).bind fun rows hrows => ?_
  refine (Docs.ensures_render h.2.2).bind fun doc hdoc => .pure ?_
  rw [Markup.linksAre_declaration]
  refine ⟨Definition.linksAre_layout ?_, hdoc⟩
  simpa [Definition.Part.LinksAre, hpath] using hrows

theorem Constructor.ensures_renderException {e : Constructor}
    (h : ∀ m ∈ e.exceptionMentions, m.Allowed here ok bad) :
    (e.renderException here).Ensures bad (Node.LinksAre ok) := by
  rw [Constructor.exceptionMentions, List.cons_append, List.forall_mem_cons,
    List.forall_mem_append] at h
  refine (Constructor.ensures_parts h.2.1).bind fun parts hparts => ?_
  refine (Identifier.ensures_anchor h.1).bind fun anchor _ => ?_
  refine (Docs.ensures_render h.2.2).bind fun doc hdoc => .pure ?_
  rw [Markup.linksAre_declaration]
  refine ⟨Definition.linksAre_layout ?_, hdoc⟩
  exact List.forall_mem_cons.mpr ⟨by simp [Definition.Part.LinksAre], hparts⟩

/-- What is shown as a name with its type: the type, the anchor and the documentation, in this
order, and a node made from them. -/
theorem ensures_typed {id : Identifier} {type : TypeExpr} {doc : Docs}
    (h : ∀ m ∈ typedMentions id type doc, m.Allowed here ok bad)
    {node : Markup → Option String → Markup → Node}
    (hnode : ∀ type anchor doc, Markup.LinksAre ok type → Markup.LinksAre ok doc →
      (node type anchor doc).LinksAre ok) :
    (do
      let type ← type.render here false
      let anchor ← id.anchorOrNote
      let doc ← doc.render here
      return node type anchor doc : Noted Node).Ensures bad (Node.LinksAre ok) := by
  rw [typedMentions, List.cons_append, List.forall_mem_cons, List.forall_mem_append] at h
  refine (TypeExpr.ensures_render h.2.1).bind fun type htype => ?_
  refine (Identifier.ensures_anchor h.1).bind fun anchor _ => ?_
  exact (Docs.ensures_render h.2.2).bind fun doc hdoc => .pure (hnode type anchor doc htype hdoc)

theorem ensures_renderModuleSubstitution {id : Identifier} {doc : Docs} {manifest : Path}
    (h : ∀ m ∈ Mention.path true manifest :: .anchor id :: doc.mentions, m.Allowed here ok bad) :
    (renderModuleSubstitution here id doc manifest).Ensures bad (Node.LinksAre ok) := by
  rw [List.forall_mem_cons, List.forall_mem_cons] at h
  refine (Here.ensures_path h.1).bind fun path hpath => ?_
  refine (Identifier.ensures_anchor h.2.1).bind fun anchor _ => ?_
  refine (Docs.ensures_render h.2.2).bind fun doc hdoc => .pure ?_
  simp [hpath, hdoc]

end Parts

end DocSite
