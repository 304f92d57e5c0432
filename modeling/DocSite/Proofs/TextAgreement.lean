import DocSite.Proofs.Neutral

/-!
# The settings decide no more of a text than its links

A text is rendered on a page of a site, which is where the settings come in: they say where a
declaration is located, and so where a link to it leads.  They do not say whether it is located
anywhere.  That is `Identifier.agree_page`: a package only names the directory that a path begins
with.  So in two runs the same links are there and the same notes are left.

All that is rendered is put together from such links.  Each theorem here takes two runs of one text,
with any settings and on any two pages, and follows the recursion that renders it.
-/

namespace DocSite

open TypeText

/-! ## Locations and links -/

section Links

variable (packages packages' : Packages)

/-- Whether a declaration owns a page does not depend on the packages. -/
theorem Identifier.agree_page (id : Identifier) :
    (id.page packages).map (fun _ => ()) = (id.page packages').map fun _ => () := by
  induction id with
  | top k n =>
    simp only [Identifier.page]
    split
    · split <;> rfl
    · rfl
  | child p k n ih =>
    simp only [Identifier.page]
    split
    · split
      · rfl
      · exact except_map_map_congr ih fun _ _ _ => rfl
    · rfl

theorem Identifier.agree_location (stopBefore : Bool) (id : Identifier) :
    (id.location packages stopBefore).map (fun _ => ()) =
      (id.location packages' stopBefore).map fun _ => () := by
  simp only [Identifier.location]
  split
  · exact except_map_map_congr (id.agree_page packages packages') fun _ _ _ => rfl
  · split
    · rfl
    · split
      · rfl
      · next container _ =>
        refine except_map_bind_congr (container.agree_page packages packages') fun _ _ _ => ?_
        cases id.anchor <;> rfl

end Links

namespace Settings

variable (cfg cfg' : Settings) (source source' : PagePath)

/-- Whether there is a link to a declaration does not depend on where it starts. -/
theorem agree_href (id : Identifier) (stopBefore : Bool) :
    (cfg.href source id stopBefore).map (fun _ => ()) =
      (cfg'.href source' id stopBefore).map fun _ => () :=
  except_map_map_congr (id.agree_location cfg.packages cfg'.packages stopBefore) fun _ _ _ => rfl

theorem agree_pathMarkup :
    ∀ (p : Path) (stopBefore : Bool),
      (cfg.pathMarkup source stopBefore p).map (List.map Node.neutral) =
        (cfg'.pathMarkup source' stopBefore p).map (List.map Node.neutral)
  | .resolved p, stopBefore => by
    simp only [pathMarkup]
    split
    · rfl
    · refine except_map_bind_congr (agree_href cfg cfg' source source' _ _) fun _ _ _ => ?_
      exact congrArg Except.ok (by simp)
  | .root n, _ => rfl
  | .forward n, _ => rfl
  | .dot p n, _ => by
    refine except_map_bind_congr (agree_pathMarkup p true) fun parent parent' h => ?_
    exact congrArg Except.ok (by simp [h])
  | .apply f a, stopBefore => by
    refine except_map_bind_congr (agree_pathMarkup f stopBefore) fun functor functor' hf => ?_
    refine except_map_bind_congr (agree_pathMarkup a false) fun argument argument' ha => ?_
    exact congrArg Except.ok (by simp [hf, ha])

theorem agree_fragmentMarkup (base : Identifier) (f : Fragment) :
    (cfg.fragmentMarkup source base f).map (List.map Node.neutral) =
      (cfg'.fragmentMarkup source' base f).map (List.map Node.neutral) := by
  cases f with
  | resolved f =>
    refine except_map_bind_congr (agree_href cfg cfg' source source' _ _) fun _ _ _ => ?_
    exact congrArg Except.ok (by simp)
  | root => rfl
  | dot p n => rfl

end Settings

section Runs

variable {here here' : Here}

theorem Here.agree_path (stopBefore : Bool) (p : Path) :
    (here.path stopBefore p).Agree (List.map Node.neutral) (here'.path stopBefore p) :=
  .orElse (Settings.agree_pathMarkup ..) rfl

theorem Here.agree_fragment (base : Identifier) (f : Fragment) :
    (here.fragment base f).Agree (List.map Node.neutral) (here'.fragment base f) :=
  .orElse (Settings.agree_fragmentMarkup ..) rfl

theorem Here.agree_fragmentOrText (base : Option Identifier) (f : Fragment) :
    (here.fragmentOrText base f).Agree (List.map Node.neutral) (here'.fragmentOrText base f) := by
  cases base with
  | none => exact .refl _ _
  | some base => exact Here.agree_fragment base f

/-! ## Documentation -/

mutual

theorem Inline.agree_render :
    ∀ x : Inline, (x.render here).Agree Node.neutral (x.render here')
  | .text s => .refl _ _
  | .code s => .refl _ _
  | .emphasis xs => by
    refine (Inline.agree_renderAll xs).bind fun children children' h => .pure ?_
    simp [h]
  | .bold xs => by
    refine (Inline.agree_renderAll xs).bind fun children children' h => .pure ?_
    simp [h]
  | .link target xs => by
    simp only [Inline.render]
    split
    · exact .refl _ _
    · refine (Inline.agree_renderAll xs).bind fun children children' h => .pure ?_
      simp [h]
  | .reference target xs => by
    have hlink (children children' : Markup)
        (h : children.map Node.neutral = children'.map Node.neutral) :
        (Noted.orElse
          ((here.settings.href here.page target false).map fun href => .link href children)
          (.reference target) (.span "xref-unresolved" children)).Agree Node.neutral
        (Noted.orElse
          ((here'.settings.href here'.page target false).map fun href => .link href children')
          (.reference target) (.span "xref-unresolved" children')) := by
      refine .orElse (except_map_map_congr (Settings.agree_href ..) fun _ _ _ => ?_) ?_
      · simp [h]
      · simp [h]
    simp only [Inline.render]
    split
    · exact hlink _ _ rfl
    · exact (Inline.agree_renderAll xs).bind hlink

theorem Inline.agree_renderAll :
    ∀ xs : List Inline,
      (Inline.renderAll here xs).Agree (List.map Node.neutral) (Inline.renderAll here' xs)
  | [] => .refl _ _
  | x :: xs => by
    refine (Inline.agree_render x).bind fun node node' hnode => ?_
    refine (Inline.agree_renderAll xs).bind fun rest rest' hrest => .pure ?_
    simp [hnode, hrest]

end

@[simp] theorem Tag.neutral_block (name : String) (content : Markup) :
    (Tag.block name content).neutral = Tag.block name (content.map Node.neutral) := by
  cases content <;> simp [Tag.block]

theorem Tag.agree_render (t : Tag) :
    (t.render here).Agree (List.map Node.neutral) (t.render here') := by
  cases t with
  | «open» | closed | inline | author | since | version => exact .refl _ _
  | deprecated xs | «return» xs =>
    refine (Inline.agree_renderAll xs).bind fun content content' h => .pure ?_
    simp [h]

mutual

theorem Block.agree_render :
    ∀ b : Block, (b.render here).Agree (List.map Node.neutral) (b.render here')
  | .paragraph xs => by
    refine (Inline.agree_renderAll xs).bind fun content content' h => .pure ?_
    simp [h]
  | .heading level label xs => by
    refine (Inline.agree_renderAll xs).bind fun content content' h => .pure ?_
    simp [h]
  | .codeBlock s => .refl _ _
  | .verbatim s => .refl _ _
  | .list ordered items => by
    refine (Block.agree_renderItems items).bind fun items items' h => .pure ?_
    simp [h]
  | .tag t => Tag.agree_render t

theorem Block.agree_renderAll :
    ∀ bs : List Block,
      (Block.renderAll here bs).Agree (List.map Node.neutral) (Block.renderAll here' bs)
  | [] => .refl _ _
  | b :: bs => by
    refine (Block.agree_render b).bind fun first first' hfirst => ?_
    refine (Block.agree_renderAll bs).bind fun rest rest' hrest => .pure ?_
    simp [hfirst, hrest]

theorem Block.agree_renderItems :
    ∀ items : List (List Block),
      (Block.renderItems here items).Agree (List.map (List.map Node.neutral))
        (Block.renderItems here' items)
  | [] => .refl _ _
  | bs :: items => by
    refine (Block.agree_renderAll bs).bind fun first first' hfirst => ?_
    refine (Block.agree_renderItems items).bind fun rest rest' hrest => .pure ?_
    simp [hfirst, hrest]

end

namespace Docs

theorem agree_render (docs : Docs) :
    (docs.render here).Agree (List.map Node.neutral) (docs.render here') :=
  Block.agree_renderAll docs

theorem agree_renderSynopsis (docs : Docs) :
    (docs.renderSynopsis here).Agree (List.map Node.neutral) (docs.renderSynopsis here') := by
  simp only [renderSynopsis]
  split
  · exact Block.agree_render _
  · exact .refl _ _

theorem agree_comment (docs : Docs) (visibility : Visibility) :
    (docs.comment here visibility).Agree Content.neutral (docs.comment here' visibility) := by
  cases visibility with
  | hidden => exact .refl _ _
  | visible =>
    refine docs.agree_render.bind fun body body' h => .pure ?_
    rw [isEmpty_eq_of_map_eq h]
    split
    · rfl
    · simp [Content.neutral, h]

end Docs

/-! ## Types -/

namespace TypeText

@[simp] theorem neutral_enclose (parens : Bool) (inner : Markup) :
    (enclose parens inner).map Node.neutral = enclose parens (inner.map Node.neutral) := by
  cases parens <;> simp [enclose, Markup.inParentheses]

@[simp] theorem neutral_label (l : Option Label) : (label l).map Node.neutral = label l := by
  cases l with
  | none => rfl
  | some l => cases l <;> rfl

@[simp] theorem neutral_product (parts : List Markup) :
    (product parts).map Node.neutral = product (parts.map (List.map Node.neutral)) := by
  simp [product]

@[simp] theorem neutral_application (brackets : Brackets) (arguments : List Markup)
    (path : Markup) :
    (application brackets arguments path).map Node.neutral =
      application brackets (arguments.map (List.map Node.neutral)) (path.map Node.neutral) := by
  cases arguments with
  | nil => rfl
  | cons a rest => cases rest <;> simp [application]

@[simp] theorem neutral_tag (name : String) (arguments : List Markup) :
    (tag name arguments).map Node.neutral =
      tag name (arguments.map (List.map Node.neutral)) := by
  cases arguments <;> simp [tag]

@[simp] theorem neutral_object (fields : List Markup) (isOpen : Bool) :
    (object fields isOpen).map Node.neutral =
      object (fields.map (List.map Node.neutral)) isOpen := by
  cases fields <;> cases isOpen <;> simp [object]

end TypeText

mutual

theorem TypeExpr.agree_render :
    ∀ (t : TypeExpr) (parens : Bool),
      (t.render here parens).Agree (List.map Node.neutral) (t.render here' parens)
  | .var n, _ => .refl _ _
  | .any, _ => .refl _ _
  | .alias t n, parens => by
    refine (TypeExpr.agree_render t true).bind fun inner inner' h => .pure ?_
    simp [h]
  | .arrow l a b, parens => by
    refine (TypeExpr.agree_render a true).bind fun source source' hsource => ?_
    refine (TypeExpr.agree_render b false).bind fun target target' htarget => .pure ?_
    simp [hsource, htarget]
  | .tuple ts, parens => by
    refine (TypeExpr.agree_renderAll ts true).bind fun parts parts' h => .pure ?_
    simp [h]
  | .constr p ts, parens => by
    refine (Here.agree_path false p).bind fun path path' hpath => ?_
    refine (TypeExpr.agree_renderAll ts _).bind fun arguments arguments' harguments => .pure ?_
    simp [hpath, harguments]
  | .variant k es, parens => by
    refine (VariantElement.agree_renderAll es).bind fun parts parts' h => .pure ?_
    simp [h]
  | .object fs isOpen, parens => by
    refine (ObjectField.agree_renderAll fs).bind fun fields fields' h => .pure ?_
    simp [h]
  | .class p ts, parens => by
    refine (Here.agree_path false p).bind fun path path' hpath => ?_
    refine (TypeExpr.agree_renderAll ts _).bind fun arguments arguments' harguments => .pure ?_
    simp [hpath, harguments]
  | .poly vs t, parens => by
    refine (TypeExpr.agree_render t false).bind fun body body' h => .pure ?_
    simp [h]
  | .package p ss, parens => by
    refine (Here.agree_path false p).bind fun path path' hpath => ?_
    refine (TypeExpr.agree_renderSubstitutions p.target? ss).bind fun cs cs' hcs => .pure ?_
    rw [isEmpty_eq_of_map_eq hcs]
    split
    · simp [hpath]
    · simp [hpath, hcs]

theorem TypeExpr.agree_renderAll :
    ∀ (ts : List TypeExpr) (parens : Bool),
      (TypeExpr.renderAll here parens ts).Agree (List.map (List.map Node.neutral))
        (TypeExpr.renderAll here' parens ts)
  | [], _ => .refl _ _
  | t :: ts, parens => by
    refine (TypeExpr.agree_render t parens).bind fun first first' hfirst => ?_
    refine (TypeExpr.agree_renderAll ts parens).bind fun rest rest' hrest => .pure ?_
    simp [hfirst, hrest]

theorem TypeExpr.agree_renderSubstitutions (base : Option Identifier) :
    ∀ ss : List (Fragment × TypeExpr),
      (TypeExpr.renderSubstitutions here base ss).Agree (List.map (List.map Node.neutral))
        (TypeExpr.renderSubstitutions here' base ss)
  | [] => .refl _ _
  | (f, t) :: ss => by
    refine (Here.agree_fragmentOrText base f).bind fun name name' hname => ?_
    refine (TypeExpr.agree_render t false).bind fun type type' htype => ?_
    refine (TypeExpr.agree_renderSubstitutions base ss).bind fun rest rest' hrest => .pure ?_
    simp [hname, htype, hrest]

theorem VariantElement.agree_renderAll :
    ∀ es : List VariantElement,
      (VariantElement.renderAll here es).Agree (List.map (List.map Node.neutral))
        (VariantElement.renderAll here' es)
  | [] => .refl _ _
  | .inherit t :: es => by
    refine (TypeExpr.agree_render t false).bind fun first first' hfirst => ?_
    refine (VariantElement.agree_renderAll es).bind fun rest rest' hrest => .pure ?_
    simp [hfirst, hrest]
  | .tag n ts _ :: es => by
    refine (TypeExpr.agree_renderAll ts true).bind fun arguments arguments' harguments => ?_
    refine (VariantElement.agree_renderAll es).bind fun rest rest' hrest => .pure ?_
    simp [harguments, hrest]

theorem ObjectField.agree_renderAll :
    ∀ fs : List ObjectField,
      (ObjectField.renderAll here fs).Agree (List.map (List.map Node.neutral))
        (ObjectField.renderAll here' fs)
  | [] => .refl _ _
  | .method n t :: fs => by
    refine (TypeExpr.agree_render t false).bind fun type type' htype => ?_
    refine (ObjectField.agree_renderAll fs).bind fun rest rest' hrest => .pure ?_
    simp [htype, hrest]
  | .inherit t :: fs => by
    refine (TypeExpr.agree_render t false).bind fun type type' htype => ?_
    refine (ObjectField.agree_renderAll fs).bind fun rest rest' hrest => .pure ?_
    simp [htype, hrest]

end

theorem TypeEquation.agree_renderConstraints (constraints : List (TypeExpr × TypeExpr)) :
    (TypeEquation.renderConstraints here constraints).Agree (List.map Node.neutral)
      (TypeEquation.renderConstraints here' constraints) := by
  induction constraints with
  | nil => exact .refl _ _
  | cons c rest ih =>
    obtain ⟨a, b⟩ := c
    refine (TypeExpr.agree_render a false).bind fun left left' hleft => ?_
    refine (TypeExpr.agree_render b false).bind fun right right' hright => ?_
    refine ih.bind fun rest rest' hrest => .pure ?_
    simp [hleft, hright, hrest]

/-! ## Rows and declarations -/

theorem Row.agree_ofDefinition (anchor : Option String) (kind : String)
    {definition definition' : Markup}
    (h : definition.map Node.neutral = definition'.map Node.neutral) (doc : Docs) :
    (Row.ofDefinition here anchor kind definition doc).Agree Row.neutral
      (Row.ofDefinition here' anchor kind definition' doc) := by
  simp only [Row.ofDefinition]
  split
  · exact .pure (by simp [h])
  · refine doc.agree_render.bind fun shown shown' hshown => .pure ?_
    simp [h, hshown]

@[simp] theorem Identifier.neutral_marked (id : Identifier) : id.marked.neutral = id.marked := rfl

namespace Field

theorem agree_row (f : Field) : (f.row here).Agree Row.neutral (f.row here') := by
  refine .bind_same _ fun anchor => ?_
  refine (TypeExpr.agree_render f.type false).bind fun type type' htype => ?_
  exact Row.agree_ofDefinition _ _ (by simp [htype]) f.doc

theorem agree_record (fields : List Field) :
    (record here fields).Agree (List.map Definition.Part.neutral) (record here' fields) := by
  have hrows : (rows here fields).Agree (List.map Row.neutral) (rows here' fields) :=
    .each (fun here => row here) (fun here => rows here) (fun _ => rfl) (fun _ _ _ => rfl)
      agree_row fields
  refine hrows.bind fun rows rows' h => .pure ?_
  simp [h]

end Field

namespace Constructor

@[simp] theorem neutral_separator (hasResult : Bool) :
    (separator hasResult).neutral = separator hasResult := by
  cases hasResult <;> rfl

theorem agree_argumentParts (hasResult : Bool) (arguments : ConstructorArguments) :
    (argumentParts here hasResult arguments).Agree (List.map Definition.Part.neutral)
      (argumentParts here' hasResult arguments) := by
  cases arguments with
  | tuple ts =>
    cases ts with
    | nil => exact .refl _ _
    | cons t ts =>
      refine (TypeExpr.agree_renderAll (t :: ts) true).bind fun parts parts' h => .pure ?_
      simp [h]
  | record fields =>
    refine (Field.agree_record fields).bind fun record record' h => .pure ?_
    simp [h]

theorem agree_resultParts (arguments : ConstructorArguments) (result : Option TypeExpr) :
    (resultParts here arguments result).Agree (List.map Definition.Part.neutral)
      (resultParts here' arguments result) := by
  cases result with
  | none => exact .refl _ _
  | some t =>
    refine (TypeExpr.agree_render t false).bind fun type type' h => .pure ?_
    simp [h]

theorem agree_parts (c : Constructor) :
    (c.parts here).Agree (List.map Definition.Part.neutral) (c.parts here') := by
  refine (agree_argumentParts _ c.arguments).bind fun arguments arguments' harguments => ?_
  refine (agree_resultParts c.arguments c.result).bind fun result result' hresult => .pure ?_
  simp [harguments, hresult]

theorem agree_row (c : Constructor) : (c.row here).Agree Row.neutral (c.row here') := by
  refine .bind_same _ fun anchor => ?_
  refine c.agree_parts.bind fun parts parts' hparts => ?_
  exact Row.agree_ofDefinition _ _ (by simp [hparts]) c.doc

theorem agree_rows (constructors : List Constructor) :
    (rows here constructors).Agree (List.map Row.neutral) (rows here' constructors) :=
  .each (fun here => row here) (fun here => rows here) (fun _ => rfl) (fun _ _ _ => rfl) agree_row
    constructors

end Constructor

namespace VariantElement

theorem agree_text (e : VariantElement) :
    (e.text here).Agree (List.map Node.neutral) (e.text here') := by
  cases e with
  | «inherit» t => exact TypeExpr.agree_render t false
  | tag n ts doc =>
    refine (TypeExpr.agree_renderAll ts true).bind fun arguments arguments' h => .pure ?_
    simp [h]

theorem agree_row (typeId : Identifier) (e : VariantElement) :
    (e.row here typeId).Agree Row.neutral (e.row here' typeId) := by
  refine e.agree_text.bind fun case case' hcase => ?_
  refine .bind_same _ fun anchor => ?_
  cases e with
  | «inherit» t => exact Row.agree_ofDefinition _ _ (by simp [hcase]) []
  | tag n ts doc => exact Row.agree_ofDefinition _ _ (by simp [hcase]) doc

theorem agree_rows (typeId : Identifier) (elements : List VariantElement) :
    (rows here typeId elements).Agree (List.map Row.neutral) (rows here' typeId elements) :=
  .each (fun here => row here typeId) (fun here => rows here typeId) (fun _ => rfl)
    (fun _ _ _ => rfl) (agree_row typeId) elements

end VariantElement

namespace TypeDecl

@[simp] theorem neutral_privacy (isPrivate : Bool) :
    (privacy isPrivate).map Node.neutral = privacy isPrivate := by
  cases isPrivate <;> rfl

theorem agree_manifestParts (id : Identifier) (sign : String) (isPrivate : Bool)
    (manifest : Option TypeExpr) :
    (manifestParts here id sign isPrivate manifest).Agree (List.map Definition.Part.neutral)
      (manifestParts here' id sign isPrivate manifest) := by
  cases manifest with
  | none => exact .refl _ _
  | some t =>
    cases t with
    | variant kind elements =>
      refine (VariantElement.agree_rows id elements).bind fun rows rows' h => .pure ?_
      simp [h]
    | var | any | «alias» | arrow | tuple | constr | object | «class» | poly | package =>
      refine (TypeExpr.agree_render _ false).bind fun type type' h => .pure ?_
      simp [h]

theorem agree_representationParts (isPrivate : Bool) (repr : Option TypeRepresentation) :
    (representationParts here isPrivate repr).Agree (List.map Definition.Part.neutral)
      (representationParts here' isPrivate repr) := by
  cases repr with
  | none => exact .refl _ _
  | some repr =>
    cases repr with
    | extensible => exact .refl _ _
    | variant constructors =>
      refine (Constructor.agree_rows constructors).bind fun rows rows' h => .pure ?_
      simp [h]
    | record fields =>
      refine (Field.agree_record fields).bind fun record record' h => .pure ?_
      simp [h]

theorem agree_render (recursion : Recursion) (substitution : Bool) (d : TypeDecl) :
    (d.render here recursion substitution).Agree Node.neutral
      (d.render here' recursion substitution) := by
  refine (agree_manifestParts ..).bind fun manifest manifest' hmanifest => ?_
  refine (agree_representationParts ..).bind fun repr repr' hrepr => ?_
  refine (TypeEquation.agree_renderConstraints _).bind fun cs cs' hcs => ?_
  refine .bind_same _ fun anchor => ?_
  refine d.doc.agree_render.bind fun doc doc' hdoc => .pure ?_
  simp [hmanifest, hrepr, hcs, hdoc]

end TypeDecl

theorem Extension.agree_render (e : Extension) :
    (e.render here).Agree Node.neutral (e.render here') := by
  refine (Here.agree_path false e.path).bind fun path path' hpath => ?_
  refine (Constructor.agree_rows e.constructors).bind fun rows rows' hrows => ?_
  refine e.doc.agree_render.bind fun doc doc' hdoc => .pure ?_
  simp [hpath, hrows, hdoc]

theorem Constructor.agree_renderException (e : Constructor) :
    (e.renderException here).Agree Node.neutral (e.renderException here') := by
  refine e.agree_parts.bind fun parts parts' hparts => ?_
  refine .bind_same _ fun anchor => ?_
  refine e.doc.agree_render.bind fun doc doc' hdoc => .pure ?_
  simp [hparts, hdoc]

/-- What is shown as a name with its type: the type, the anchor and the documentation, in this
order, and a node made from them. -/
theorem agree_typed (id : Identifier) (type : TypeExpr) (doc : Docs)
    {node : Markup → Option String → Markup → Node}
    (hnode : ∀ anchor {type type' doc doc' : Markup},
      type.map Node.neutral = type'.map Node.neutral →
      doc.map Node.neutral = doc'.map Node.neutral →
      (node type anchor doc).neutral = (node type' anchor doc').neutral) :
    (do
      let type ← type.render here false
      let anchor ← id.anchorOrNote
      let doc ← doc.render here
      return node type anchor doc : Noted Node).Agree Node.neutral
    (do
      let type ← type.render here' false
      let anchor ← id.anchorOrNote
      let doc ← doc.render here'
      return node type anchor doc) := by
  refine (TypeExpr.agree_render type false).bind fun type type' htype => ?_
  refine .bind_same _ fun anchor => ?_
  exact doc.agree_render.bind fun doc doc' hdoc => .pure (hnode anchor htype hdoc)

theorem Value.agree_render (v : Value) : (v.render here).Agree Node.neutral (v.render here') :=
  agree_typed _ _ _ fun anchor _ _ _ _ htype hdoc => by simp [htype, hdoc]

theorem External.agree_render (e : External) :
    (e.render here).Agree Node.neutral (e.render here') :=
  agree_typed _ _ _ fun anchor _ _ _ _ htype hdoc => by simp [htype, hdoc]

theorem agree_renderModuleSubstitution (id : Identifier) (doc : Docs) (manifest : Path) :
    (renderModuleSubstitution here id doc manifest).Agree Node.neutral
      (renderModuleSubstitution here' id doc manifest) := by
  refine (Here.agree_path true manifest).bind fun path path' hpath => ?_
  refine .bind_same _ fun anchor => ?_
  refine doc.agree_render.bind fun doc doc' hdoc => .pure ?_
  simp [hpath, hdoc]

end Runs

end DocSite
