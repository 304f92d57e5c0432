import DocSite.Proofs.Outline

/-!
# Rendering separates into texts and pages

A rendering writes a text and opens pages in the middle of it.  Here it is shown that the two do not
disturb each other: a rendering that succeeds leaves on its page exactly what is shown of its items
there, and below its page exactly the pages of their outlines.  Whatever the pages below are, the
text is the same, and wherever the text breaks off for a page, that page is the same.

`Render.Separates` is this statement for one rendering, and there is one lemma for each way in which
renderings are put together.  The induction over signatures then only names, case by case, the lemma
that applies.

The warnings of a page come in two lots if a page below interrupts it, so their order is that of the
rendering and not that of the pages.  What separates is therefore the collection of the warnings:
`List.Perm` and not equality.
-/

namespace DocSite

namespace Content

/-- The content without the pages below. -/
def text (c : Content) : Content := { c with pages := [] }

@[simp] theorem text_append (a b : Content) : (a ++ b).text = a.text ++ b.text := rfl

@[simp] theorem pages_append (a b : Content) : (a ++ b).pages = a.pages ++ b.pages := rfl

@[simp] theorem pages_ofNode (node : Node) : (ofNode node).pages = [] := rfl

@[simp] theorem text_ofItem (node : Node) (page : Option Page) :
    (ofItem node page).text = ofNode node := rfl

end Content

namespace Outline

variable {cfg : Settings} {above : PagePath}

/-- Outlines side by side are written out side by side. -/
theorem DescribesAll.append {os₁ os₂ : List Outline} {ps₁ ps₂ : List Page}
    (h₁ : DescribesAll cfg above os₁ ps₁) (h₂ : DescribesAll cfg above os₂ ps₂) :
    DescribesAll cfg above (os₁ ++ os₂) (ps₁ ++ ps₂) := by
  induction os₁ generalizing ps₁ with
  | nil =>
    cases ps₁ with
    | nil => exact h₂
    | cons p ps => exact h₁.elim
  | cons o os ih =>
    cases ps₁ with
    | nil => exact h₁.elim
    | cons p ps => exact ⟨h₁.1, ih h₁.2⟩

@[simp] theorem warningsAll_append (os₁ os₂ : List Outline) :
    warningsAll cfg above (os₁ ++ os₂) =
      warningsAll cfg above os₁ ++ warningsAll cfg above os₂ := by
  induction os₁ with
  | nil => rfl
  | cons o os ih => simp only [List.cons_append, warningsAll, ih, List.append_assoc]

end Outline

/-- Two texts that are both interrupted: what belongs to the texts and what interrupts them can be
collected apart. -/
theorem perm_interleave {α : Type} {w₁ w₂ t₁ t₂ p₁ p₂ : List α} (h₁ : w₁.Perm (t₁ ++ p₁))
    (h₂ : w₂.Perm (t₂ ++ p₂)) : (w₁ ++ w₂).Perm ((t₁ ++ t₂) ++ (p₁ ++ p₂)) :=
  calc (w₁ ++ w₂).Perm ((t₁ ++ p₁) ++ (t₂ ++ p₂)) := h₁.append h₂
    _ = t₁ ++ ((p₁ ++ t₂) ++ p₂) := by simp only [List.append_assoc]
    _ |>.Perm (t₁ ++ ((t₂ ++ p₁) ++ p₂)) := (List.perm_append_comm.append_right p₂).append_left t₁
    _ = (t₁ ++ t₂) ++ (p₁ ++ p₂) := by simp only [List.append_assoc]

namespace Render

/-- The rendering leaves on its page what is `shown` there, and below it the pages of `outlines`. -/
structure Separates (x : Render Content) (shown : Here → Checked Content)
    (outlines : List Outline) : Prop where
  balanced : Balanced x
  parts : ∀ {cfg : Settings} {s : Scopes} {content : Content} {ws : List Warning},
    Gives x cfg s content ws → ∃ ns, (shown ⟨cfg, s.path⟩).Gives content.text ns ∧
      Outline.DescribesAll cfg s.path outlines content.pages ∧
      ws.Perm (ns.map (Warning.mk s.address) ++ Outline.warningsAll cfg s.path outlines)

namespace Separates

/-! ## Texts that open no page -/

theorem nil : Separates (pure {}) (fun _ => pure {}) [] where
  balanced := .pure _
  parts := by
    intro cfg s content ws h
    obtain ⟨rfl, rfl⟩ := gives_pure.mp h
    exact ⟨[], by simp [Content.text], trivial, .nil⟩

theorem check {f : Here → Checked Content}
    (hf : ∀ {here c ns}, (f here).Gives c ns → c.pages = []) : Separates (Render.check f) f [] where
  balanced := .check _
  parts := by
    intro cfg s content ws h
    obtain ⟨ns, hns, rfl⟩ := gives_check.mp h
    have hpages : content.pages = [] := hf hns
    have htext : content.text = content := by
      rw [Content.text, ← hpages]
    refine ⟨ns, htext ▸ hns, ?_, ?_⟩
    · rw [hpages]
      trivial
    · simp [Outline.warningsAll]

theorem note {f : Here → Noted Content} (hf : ∀ here, (f here).value.pages = []) :
    Separates (Render.note f) (fun here => f here) [] where
  balanced := .note _
  parts := by
    intro cfg s content ws h
    obtain ⟨rfl, rfl⟩ := gives_note.mp h
    have hpages := hf ⟨cfg, s.path⟩
    have htext : (f ⟨cfg, s.path⟩).value.text = (f ⟨cfg, s.path⟩).value := by
      rw [Content.text, ← hpages]
    refine ⟨(f ⟨cfg, s.path⟩).notes, by simp [htext], ?_, ?_⟩
    · rw [hpages]
      trivial
    · simp [Outline.warningsAll]

theorem plainItem (node : Here → Noted Node) :
    Separates (Render.plainItem node) (fun here => do return .ofNode (← node here)) [] where
  balanced := .bind (.note _) fun _ => .pure _
  parts := by
    intro cfg s content ws h
    rw [Render.plainItem, gives_bind (.note _)] at h
    obtain ⟨n, w₁, w₂, hn, hc, rfl⟩ := h
    obtain ⟨rfl, rfl⟩ := gives_note.mp hn
    obtain ⟨rfl, rfl⟩ := gives_pure.mp hc
    refine ⟨(node ⟨cfg, s.path⟩).notes, ?_, trivial, ?_⟩
    · simp [Content.text, Content.ofNode]
    · simp [Outline.warningsAll]

/-! ## One rendering after another -/

theorem append {x y : Render Content} {t u : Here → Checked Content} {os₁ os₂ : List Outline}
    (hx : Separates x t os₁) (hy : Separates y u os₂) :
    Separates (do let a ← x; let b ← y; return a ++ b)
      (fun here => do let a ← t here; let b ← u here; return a ++ b) (os₁ ++ os₂) where
  balanced := .bind hx.balanced fun _ => .bind hy.balanced fun _ => .pure _
  parts := by
    intro cfg s content ws h
    obtain ⟨a, w₁, w, ha, hrest, rfl⟩ := (gives_bind hx.balanced).mp h
    obtain ⟨b, w₂, w₃, hb, hsum, rfl⟩ := (gives_bind hy.balanced).mp hrest
    obtain ⟨rfl, rfl⟩ := gives_pure.mp hsum
    obtain ⟨n₁, ht, hd₁, hw₁⟩ := hx.parts ha
    obtain ⟨n₂, hu, hd₂, hw₂⟩ := hy.parts hb
    refine ⟨n₁ ++ n₂, ?_, ?_, ?_⟩
    · exact ht.bind (Checked.gives_map.mpr ⟨b.text, hu, Content.text_append a b⟩)
    · rw [Content.pages_append]
      exact hd₁.append hd₂
    · rw [List.append_nil, List.map_append, Outline.warningsAll_append]
      exact perm_interleave hw₁ hw₂

/-- An include leaves the text of its items inside its own, and their pages where it stands. -/
theorem includeItem {x : Render Content} {t : Here → Checked Content} {os : List Outline}
    (parent : Identifier) (doc : Docs) (decl : ModuleDecl) (hx : Separates x t os) :
    Separates (Render.includeItem parent doc decl x)
      (fun here => do
        let head ← includeHead here parent doc decl
        let inner ← t here
        return includeBody here.settings doc head inner) os where
  balanced := .bind (.check _) fun _ => .bind hx.balanced fun _ => .note _
  parts := by
    intro cfg s content ws h
    obtain ⟨head, w₁, w, hhead, hrest, rfl⟩ := (gives_bind (.check _)).mp h
    obtain ⟨inner, w₂, w₃, hinner, hbody, rfl⟩ := (gives_bind hx.balanced).mp hrest
    obtain ⟨n₁, hh, rfl⟩ := gives_check.mp hhead
    obtain ⟨rfl, rfl⟩ := gives_note.mp hbody
    obtain ⟨n₂, ht, hd, hw⟩ := hx.parts hinner
    refine ⟨n₁ ++ n₂, ?_, hd, ?_⟩
    · exact hh.bind (Checked.gives_map.mpr ⟨inner.text, ht, rfl⟩)
    · simp only [Noted.notes_pure, List.map_nil, List.append_nil, List.map_append,
        List.append_assoc]
      exact hw.append_left _

/-- The pages of the parameters of a functor come before those of its result. -/
theorem functor {x y : Render Content} {t u : Here → Checked Content} {os₁ os₂ : List Outline}
    (hx : Separates x t os₁) (hy : Separates y u os₂) :
    Separates (do let a ← x; let b ← y; return functorBody a b)
      (fun here => do let a ← t here; let b ← u here; return functorBody a b) (os₁ ++ os₂) where
  balanced := .bind hx.balanced fun _ => .bind hy.balanced fun _ => .pure _
  parts := by
    intro cfg s content ws h
    obtain ⟨a, w₁, w, ha, hrest, rfl⟩ := (gives_bind hx.balanced).mp h
    obtain ⟨b, w₂, w₃, hb, hsum, rfl⟩ := (gives_bind hy.balanced).mp hrest
    obtain ⟨rfl, rfl⟩ := gives_pure.mp hsum
    obtain ⟨n₁, ht, hd₁, hw₁⟩ := hx.parts ha
    obtain ⟨n₂, hu, hd₂, hw₂⟩ := hy.parts hb
    refine ⟨n₁ ++ n₂, ?_, hd₁.append hd₂, ?_⟩
    · exact ht.bind (Checked.gives_map.mpr ⟨b.text, hu, rfl⟩)
    · rw [List.append_nil, List.map_append, Outline.warningsAll_append]
      exact perm_interleave hw₁ hw₂

end Separates

/-! ## Pages -/

theorem Balanced.pageOf {content : Render Content} (title : String) (doc : Docs)
    (h : Balanced content) : Balanced (Render.pageOf title doc content) :=
  .bind (.note _) fun _ => .bind h fun _ => .buildPage _ _ _ _ _

/-- A rendering on a page just entered makes the page that its outline describes. -/
theorem Separates.pageOf {content : Render Content} (topic : Topic) {children : List Outline}
    (h : Separates content topic.subject.shown children) {cfg : Settings} {s : Scopes} {page : Page}
    {ws : List Warning}
    (hg : Gives (Render.pageOf topic.title topic.doc content) cfg
      (s.enter topic.kind topic.name).2 page ws) :
    Outline.Describes cfg s.path ⟨topic, children⟩ page ∧
      ws.Perm (Outline.warnings cfg s.path ⟨topic, children⟩) := by
  obtain ⟨header, w₁, w, hheader, hrest, rfl⟩ := (gives_bind (.note _)).mp hg
  obtain ⟨c, w₂, w₃, hc, hpage, rfl⟩ := (gives_bind h.balanced).mp hrest
  obtain ⟨rfl, rfl⟩ := gives_note.mp hheader
  obtain ⟨rfl, rfl⟩ := gives_buildPage.mp hpage
  obtain ⟨ns, hshown, hbelow, hw⟩ := h.parts hc
  rw [Scopes.path_enter] at hshown hbelow
  have haddress : (s.enter topic.kind topic.name).2.address =
      "/".intercalate (s.path ++ [topic.segment]) := by
    rw [Scopes.address, Scopes.path_enter]
    rfl
  rw [haddress, Scopes.path_enter] at hw
  constructor
  · refine ⟨⟨rfl, rfl, rfl, rfl, ?_, c.text, ns, hshown, rfl, rfl⟩, hbelow⟩
    rw [Scopes.path_enter]
    rfl
  · have hnotes : (topic.subject.shown ⟨cfg, s.path ++ [topic.segment]⟩).run.notes = ns :=
      congrArg Noted.notes hshown
    rw [Outline.warnings, Topic.notes, hnotes, haddress, Scopes.path_enter, List.append_nil,
      List.map_append, List.append_assoc]
    exact hw.append_left _

/-- What the page of an expansion holds is what its outline is about.  An expansion that is itself
at fault has no page. -/
inductive Expands (topic : Subject → Topic) :
    Option (Except Fault (Render Content)) → List Outline → Prop where
  | none : Expands topic none []
  | fault (fault : Fault) (os : List Outline) : Expands topic (some (.error fault)) os
  | page (subject : Subject) {content : Render Content} {children : List Outline}
      (h : Separates content subject.shown children) :
      Expands topic (some (.ok content)) [⟨topic subject, children⟩]

namespace Expands

variable {kind : PageKind} {name : String} {id : Identifier} {doc : Docs}
  {expansion : Option (Except Fault (Render Content))} {os : List Outline}

theorem balanced (h : Expands (Topic.mk kind name id doc) expansion os) :
    Balanced (pageOfExpansion kind name id doc expansion) := by
  cases h with
  | none => exact .pure _
  | fault => exact .check _
  | page _ h => exact .bind (.onPage _ _ (.pageOf _ _ h.balanced)) fun _ => .pure _

/-- The page of an expansion is there if the expansion is, and it is the one that its outline
describes. -/
theorem gives (h : Expands (Topic.mk kind name id doc) expansion os) (hkind : kind ≠ .page)
    {cfg : Settings} {s : Scopes} {page : Option Page} {ws : List Warning}
    (hg : Gives (pageOfExpansion kind name id doc expansion) cfg s page ws) :
    page.isSome = expansion.isSome ∧ Outline.DescribesAll cfg s.path os page.toList ∧
      ws.Perm (Outline.warningsAll cfg s.path os) := by
  cases h with
  | none =>
    obtain ⟨rfl, rfl⟩ := gives_pure.mp hg
    exact ⟨rfl, trivial, .nil⟩
  | fault =>
    rw [pageOfExpansion, gives_check] at hg
    obtain ⟨ns, hns, -⟩ := hg
    exact (Checked.not_gives_throw hns).elim
  | @page subject content children h =>
    have htitle : (Topic.mk kind name id doc subject).title = kind.title ++ " " ++ id.display := by
      cases kind <;> first | rfl | exact (hkind rfl).elim
    have hbalanced := Balanced.pageOf (kind.title ++ " " ++ id.display) doc h.balanced
    obtain ⟨p, w₁, w₂, hp, hsome, rfl⟩ := (gives_bind (.onPage _ _ hbalanced)).mp hg
    obtain ⟨rfl, rfl⟩ := gives_pure.mp hsome
    rw [gives_onPage hbalanced, ← htitle] at hp
    obtain ⟨hd, hw⟩ := h.pageOf ⟨kind, name, id, doc, subject⟩ hp
    refine ⟨rfl, ⟨hd, trivial⟩, ?_⟩
    rw [List.append_nil, Outline.warningsAll, Outline.warningsAll, List.append_nil]
    exact hw

end Expands

/-- An item leaves its node on the page, and the page of its expansion below. -/
theorem Separates.item {Declared : Type} {kind : PageKind} {name : String} {id : Identifier}
    {doc : Docs} {expansion : Option (Except Fault (Render Content))} {os : List Outline}
    {hasPage : Bool} (declared : Here → Checked Declared)
    (node : Here → Declared → Bool → Noted Node) (hkind : kind ≠ .page)
    (h : Expands (Topic.mk kind name id doc) expansion os) (hpage : expansion.isSome = hasPage) :
    Separates (Render.item kind name id doc declared node expansion)
      (fun here => .item (declared here) (node here) hasPage) os where
  balanced := .bind (.check _) fun _ => .bind h.balanced fun _ => .bind (.note _) fun _ => .pure _
  parts := by
    intro cfg s content ws hg
    obtain ⟨d, w₁, w, hd, hrest, rfl⟩ := (gives_bind (.check _)).mp hg
    obtain ⟨page, w₂, w', hp, hrest', rfl⟩ := (gives_bind h.balanced).mp hrest
    obtain ⟨n, w₃, w₄, hn, hc, rfl⟩ := (gives_bind (.note _)).mp hrest'
    obtain ⟨n₁, hdeclared, rfl⟩ := gives_check.mp hd
    obtain ⟨rfl, rfl⟩ := gives_note.mp hn
    obtain ⟨rfl, rfl⟩ := gives_pure.mp hc
    obtain ⟨hsome, hbelow, hw⟩ := h.gives hkind hp
    rw [hsome, hpage]
    refine ⟨n₁ ++ (node ⟨cfg, s.path⟩ d hasPage).notes, ?_, hbelow, ?_⟩
    · exact hdeclared.bind (by simp)
    · -- the page interrupts the item: what is noted of its node comes after the page
      rw [List.map_append, List.append_assoc, List.append_nil]
      exact (hw.append_right _).trans List.perm_append_comm |>.append_left _

end Render

/-! ## Signatures -/

open Render

/-- A comment opens no page. -/
@[simp] theorem Docs.pages_comment (here : Here) (visibility : Visibility) (docs : Docs) :
    (docs.comment here visibility).value.pages = [] := by
  cases visibility <;> rfl

/-- The members of a class open no page. -/
theorem ClassItem.pages_renderAll {here : Here} {visibility : Visibility} {items : List ClassItem}
    {c : Content} {ns : List Note} (h : (ClassItem.renderAll here visibility items).Gives c ns) :
    c.pages = [] := by
  fun_induction ClassItem.renderAll here visibility items generalizing c ns with
  | case1 =>
    obtain ⟨rfl, -⟩ := Checked.gives_pure.mp h
    rfl
  | case2 _ items ih => exact ih h
  | case3 _ docs items ih =>
    obtain ⟨rest, n, hrest, rfl, -⟩ := Checked.gives_lift_append.mp h
    rw [Content.pages_append, Docs.pages_comment, ih hrest, List.append_nil]
  | case4 _ m items ih =>
    obtain ⟨rest, n, hrest, rfl, -⟩ := Checked.gives_lift_append.mp h
    rw [Content.pages_append, Content.pages_ofNode, ih hrest, List.append_nil]
  | case5 _ v items ih =>
    obtain ⟨rest, n, hrest, rfl, -⟩ := Checked.gives_lift_append.mp h
    rw [Content.pages_append, Content.pages_ofNode, ih hrest, List.append_nil]
  | case6 _ left right items ih =>
    obtain ⟨rest, n, hrest, rfl, -⟩ := Checked.gives_lift_append.mp h
    rw [Content.pages_append, Content.pages_ofNode, ih hrest, List.append_nil]
  | case7 => exact (Checked.not_gives_throw h).elim
  | case8 _ p ts items ih =>
    obtain ⟨rest, n, hrest, rfl, -⟩ := Checked.gives_lift_append.mp h
    rw [Content.pages_append, Content.pages_ofNode, ih hrest, List.append_nil]

theorem PackedModule.pages_renderAll (here : Here) (modules : List PackedModule) :
    (PackedModule.renderAll here modules).value.pages = [] := by
  induction modules with
  | nil => rfl
  | cons m ms ih => simp [PackedModule.renderAll, ih]

/-- An expansion has a page if it is there. -/
theorem ModuleExpansion.isSome_content? (id : Identifier) (declared : Option (Render Content))
    (expansion : Option ModuleExpansion) :
    (ModuleExpansion.content? id declared expansion).isSome = expansion.isSome := by
  cases expansion with
  | none => rfl
  | some e =>
    cases e with
    | asDeclared => cases declared <;> rfl
    | signature items => rfl
    | functor parameters result => rfl

/-- The page of a class is about its members. -/
theorem ClassSignature.expands (topic : Subject → Topic) (expansion : Option ClassSignature) :
    Expands topic (expansion.map fun sig => .ok (Render.check fun here => sig.render here))
      (ClassSignature.outlines topic expansion) := by
  cases expansion with
  | none => exact .none
  | some sig => exact .page (.members sig.items) (.check ClassItem.pages_renderAll)

/-- What the declared type of a module holds is what its outline is about. -/
def Declares : Option (Render Content) → Option (Subject × List Outline) → Prop
  | none, none => True
  | some content, some (subject, children) => Separates content subject.shown children
  | _, _ => False

mutual

/-- Items leave on the page what is shown of them, and below it the pages of their outlines. -/
theorem SignatureItem.separates_renderAll (visibility : Visibility) :
    ∀ items : List SignatureItem, Separates (SignatureItem.renderAll visibility items)
      (fun here => SignatureItem.shownAll here visibility items) (SignatureItem.outlinesAll items)
  | [] => .nil
  | item :: items =>
    .append (SignatureItem.separates_render visibility item)
      (SignatureItem.separates_renderAll (item.visibilityAfter visibility) items)

@[inherit_doc SignatureItem.separates_renderAll]
theorem SignatureItem.separates_render (visibility : Visibility) :
    ∀ item : SignatureItem, Separates (item.render visibility)
      (fun here => item.shown here visibility) item.outlines
  | .module recursion id doc decl expansion =>
    .item _ _ (by decide)
      (ModuleExpansion.expands id (ModuleDecl.declares decl) expansion)
      (ModuleExpansion.isSome_content? ..)
  | .moduleType id doc type expansion =>
    .item _ _ (by decide)
      (ModuleExpansion.expands id (ModuleTypeExpr.optionDeclares type) expansion)
      (ModuleExpansion.isSome_content? ..)
  | .moduleSubstitution id doc manifest => .plainItem _
  | .type recursion decl => .plainItem _
  | .typeSubstitution decl => .plainItem _
  | .extension e => .plainItem _
  | .exception e => .plainItem _
  | .value v => .plainItem _
  | .external e => .plainItem _
  | .class recursion c => .item _ _ (by decide) (ClassSignature.expands _ c.expansion) (by simp)
  | .classType recursion c => .item _ _ (by decide) (ClassSignature.expands _ c.expansion) (by simp)
  | .include parent doc decl expansion => by
    simp only [SignatureItem.render, SignatureItem.shown, SignatureItem.outlines]
    split
    · exact SignatureItem.separates_renderAll visibility expansion
    · exact .includeItem parent doc decl (SignatureItem.separates_renderAll .visible expansion)
  | .comment .stop => .nil
  | .comment (.docs docs) => .note fun here => docs.pages_comment here visibility

/-- The page of an expansion is about what its outline says. -/
theorem ModuleExpansion.expands (id : Identifier) {declared : Option (Render Content)}
    {outline : Option (Subject × List Outline)} (hd : Declares declared outline)
    {topic : Subject → Topic} :
    ∀ expansion : Option ModuleExpansion,
      Expands topic (ModuleExpansion.content? id declared expansion)
        (ModuleExpansion.outlines topic outline expansion)
  | none => .none
  | some .asDeclared => by
    match declared, outline, hd with
    | none, none, _ => exact .fault _ _
    | some content, some (subject, children), hd => exact .page subject hd
  | some (.signature items) =>
    .page (.signature items) (SignatureItem.separates_renderAll .visible items)
  | some (.functor parameters result) =>
    .page (.functor parameters result)
      (.functor (FunctorParameter.separates_renderAll 1 parameters)
        (SignatureItem.separates_renderAll .visible result))

theorem ModuleDecl.declares :
    ∀ decl : ModuleDecl, Declares (ModuleDecl.content? decl) (ModuleDecl.declared? decl)
  | .moduleType (.signature items) => SignatureItem.separates_renderAll .visible items
  | .alias _ | .moduleType (.path _) | .moduleType (.functor ..)
  | .moduleType (.constrained ..) | .moduleType (.typeOf _) => trivial

theorem ModuleTypeExpr.declares : ∀ type : ModuleTypeExpr,
    Declares (ModuleTypeExpr.content? type) (ModuleTypeExpr.declared? type)
  | .signature items => SignatureItem.separates_renderAll .visible items
  | .path _ | .functor .. | .constrained .. | .typeOf _ => trivial

theorem ModuleTypeExpr.optionDeclares : ∀ type : Option ModuleTypeExpr,
    Declares (ModuleTypeExpr.optionContent? type) (ModuleTypeExpr.optionDeclared? type)
  | some type => ModuleTypeExpr.declares type
  | none => trivial

/-- The parameters of a functor leave their nodes on the page, and below it their pages. -/
theorem FunctorParameter.separates_renderAll (position : Nat) :
    ∀ parameters : List FunctorParameter,
      Separates (FunctorParameter.renderAll position parameters)
        (fun here => FunctorParameter.shownAll here position parameters)
        (FunctorParameter.outlinesAll position parameters)
  | [] => .nil
  | .unit :: parameters => FunctorParameter.separates_renderAll (position + 1) parameters
  | .named id type expansion :: parameters =>
    .append
      (.item _ _ (by decide)
        (ModuleExpansion.expands id (ModuleTypeExpr.declares type) expansion)
        (ModuleExpansion.isSome_content? ..))
      (FunctorParameter.separates_renderAll (position + 1) parameters)

end

/-! ## Roots -/

/-- The page of a unit shows its items, or the modules it packs. -/
theorem UnitContent.separates_render (content : UnitContent) :
    Separates content.render content.subject.shown content.subject.outlines := by
  cases content with
  | «module» items => exact SignatureItem.separates_renderAll .visible items
  | pack modules => exact .note fun here => PackedModule.pages_renderAll here modules

/-- A page of documentation is a page without documentation of its own, whose content is text. -/
theorem DocPage.render_eq_pageOf (p : DocPage) :
    p.render =
      Render.pageOf p.id.name [] (Render.note fun here => Docs.content here p.content) := by
  funext cfg s
  simp [DocPage.render, Render.pageOf, bind_run, Render.note, Docs.content, Docs.render,
    Block.renderAll, Docs.headings]

theorem DocPage.separates_content (p : DocPage) :
    Separates (Render.note fun here => Docs.content here p.content) (Subject.text p.content).shown
      [] :=
  .note fun _ => rfl

theorem CompilationUnit.balanced_render (u : CompilationUnit) : Balanced u.render :=
  .pageOf _ _ u.content.separates_render.balanced

theorem DocPage.balanced_render (p : DocPage) : Balanced p.render := by
  rw [DocPage.render_eq_pageOf]
  exact .pageOf _ _ p.separates_content.balanced

theorem Root.balanced_renderIn (package : String) (r : Root) : Balanced (r.renderIn package) := by
  cases r with
  | unit u => exact .onPage _ _ (.onPage _ _ u.balanced_render)
  | page p => exact .onPage _ _ (.onPage _ _ p.balanced_render)

/-- The page of a root is the one that its outline describes. -/
theorem Root.gives_renderIn {package : String} {cfg : Settings} {r : Root} {page : Page}
    {ws : List Warning} (h : Gives (r.renderIn package) cfg {} page ws) :
    r.outline.Describes cfg [package] page ∧ ws.Perm (r.outline.warnings cfg [package]) := by
  cases r with
  | unit u =>
    have hb := u.balanced_render
    rw [Root.renderIn, gives_onPage (.onPage _ _ hb), gives_onPage hb] at h
    exact u.content.separates_render.pageOf ⟨.unit, u.id.name, u.id, u.doc, u.content.subject⟩ h
  | page p =>
    have hb := p.balanced_render
    rw [Root.renderIn, gives_onPage (.onPage _ _ hb), gives_onPage hb,
      DocPage.render_eq_pageOf] at h
    exact p.separates_content.pageOf ⟨.page, p.id.name, p.id, [], .text p.content⟩ h

/-- **Rendering writes out the outline.**  If a root is rendered, its pages are those of its outline
and each shows its topic; the warnings are what has to be noted on those pages. -/
theorem Root.render_eq_ok {cfg : Settings} {r : Root} {out : Root.Rendered}
    (h : r.render cfg = .ok out) :
    r.outline.Describes cfg [cfg.packages.packageOf r.id] out.page ∧
      out.warnings.Perm (r.outline.warnings cfg [cfg.packages.packageOf r.id]) := by
  rw [Root.render] at h
  cases hr : (r.renderIn (cfg.packages.packageOf r.id) cfg {}).result with
  | error e =>
    rw [hr] at h
    cases h
  | ok page =>
    rw [hr] at h
    simp only at h
    split at h
    · cases h
      exact Root.gives_renderIn ((r.balanced_renderIn _).gives hr)
    · cases h

end DocSite
