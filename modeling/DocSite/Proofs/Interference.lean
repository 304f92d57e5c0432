import Mathlib.Data.List.Forall2
import DocSite.Proofs.Endings
import DocSite.Proofs.TextAgreement

/-!
# The settings do not interfere with rendering

Rendering one root with any two settings succeeds with both or fails with both.  If it fails, the
fault is the same and so is the page it is met on; if it succeeds, the pages are the same up to the
addresses of links, the details that are open and the package they lie in, and the same warnings are
left in the same order.  So which pages there are, what they are called, what they say and what can
be linked to is a matter of the interface alone.

Two runs are compared step by step.  `Render.Agree n x y` starts `x` and `y` with the same pages
open inside two packages, and there is one rule for each way in which renderings are put together.
That renderings leave the open pages as they found them is part of it, since otherwise what comes
second would not start from the same pages.
-/

namespace DocSite

open TypeText

section Texts

variable {here here' : Here}

/-! ## Module types -/

namespace TypeEquation

@[simp] theorem neutral_head (name : Markup) (e : TypeEquation) :
    (e.head name).map Node.neutral = e.head (name.map Node.neutral) := by
  simp [head]

theorem agree_renderEqual (base : Identifier) (f : Fragment) (e : TypeEquation) :
    (e.renderEqual here base f).Agree (List.map Node.neutral) (e.renderEqual here' base f) := by
  refine (Here.agree_fragment base f).bind fun name name' hname => ?_
  have hrest (manifest manifest' : Markup)
      (h : manifest.map Node.neutral = manifest'.map Node.neutral) :
      (do
        let constraints ← renderConstraints here e.constraints
        return e.head name ++ manifest ++ constraints : Noted Markup).Agree (List.map Node.neutral)
      (do
        let constraints ← renderConstraints here' e.constraints
        return e.head name' ++ manifest' ++ constraints) := by
    refine (agree_renderConstraints e.constraints).bind fun cs cs' hcs => .pure ?_
    simp [hname, h, hcs]
  cases e.manifest with
  | none => exact hrest [] [] rfl
  | some t =>
    refine (TypeExpr.agree_render t false).bind fun type type' htype => hrest _ _ ?_
    simp [htype]

theorem agree_renderReplaced (base : Identifier) (f : Fragment) (e : TypeEquation) (t : TypeExpr) :
    (e.renderReplaced here base f t).Agree (List.map Node.neutral)
      (e.renderReplaced here' base f t) := by
  refine (Here.agree_fragment base f).bind fun name name' hname => ?_
  refine (TypeExpr.agree_render t false).bind fun type type' htype => .pure ?_
  simp [hname, htype]

end TypeEquation

mutual

theorem ModuleTypeExpr.agree_render (base : Identifier) :
    ∀ t : ModuleTypeExpr, (t.render here base).Agree (List.map Node.neutral) (t.render here' base)
  | .path p => .lift (Here.agree_path true p)
  | .signature _ => .refl _ _
  | .functor .unit result => by
    refine (ModuleTypeExpr.agree_render base result).bind fun result result' h => .pure ?_
    simp [h]
  | .functor (.named id type _) result => by
    refine (ModuleTypeExpr.agree_render base type).bind fun parameter parameter' hparameter => ?_
    refine (ModuleTypeExpr.agree_render base result).bind fun result result' hresult => .pure ?_
    simp [hparameter, hresult]
  | .constrained inner substitutions => by
    refine (ModuleTypeExpr.agree_render base inner).bind fun shown shown' hshown => ?_
    refine (Substitution.agree_renderAll _ substitutions).bind fun parts parts' hparts => .pure ?_
    simp [hshown, hparts]
  | .typeOf decl => by
    refine (ModuleDecl.agree_renderBody base decl).bind fun shown shown' h => .pure ?_
    simp [h]

theorem ModuleDecl.agree_renderBody (base : Identifier) :
    ∀ decl : ModuleDecl,
      (decl.renderBody here base).Agree (List.map Node.neutral) (decl.renderBody here' base)
  | .alias p => .lift (Here.agree_path true p)
  | .moduleType t => ModuleTypeExpr.agree_render base t

theorem Substitution.agree_renderAll (base : Identifier) :
    ∀ ss : List Substitution,
      (Substitution.renderAll here base ss).Agree (List.map (List.map Node.neutral))
        (Substitution.renderAll here' base ss)
  | [] => .refl _ _
  | s :: ss => by
    refine (Substitution.agree_render base s).bind fun part part' hpart => ?_
    refine (Substitution.agree_renderAll base ss).bind fun parts parts' hparts => .pure ?_
    simp [hpart, hparts]

theorem Substitution.agree_render (base : Identifier) :
    ∀ s : Substitution, (s.render here base).Agree (List.map Node.neutral) (s.render here' base)
  | .moduleEq f decl => by
    refine Checked.Agree.bind (.lift (Here.agree_fragment base f)) fun name name' hname => ?_
    refine (ModuleDecl.agree_renderBody base decl).bind fun shown shown' hshown => .pure ?_
    simp [hname, hshown]
  | .moduleSubst f p => by
    refine Checked.Agree.bind (.lift (Here.agree_fragment base f)) fun name name' hname => ?_
    refine Checked.Agree.bind (.lift (Here.agree_path true p)) fun path path' hpath => .pure ?_
    simp [hname, hpath]
  | .typeEq f e => .lift (TypeEquation.agree_renderEqual base f e)
  | .typeSubst f e => by
    rw [Substitution.render, Substitution.render]
    cases e.manifest with
    | none => exact .refl _ _
    | some t => exact .lift (TypeEquation.agree_renderReplaced base f e t)

end

theorem ModuleDecl.agree_render (base : Identifier) (decl : ModuleDecl) :
    (decl.render here base).Agree (List.map Node.neutral) (decl.render here' base) := by
  refine (ModuleDecl.agree_renderBody base decl).bind fun shown shown' h => .pure ?_
  simp [h]

/-! ## Classes -/

theorem ClassTypeExpr.agree_render (t : ClassTypeExpr) :
    (t.render here).Agree (List.map Node.neutral) (t.render here') := by
  cases t with
  | signature self items => exact .refl _ _
  | constr p ts =>
    refine (Here.agree_path false p).bind fun path path' hpath => ?_
    refine (TypeExpr.agree_renderAll ts _).bind fun arguments arguments' harguments => .pure ?_
    simp [hpath, harguments]

theorem ClassDecl.agree_render (d : ClassDecl) :
    (d.render here).Agree (List.map Node.neutral) (d.render here') := by
  induction d with
  | classType t => exact t.agree_render
  | arrow l a d ih =>
    refine (TypeExpr.agree_render a true).bind fun source source' hsource => ?_
    refine ih.bind fun target target' htarget => .pure ?_
    simp [hsource, htarget]

@[simp] theorem neutral_keywordIf (due : Bool) (word : String) :
    (keywordIf due word).map Node.neutral = keywordIf due word := by
  cases due <;> rfl

@[simp] theorem neutral_classKeywords (head : String) (isVirtual : Bool)
    (parameters : List TypeParameter) :
    (classKeywords head isVirtual parameters).map Node.neutral =
      classKeywords head isVirtual parameters := by
  cases parameters <;> simp [classKeywords]

theorem Method.agree_render (m : Method) : (m.render here).Agree Node.neutral (m.render here') :=
  agree_typed _ _ _ fun anchor _ _ _ _ htype hdoc => by simp [htype, hdoc]

theorem InstanceVariable.agree_render (v : InstanceVariable) :
    (v.render here).Agree Node.neutral (v.render here') :=
  agree_typed _ _ _ fun anchor _ _ _ _ htype hdoc => by simp [htype, hdoc]

namespace ClassItem

theorem agree_renderConstraint (a b : TypeExpr) :
    (renderConstraint here a b).Agree Node.neutral (renderConstraint here' a b) := by
  refine (TypeExpr.agree_render a false).bind fun left left' hleft => ?_
  refine (TypeExpr.agree_render b false).bind fun right right' hright => .pure ?_
  simp [hleft, hright]

theorem agree_renderInherited (t : ClassTypeExpr) :
    (renderInherited here t).Agree Node.neutral (renderInherited here' t) := by
  refine t.agree_render.bind fun type type' h => .pure ?_
  simp [h]

/-- A member before the members that follow it. -/
theorem agree_append {α : Type} {n : α → α} {x y : Noted α} {g : α → Content}
    (hg : ∀ a, (g a).neutral = g (n a)) {rest rest' : Checked Content} (hx : x.Agree n y)
    (hrest : rest.Agree Content.neutral rest') :
    Checked.Agree Content.neutral (do let a ← x; return g a ++ (← rest))
      (do let a ← y; return g a ++ (← rest')) := by
  refine Checked.Agree.bind (.lift hx) fun a a' ha => ?_
  refine hrest.bind fun c c' hc => .pure ?_
  rw [Content.neutral_append, Content.neutral_append, hg, hg, ha, hc]

theorem agree_renderAll :
    ∀ (items : List ClassItem) (visibility : Visibility),
      (renderAll here visibility items).Agree Content.neutral (renderAll here' visibility items)
  | [], _ => .refl _ _
  | .comment .stop :: items, visibility => by
    rw [renderAll, renderAll]
    exact agree_renderAll items visibility.toggle
  | .comment (.docs docs) :: items, visibility =>
    agree_append (g := id) (fun _ => rfl) (docs.agree_comment visibility)
      (agree_renderAll items visibility)
  | .method m :: items, visibility =>
    agree_append Content.neutral_ofNode m.agree_render (agree_renderAll items visibility)
  | .instanceVariable v :: items, visibility =>
    agree_append Content.neutral_ofNode v.agree_render (agree_renderAll items visibility)
  | .constraint a b :: items, visibility =>
    agree_append Content.neutral_ofNode (agree_renderConstraint a b)
      (agree_renderAll items visibility)
  | .inherit (.signature _ _) :: items, visibility => .refl _ _
  | .inherit (.constr p ts) :: items, visibility =>
    agree_append Content.neutral_ofNode (agree_renderInherited (.constr p ts))
      (agree_renderAll items visibility)

end ClassItem

/-! ## The nodes of items -/

theorem Here.agree_heading (kind : PageKind) (name : String) (doc : Docs) (hasPage : Bool) :
    (here.heading kind name doc hasPage).Agree (Prod.map Node.neutral (List.map Node.neutral))
      (here'.heading kind name doc hasPage) := by
  cases hasPage with
  | true =>
    refine doc.agree_renderSynopsis.bind fun shown shown' h => .pure ?_
    simp [Here.linkBelow, h]
  | false =>
    refine doc.agree_render.bind fun shown shown' h => .pure ?_
    simp [h]

section Nodes

variable {declared declared' : Markup}

theorem agree_moduleNode (recursion : Recursion) (id : Identifier) (doc : Docs) (hasPage : Bool)
    (h : declared.map Node.neutral = declared'.map Node.neutral) :
    (moduleNode here recursion id doc declared hasPage).Agree Node.neutral
      (moduleNode here' recursion id doc declared' hasPage) := by
  refine (Here.agree_heading ..).bind fun ⟨name, shown⟩ ⟨name', shown'⟩ hhead => ?_
  obtain ⟨hname, hshown⟩ := Prod.mk.inj hhead
  refine .bind_same _ fun anchor => .pure ?_
  simp [hname, hshown, h]

theorem agree_moduleTypeNode (id : Identifier) (doc : Docs) (hasPage : Bool)
    (h : declared.map Node.neutral = declared'.map Node.neutral) :
    (moduleTypeNode here id doc declared hasPage).Agree Node.neutral
      (moduleTypeNode here' id doc declared' hasPage) := by
  refine (Here.agree_heading ..).bind fun ⟨name, shown⟩ ⟨name', shown'⟩ hhead => ?_
  obtain ⟨hname, hshown⟩ := Prod.mk.inj hhead
  refine .bind_same _ fun anchor => .pure ?_
  simp [hname, hshown, h]

theorem Class.agree_node (recursion : Recursion) (c : Class) (hasPage : Bool)
    (h : declared.map Node.neutral = declared'.map Node.neutral) :
    (c.node here recursion declared hasPage).Agree Node.neutral
      (c.node here' recursion declared' hasPage) := by
  refine (Here.agree_heading ..).bind fun ⟨name, shown⟩ ⟨name', shown'⟩ hhead => ?_
  obtain ⟨hname, hshown⟩ := Prod.mk.inj hhead
  refine .bind_same _ fun anchor => .pure ?_
  simp [hname, hshown, h]

theorem ClassType.agree_node (recursion : Recursion) (c : ClassType) (hasPage : Bool)
    (h : declared.map Node.neutral = declared'.map Node.neutral) :
    (c.node here recursion declared hasPage).Agree Node.neutral
      (c.node here' recursion declared' hasPage) := by
  refine (Here.agree_heading ..).bind fun ⟨name, shown⟩ ⟨name', shown'⟩ hhead => ?_
  obtain ⟨hname, hshown⟩ := Prod.mk.inj hhead
  refine .bind_same _ fun anchor => .pure ?_
  simp [hname, hshown, h]

theorem agree_parameterNode (position : Nat) (id : Identifier) (hasPage : Bool)
    (h : declared.map Node.neutral = declared'.map Node.neutral) :
    (parameterNode here position id declared hasPage).Agree Node.neutral
      (parameterNode here' position id declared' hasPage) := by
  refine .bind_same _ fun anchor => .pure ?_
  cases hasPage <;> simp [Here.linkBelow, h]

end Nodes

theorem agree_moduleTypeTail (id : Identifier) (type : Option ModuleTypeExpr) :
    (moduleTypeTail here id type).Agree (List.map Node.neutral) (moduleTypeTail here' id type) := by
  cases type with
  | none => exact .refl _ _
  | some t =>
    refine (ModuleTypeExpr.agree_render id t).bind fun shown shown' h => .pure ?_
    simp [h]

theorem agree_parameterType (position : Nat) (id : Identifier) (type : ModuleTypeExpr) :
    (parameterType here position id type).Agree (List.map Node.neutral)
      (parameterType here' position id type) :=
  (Checked.Agree.refl (fun _ => ()) (checkArgument position id)).bind fun _ _ _ =>
    ModuleTypeExpr.agree_render id type

/-! ## Includes, functors and packs -/

theorem agree_includeHead (parent : Identifier) (doc : Docs) (decl : ModuleDecl) :
    (includeHead here parent doc decl).Agree
      (Prod.map (List.map Node.neutral) (List.map Node.neutral))
      (includeHead here' parent doc decl) := by
  refine (ModuleDecl.agree_renderBody parent decl).bind fun summary summary' hsummary => ?_
  refine Checked.Agree.bind (.lift doc.agree_render) fun shown shown' hshown => .pure ?_
  simp [hsummary, hshown]

/-- Whether an include is open is all that the settings say of it. -/
theorem neutral_includeBody (cfg cfg' : Settings) (doc : Docs) {head head' : Markup × Markup}
    {inner inner' : Content}
    (hhead : head.map (List.map Node.neutral) (List.map Node.neutral) =
      head'.map (List.map Node.neutral) (List.map Node.neutral))
    (hinner : inner.neutral = inner'.neutral) :
    (includeBody cfg doc head inner).neutral = (includeBody cfg' doc head' inner').neutral := by
  obtain ⟨summary, shown⟩ := head
  obtain ⟨summary', shown'⟩ := head'
  obtain ⟨body, toc, pages⟩ := inner
  obtain ⟨body', toc', pages'⟩ := inner'
  simp only [Prod.map_apply, Prod.mk.injEq] at hhead
  simp only [Content.neutral, Content.mk.injEq] at hinner
  obtain ⟨hbody, rfl, hpages⟩ := hinner
  simp only [includeBody]
  rw [isEmpty_eq_of_map_eq hhead.2]
  split <;> simp [Content.neutral, hhead, hbody, hpages]

@[simp] theorem neutral_functorBody (parameters result : Content) :
    (functorBody parameters result).neutral = functorBody parameters.neutral result.neutral := by
  simp [functorBody, Content.neutral]

theorem PackedModule.agree_renderAll (modules : List PackedModule) :
    (PackedModule.renderAll here modules).Agree Content.neutral
      (PackedModule.renderAll here' modules) := by
  induction modules with
  | nil => exact .refl _ _
  | cons m ms ih =>
    refine (Here.agree_path false m.path).bind fun path path' hpath => ?_
    refine .bind_same _ fun anchor => ?_
    refine ih.bind fun rest rest' hrest => .pure ?_
    simp [hpath, hrest]

end Texts

/-! ## Two runs -/

/-- The addresses of one page in two packages. -/
def SamePage (package package' : String) (address address' : String) : Prop :=
  ∃ below : PagePath, address = "/".intercalate (package :: below) ∧
    address' = "/".intercalate (package' :: below)

/-- The warnings say the same of the same page. -/
structure Warning.Agree (package package' : String) (w w' : Warning) : Prop where
  note : w.note = w'.note
  page : SamePage package package' w.page w'.page

variable {α β γ δ : Type}

/-- Both runs succeed, with results that are related, or both fail with the same fault on the same
page. -/
inductive ResultsAgree (R : α → α → Prop) (package package' : String) :
    Except RenderError α → Except RenderError α → Prop
  | ok {a b : α} (h : R a b) : ResultsAgree R package package' (.ok a) (.ok b)
  | error {e e' : RenderError} (hfault : e.fault = e'.fault)
      (hcontext : SamePage package package' e.context e'.context) :
      ResultsAgree R package package' (.error e) (.error e')

structure Outcome.Agree (n : α → γ) (package package' : String) (x y : Outcome α) : Prop where
  result : ResultsAgree (fun a b => n a = n b) package package' x.result y.result
  warnings : List.Forall₂ (Warning.Agree package package') x.warnings y.warnings

namespace Scopes

/-- Pages that are open inside a package, `top` being the innermost. -/
def within (package : String) (top : Scope) (outer : List Scope) : Scopes :=
  ⟨top :: (outer ++ [⟨.package, package⟩])⟩

theorem path_within (package : String) (top : Scope) (outer : List Scope) :
    (within package top outer).path = package :: ((top :: outer).map Scope.segment).reverse := by
  simp [within, path]

/-- The same pages are open in two packages. -/
theorem samePage_within (package package' : String) (top : Scope) (outer : List Scope) :
    SamePage package package' (within package top outer).address
      (within package' top outer).address := by
  refine ⟨((top :: outer).map Scope.segment).reverse, ?_, ?_⟩
  · rw [address, path_within]
  · rw [address, path_within]

end Scopes

namespace Render

/-- Started with the same pages open in two packages, both renderings do the same up to `n`, and
leave the open pages as they found them. -/
structure Agree (n : α → γ) (x y : Render α) : Prop where
  balanced : Balanced x
  balanced' : Balanced y
  outcome : ∀ (cfg cfg' : Settings) (package package' : String) (top : Scope) (outer : List Scope),
    Outcome.Agree n package package' (x cfg (.within package top outer))
      (y cfg' (.within package' top outer))

namespace Agree

variable {m : α → γ} {n : β → δ}

theorem pure {a b : α} (h : m a = m b) : Agree m (Pure.pure a) (Pure.pure b) where
  balanced := .pure a
  balanced' := .pure b
  outcome _ _ _ _ _ _ := ⟨.ok h, .nil⟩

/-- The notes of a text become warnings of the page that it is on. -/
theorem warnings (ns : List Note) (package package' : String) (top : Scope) (outer : List Scope) :
    List.Forall₂ (Warning.Agree package package')
      (ns.map (Warning.mk (Scopes.within package top outer).address))
      (ns.map (Warning.mk (Scopes.within package' top outer).address)) := by
  rw [List.forall₂_map_left_iff, List.forall₂_map_right_iff, List.forall₂_same]
  intro note _
  exact ⟨rfl, Scopes.samePage_within ..⟩

theorem note {f g : Here → Noted α} (h : ∀ here here', (f here).Agree m (g here')) :
    Agree m (Render.note f) (Render.note g) where
  balanced := .note f
  balanced' := .note g
  outcome cfg cfg' package package' top outer := by
    have hagree := h ⟨cfg, (Scopes.within package top outer).path⟩
      ⟨cfg', (Scopes.within package' top outer).path⟩
    refine ⟨.ok hagree.value, ?_⟩
    simp only [Render.note, hagree.notes]
    exact warnings ..

theorem check {f g : Here → Checked α} (h : ∀ here here', (f here).Agree m (g here')) :
    Agree m (Render.check f) (Render.check g) where
  balanced := .check f
  balanced' := .check g
  outcome cfg cfg' package package' top outer := by
    obtain ⟨hvalue, hnotes⟩ := h ⟨cfg, (Scopes.within package top outer).path⟩
      ⟨cfg', (Scopes.within package' top outer).path⟩
    constructor
    · simp only [Render.check]
      rcases except_map_eq_map hvalue with ⟨e, hx, hy⟩ | ⟨a, b, hx, hy, hab⟩
      · rw [hx, hy]
        exact .error rfl (Scopes.samePage_within ..)
      · rw [hx, hy]
        exact .ok hab
    · simp only [Render.check, hnotes]
      exact warnings ..

theorem bind {x y : Render α} {f g : α → Render β} (hx : Agree m x y)
    (hf : ∀ a b, m a = m b → Agree n (f a) (g b)) : Agree n (x >>= f) (y >>= g) where
  balanced := .bind hx.balanced fun a => (hf a a rfl).balanced
  balanced' := .bind hx.balanced' fun b => (hf b b rfl).balanced'
  outcome cfg cfg' package package' top outer := by
    have hfirst := hx.outcome cfg cfg' package package' top outer
    rw [bind_run, bind_run, hx.balanced, hx.balanced']
    generalize x cfg (.within package top outer) = first at hfirst ⊢
    generalize y cfg' (.within package' top outer) = first' at hfirst ⊢
    obtain ⟨result, scopes, ws⟩ := first
    obtain ⟨result', scopes', ws'⟩ := first'
    obtain ⟨hresult, hws⟩ := hfirst
    cases hresult with
    | error hfault hcontext => exact ⟨.error hfault hcontext, hws⟩
    | ok h =>
      have hrest := (hf _ _ h).outcome cfg cfg' package package' top outer
      exact ⟨hrest.result, List.rel_append hws hrest.warnings⟩

/-- A page is opened inside the same pages in both runs. -/
theorem onPage (kind : PageKind) (name : String) {x y : Render α} (h : Agree m x y) :
    Agree m (Render.onPage kind name x) (Render.onPage kind name y) where
  balanced := .onPage kind name h.balanced
  balanced' := .onPage kind name h.balanced'
  outcome cfg cfg' package package' top outer := by
    have hinner :=
      h.outcome cfg cfg' package package' ⟨kind, kind.segment name⟩ (top :: outer)
    rw [onPage_run h.balanced, onPage_run h.balanced']
    exact ⟨hinner.result, hinner.warnings⟩

theorem buildPage (title : String) (toc : List ContentsEntry) {header header' body body' : Markup}
    {children children' : List Page} (hheader : header.map Node.neutral = header'.map Node.neutral)
    (hbody : body.map Node.neutral = body'.map Node.neutral)
    (hchildren : children.map Page.neutral = children'.map Page.neutral) :
    Agree Page.neutral (Render.buildPage title header toc body children)
      (Render.buildPage title header' toc body' children') where
  balanced := .buildPage _ _ _ _ _
  balanced' := .buildPage _ _ _ _ _
  outcome cfg cfg' package package' top outer := by
    refine ⟨.ok ?_, .nil⟩
    simp [Scopes.path_within, hheader, hbody, hchildren]

/-! ## Items and their pages -/

theorem pageOf (title : String) (doc : Docs) {x y : Render Content}
    (h : Agree Content.neutral x y) :
    Agree Page.neutral (Render.pageOf title doc x) (Render.pageOf title doc y) := by
  refine (note fun _ _ => doc.agree_render).bind fun header header' hheader => ?_
  refine h.bind fun content content' hcontent => ?_
  obtain ⟨body, toc, pages⟩ := content
  obtain ⟨body', toc', pages'⟩ := content'
  obtain ⟨hbody, rfl, hpages⟩ := Content.mk.inj hcontent
  exact buildPage title _ hheader hbody hpages

theorem plainItem {node : Here → Noted Node}
    (h : ∀ here here', (node here).Agree Node.neutral (node here')) :
    Agree Content.neutral (Render.plainItem node) (Render.plainItem node) := by
  refine (note h).bind fun node node' hnode => .pure ?_
  simp [hnode]

/-- One rendering after another, and a content made from both. -/
theorem both {x y : Render Content} {g : Content → Content → Content}
    (hg : ∀ a b, (g a b).neutral = g a.neutral b.neutral) (hx : Agree Content.neutral x x)
    (hy : Agree Content.neutral y y) :
    Agree Content.neutral (do let a ← x; let b ← y; return g a b)
      (do let a ← x; let b ← y; return g a b) := by
  refine hx.bind fun a a' ha => ?_
  refine hy.bind fun b b' hb => .pure ?_
  rw [hg, hg, ha, hb]

theorem includeItem (parent : Identifier) (doc : Docs) (decl : ModuleDecl) {x : Render Content}
    (h : Agree Content.neutral x x) :
    Agree Content.neutral (Render.includeItem parent doc decl x)
      (Render.includeItem parent doc decl x) := by
  refine (check fun _ _ => agree_includeHead parent doc decl).bind fun head head' hhead => ?_
  refine h.bind fun inner inner' hinner => ?_
  refine note fun here here' => .pure ?_
  exact neutral_includeBody here.settings here'.settings doc hhead hinner

end Agree

/-- If there is an expansion and it is not at fault, what it holds is the same in any two runs. -/
def ExpansionAgrees (expansion : Option (Except Fault (Render Content))) : Prop :=
  ∀ content, expansion = some (.ok content) → Agree Content.neutral content content

theorem Agree.pageOfExpansion (kind : PageKind) (name : String) (id : Identifier) (doc : Docs)
    {expansion : Option (Except Fault (Render Content))} (h : ExpansionAgrees expansion) :
    Agree (Option.map Page.neutral) (Render.pageOfExpansion kind name id doc expansion)
      (Render.pageOfExpansion kind name id doc expansion) := by
  cases expansion with
  | none => exact .pure rfl
  | some expansion =>
    cases expansion with
    | error fault => exact .check fun _ _ => .refl _ _
    | ok content =>
      have hpage := (h content rfl).pageOf (kind.title ++ " " ++ id.display) doc
      refine (hpage.onPage kind name).bind fun page page' hpage => .pure ?_
      rw [Option.map_some, Option.map_some, hpage]

/-- An item agrees if what it is declared as, its page and its node do. -/
theorem Agree.item {Declared Neutral : Type} {m : Declared → Neutral} (kind : PageKind)
    (name : String) (id : Identifier) (doc : Docs) {declared : Here → Checked Declared}
    {node : Here → Declared → Bool → Noted Node}
    {expansion : Option (Except Fault (Render Content))}
    (hdeclared : ∀ here here', (declared here).Agree m (declared here'))
    (hnode : ∀ here here' d d' hasPage, m d = m d' →
      (node here d hasPage).Agree Node.neutral (node here' d' hasPage))
    (h : ExpansionAgrees expansion) :
    Agree Content.neutral (Render.item kind name id doc declared node expansion)
      (Render.item kind name id doc declared node expansion) := by
  refine (Agree.check hdeclared).bind fun d d' hd => ?_
  refine (Agree.pageOfExpansion kind name id doc h).bind fun page page' hpage => ?_
  have hsome : page.isSome = page'.isSome := by
    simpa using congrArg Option.isSome hpage
  rw [hsome]
  refine (Agree.note fun here here' => hnode here here' d d' _ hd).bind fun n n' hn => .pure ?_
  simp [hn, hpage]

end Render

/-! ## Signatures -/

open Render

theorem ClassSignature.expansionAgrees (expansion : Option ClassSignature) :
    ExpansionAgrees (expansion.map fun sig => .ok (Render.check fun here => sig.render here)) := by
  intro content hcontent
  cases expansion with
  | none => cases hcontent
  | some sig =>
    cases hcontent
    exact .check fun _ _ => ClassItem.agree_renderAll sig.items .visible

mutual

/-- Items are rendered in the same way in any two runs. -/
theorem SignatureItem.agree_renderAll (visibility : Visibility) :
    ∀ items : List SignatureItem, Agree Content.neutral (SignatureItem.renderAll visibility items)
      (SignatureItem.renderAll visibility items)
  | [] => .pure rfl
  | item :: items =>
    .both Content.neutral_append (SignatureItem.agree_render visibility item)
      (SignatureItem.agree_renderAll (item.visibilityAfter visibility) items)

@[inherit_doc SignatureItem.agree_renderAll]
theorem SignatureItem.agree_render (visibility : Visibility) :
    ∀ item : SignatureItem,
      Agree Content.neutral (item.render visibility) (item.render visibility)
  | .module recursion id doc decl expansion =>
    .item _ _ _ _ (fun _ _ => ModuleDecl.agree_render id decl)
      (fun _ _ _ _ hasPage => agree_moduleNode recursion id doc hasPage)
      (ModuleExpansion.expansionAgrees id (ModuleDecl.agree_content? decl) expansion)
  | .moduleType id doc type expansion =>
    .item _ _ _ _ (fun _ _ => agree_moduleTypeTail id type)
      (fun _ _ _ _ hasPage => agree_moduleTypeNode id doc hasPage)
      (ModuleExpansion.expansionAgrees id (ModuleTypeExpr.agree_optionContent? type) expansion)
  | .moduleSubstitution id doc manifest =>
    .plainItem fun _ _ => agree_renderModuleSubstitution id doc manifest
  | .type recursion decl => .plainItem fun _ _ => decl.agree_render recursion false
  | .typeSubstitution decl => .plainItem fun _ _ => decl.agree_render .ordinary true
  | .extension e => .plainItem fun _ _ => e.agree_render
  | .exception e => .plainItem fun _ _ => e.agree_renderException
  | .value v => .plainItem fun _ _ => v.agree_render
  | .external e => .plainItem fun _ _ => e.agree_render
  | .class recursion c =>
    .item _ _ _ _ (fun _ _ => .lift c.type.agree_render)
      (fun _ _ _ _ hasPage => c.agree_node recursion hasPage)
      (ClassSignature.expansionAgrees c.expansion)
  | .classType recursion c =>
    .item _ _ _ _ (fun _ _ => .lift c.expr.agree_render)
      (fun _ _ _ _ hasPage => c.agree_node recursion hasPage)
      (ClassSignature.expansionAgrees c.expansion)
  | .include parent doc decl expansion => by
    rw [SignatureItem.render]
    split
    · exact SignatureItem.agree_renderAll visibility expansion
    · exact .includeItem parent doc decl (SignatureItem.agree_renderAll .visible expansion)
  | .comment .stop => .pure rfl
  | .comment (.docs docs) => by
    rw [SignatureItem.render]
    exact .note fun _ _ => docs.agree_comment visibility

theorem ModuleExpansion.expansionAgrees (id : Identifier) {declared : Option (Render Content)}
    (hdeclared : ∀ content, declared = some content → Agree Content.neutral content content) :
    ∀ expansion : Option ModuleExpansion,
      ExpansionAgrees (ModuleExpansion.content? id declared expansion)
  | none => nofun
  | some .asDeclared => by
    intro content hcontent
    cases declared with
    | none => cases hcontent
    | some content' =>
      cases hcontent
      exact hdeclared content rfl
  | some (.signature items) => by
    rintro _ ⟨⟩
    exact SignatureItem.agree_renderAll .visible items
  | some (.functor parameters result) => by
    rintro _ ⟨⟩
    exact .both neutral_functorBody (FunctorParameter.agree_renderAll 1 parameters)
      (SignatureItem.agree_renderAll .visible result)

theorem ModuleDecl.agree_content? :
    ∀ (decl : ModuleDecl) (content : Render Content), ModuleDecl.content? decl = some content →
      Agree Content.neutral content content
  | .moduleType (.signature items), _, rfl => SignatureItem.agree_renderAll .visible items
  | .alias _, _, h | .moduleType (.path _), _, h | .moduleType (.functor ..), _, h
  | .moduleType (.constrained ..), _, h | .moduleType (.typeOf _), _, h => nomatch h

theorem ModuleTypeExpr.agree_content? :
    ∀ (type : ModuleTypeExpr) (content : Render Content),
      ModuleTypeExpr.content? type = some content → Agree Content.neutral content content
  | .signature items, _, rfl => SignatureItem.agree_renderAll .visible items
  | .path _, _, h | .functor .., _, h | .constrained .., _, h | .typeOf _, _, h => nomatch h

theorem ModuleTypeExpr.agree_optionContent? :
    ∀ (type : Option ModuleTypeExpr) (content : Render Content),
      ModuleTypeExpr.optionContent? type = some content → Agree Content.neutral content content
  | some type, content, h => ModuleTypeExpr.agree_content? type content h
  | none, _, h => nomatch h

theorem FunctorParameter.agree_renderAll (position : Nat) :
    ∀ parameters : List FunctorParameter,
      Agree Content.neutral (FunctorParameter.renderAll position parameters)
        (FunctorParameter.renderAll position parameters)
  | [] => .pure rfl
  | .unit :: parameters => FunctorParameter.agree_renderAll (position + 1) parameters
  | .named id type expansion :: parameters =>
    .both Content.neutral_append
      (.item _ _ _ _ (fun _ _ => agree_parameterType position id type)
        (fun _ _ _ _ hasPage => agree_parameterNode position id hasPage)
        (ModuleExpansion.expansionAgrees id (ModuleTypeExpr.agree_content? type) expansion))
      (FunctorParameter.agree_renderAll (position + 1) parameters)

end

/-! ## Roots -/

theorem UnitContent.agree_render (content : UnitContent) :
    Agree Content.neutral content.render content.render := by
  cases content with
  | «module» items => exact SignatureItem.agree_renderAll .visible items
  | pack modules =>
    rw [UnitContent.render]
    exact .note fun _ _ => PackedModule.agree_renderAll modules

theorem CompilationUnit.agree_render (u : CompilationUnit) :
    Agree Page.neutral u.render u.render :=
  .pageOf _ _ u.content.agree_render

theorem DocPage.agree_render (p : DocPage) : Agree Page.neutral p.render p.render := by
  refine (Agree.note fun _ _ => Docs.agree_render p.content).bind fun body body' hbody => ?_
  exact .buildPage _ _ rfl hbody rfl

/-- A page right inside the package, where two runs begin to be comparable. -/
theorem Render.Agree.inPackage {n : α → γ} {x y : Render α} (h : Agree n x y) (kind : PageKind)
    (name package package' : String) (cfg cfg' : Settings) :
    Outcome.Agree n package package'
      (Render.onPage .package package (Render.onPage kind name x) cfg {})
      (Render.onPage .package package' (Render.onPage kind name y) cfg' {}) := by
  have hinner := h.outcome cfg cfg' package package' ⟨kind, kind.segment name⟩ []
  rw [onPage_run (.onPage _ _ h.balanced), onPage_run (.onPage _ _ h.balanced'),
    onPage_run h.balanced, onPage_run h.balanced']
  exact ⟨hinner.result, hinner.warnings⟩

namespace Root

theorem agree_renderIn (cfg cfg' : Settings) (package package' : String) (r : Root) :
    Outcome.Agree Page.neutral package package' (r.renderIn package cfg {})
      (r.renderIn package' cfg' {}) := by
  cases r with
  | unit u => exact u.agree_render.inPackage ..
  | page p => exact p.agree_render.inPackage ..

/-- The pages of two rendered roots are the same up to the settings, and the same warnings are left
in the same order. -/
structure Rendered.Agree (out out' : Rendered) : Prop where
  page : out.page.neutral = out'.page.neutral
  warnings : List.Forall₂ (Warning.Agree out.package out'.package) out.warnings out'.warnings

/-- **The settings do not interfere.**  With any two settings a root is rendered with both or with
neither.  If it is not, the fault is the same, on the same page up to its package.  If it is, the
pages are the same up to the addresses of links, the details that are open and the package, and the
warnings are the same, in the same order and on the same pages up to their package. -/
theorem settings_do_not_interfere (cfg cfg' : Settings) (r : Root) :
    ResultsAgree Rendered.Agree (cfg.packages.packageOf r.id) (cfg'.packages.packageOf r.id)
      (r.render cfg) (r.render cfg') := by
  obtain ⟨hresult, hwarnings⟩ := r.agree_renderIn cfg cfg' (cfg.packages.packageOf r.id)
    (cfg'.packages.packageOf r.id)
  rw [Root.render_eq, Root.render_eq]
  generalize r.renderIn (cfg.packages.packageOf r.id) cfg {} = out at hresult hwarnings ⊢
  generalize r.renderIn (cfg'.packages.packageOf r.id) cfg' {} = out' at hresult hwarnings ⊢
  obtain ⟨result, scopes, ws⟩ := out
  obtain ⟨result', scopes', ws'⟩ := out'
  cases hresult with
  | error hfault hcontext => exact .error hfault hcontext
  | ok h => exact .ok ⟨h, hwarnings⟩

end Root

end DocSite
