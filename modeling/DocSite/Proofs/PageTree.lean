import DocSite.Proofs.Separation
import Mathlib.Data.List.Forall2

/-!
# The tree of pages

The pages of a rendered root are the expansions of the root: as many, in the same order, nested in
the same way, and each at the place that its chain of expansions spells out.

An outline already has this shape, so the work is to read it off the pages that an outline
describes.  Two things are read off here.  The first is the tree itself, `Outline.Describes.tree`.
The second is a way to reason about pages one at a time, `Outline.Describes.forall_nodes`: a
property that passes from a page to the pages below it holds of every page, and pages and topics are
met in the same order.
-/

namespace DocSite

/-- The pages of a site without their content. -/
structure PageTree where
  kind : PageKind
  name : String
  path : PagePath
  children : List PageTree

mutual

/-- The tree of a page and the pages below it. -/
def Page.tree : Page → PageTree
  | ⟨name, kind, path, _, _, _, _, children⟩ => ⟨kind, name, path, Page.treeAll children⟩

@[inherit_doc Page.tree]
def Page.treeAll : List Page → List PageTree
  | [] => []
  | p :: ps => p.tree :: Page.treeAll ps

end

theorem Page.mem_pages_self (p : Page) : p ∈ p.pages := by
  cases p
  exact List.mem_cons_self

/-- Each entry of a list has a counterpart in a list related to it entry by entry. -/
theorem exists_of_forall₂ {α β : Type} {R : α → β → Prop} {xs : List α} {ys : List β} {x : α}
    (h : List.Forall₂ R xs ys) (hx : x ∈ xs) : ∃ y ∈ ys, R x y := by
  induction h with
  | nil => cases hx
  | cons hxy _ ih =>
    rcases List.mem_cons.mp hx with rfl | hx
    · exact ⟨_, List.mem_cons_self, hxy⟩
    · obtain ⟨y, hy, hR⟩ := ih hx
      exact ⟨y, List.mem_cons_of_mem _ hy, hR⟩

namespace Outline

mutual

/-- The tree of the pages of an outline: every page lies directly below the one it is met on. -/
def tree (above : PagePath) : Outline → PageTree
  | ⟨topic, children⟩ =>
    ⟨topic.kind, topic.segment, above ++ [topic.segment],
      treeAll (above ++ [topic.segment]) children⟩

@[inherit_doc tree]
def treeAll (above : PagePath) : List Outline → List PageTree
  | [] => []
  | o :: os => o.tree above :: treeAll above os

end

variable {cfg : Settings}

/-! ## What is read off the pages of an outline -/

theorem Describes.path {above : PagePath} {o : Outline} {p : Page} (h : o.Describes cfg above p) :
    p.path = above ++ [o.topic.segment] := by
  obtain ⟨topic, children⟩ := o
  exact h.1.path

theorem Describes.fits {above : PagePath} {o : Outline} {p : Page} (h : o.Describes cfg above p) :
    o.topic.Fits ⟨cfg, p.path⟩ p := by
  rw [h.path]
  obtain ⟨topic, children⟩ := o
  exact h.1

theorem DescribesAll.exists_page {above : PagePath} {child : Outline} :
    ∀ {os : List Outline} {ps : List Page}, DescribesAll cfg above os ps → child ∈ os →
      ∃ below ∈ ps, child.Describes cfg above below
  | o :: os, p :: ps, ⟨hp, hps⟩, hchild => by
    rcases List.mem_cons.mp hchild with rfl | hchild
    · exact ⟨p, List.mem_cons_self, hp⟩
    · obtain ⟨below, hbelow, hd⟩ := DescribesAll.exists_page hps hchild
      exact ⟨below, List.mem_cons_of_mem p hbelow, hd⟩

/-- Every outline below that of a page has a page below that page. -/
theorem Describes.exists_child {above : PagePath} {o child : Outline} {p : Page}
    (h : o.Describes cfg above p) (hchild : child ∈ o.children) :
    ∃ below ∈ p.children, child.Describes cfg p.path below := by
  rw [h.path]
  obtain ⟨topic, children⟩ := o
  exact DescribesAll.exists_page h.2 hchild

mutual

theorem Describes.tree {above : PagePath} :
    ∀ {o : Outline} {p : Page}, o.Describes cfg above p → p.tree = o.tree above
  | ⟨topic, children⟩, ⟨name, kind, path, title, header, toc, body, below⟩, ⟨hfits, hbelow⟩ => by
    have hname : name = topic.segment := hfits.name
    have hkind : kind = topic.kind := hfits.kind
    have hpath : path = above ++ [topic.segment] := hfits.path
    rw [Page.tree, Outline.tree, hname, hkind, hpath, DescribesAll.tree hbelow]

theorem DescribesAll.tree {above : PagePath} :
    ∀ {os : List Outline} {ps : List Page}, DescribesAll cfg above os ps →
      Page.treeAll ps = treeAll above os
  | [], [], _ => rfl
  | o :: os, p :: ps, ⟨hp, hps⟩ => by
    rw [Page.treeAll, treeAll, Describes.tree hp, DescribesAll.tree hps]

end

mutual

theorem Describes.count {above : PagePath} :
    ∀ {o : Outline} {p : Page}, o.Describes cfg above p → p.count = o.nodes.length
  | ⟨topic, children⟩, ⟨name, kind, path, title, header, toc, body, below⟩, ⟨_, hbelow⟩ => by
    rw [Page.count, nodes, List.length_cons, DescribesAll.count hbelow, Nat.add_comm]

theorem DescribesAll.count {above : PagePath} :
    ∀ {os : List Outline} {ps : List Page}, DescribesAll cfg above os ps →
      Page.countAll ps = (nodesAll os).length
  | [], [], _ => rfl
  | o :: os, p :: ps, ⟨hp, hps⟩ => by
    rw [Page.countAll, nodesAll, List.length_append, Describes.count hp, DescribesAll.count hps]

end

section Induction

variable {P : PagePath → Outline → Prop} {Q : Outline → Page → Prop}

mutual

/-- **Page by page.**  If `P` passes from an outline to the outlines below it, and a page of which
`P` holds is as `Q` says, then all pages are, and they are met in the order of the outline. -/
theorem Describes.forall_nodes
    (step : ∀ {above o p}, Describes cfg above o p → P above o →
      Q o p ∧ ∀ child ∈ o.children, P p.path child) :
    ∀ {above : PagePath} {o : Outline} {p : Page}, o.Describes cfg above p → P above o →
      List.Forall₂ Q o.nodes p.pages
  | above, ⟨topic, children⟩, ⟨name, kind, path, title, header, toc, body, below⟩, h, hP => by
    obtain ⟨hQ, hchildren⟩ := step h hP
    have hpath : path = above ++ [topic.segment] := h.1.path
    have hbelow : DescribesAll cfg path children below := by
      rw [hpath]
      exact h.2
    exact .cons hQ (DescribesAll.forall_nodes step hbelow hchildren)

@[inherit_doc Describes.forall_nodes]
theorem DescribesAll.forall_nodes
    (step : ∀ {above o p}, Describes cfg above o p → P above o →
      Q o p ∧ ∀ child ∈ o.children, P p.path child) :
    ∀ {above : PagePath} {os : List Outline} {ps : List Page}, DescribesAll cfg above os ps →
      (∀ o ∈ os, P above o) → List.Forall₂ Q (nodesAll os) (Page.pagesAll ps)
  | _, [], [], _, _ => .nil
  | _, o :: _, _ :: _, ⟨hp, hps⟩, hP =>
    List.rel_append (Describes.forall_nodes step hp (hP o List.mem_cons_self))
      (DescribesAll.forall_nodes step hps fun child h => hP child (List.mem_cons_of_mem _ h))

end

end Induction

/-! ## The nodes of an outline -/

theorem mem_nodes_self (o : Outline) : o ∈ o.nodes := by
  obtain ⟨topic, children⟩ := o
  exact List.mem_cons_self

theorem mem_nodesAll {os : List Outline} {n : Outline} :
    n ∈ nodesAll os ↔ ∃ o ∈ os, n ∈ o.nodes := by
  induction os with
  | nil => simp [nodesAll]
  | cons o os ih => simp [nodesAll, ih]

/-- What is below a child is below its parent. -/
theorem mem_nodes_of_mem_children {o child n : Outline} (hchild : child ∈ o.children)
    (hn : n ∈ child.nodes) : n ∈ o.nodes := by
  obtain ⟨topic, children⟩ := o
  exact List.mem_cons_of_mem _ (mem_nodesAll.mpr ⟨child, hchild, hn⟩)

/-- Everywhere in the outline, the pages below a page are those that its own subject calls for. -/
def Grown (o : Outline) : Prop := ∀ n ∈ o.nodes, n.children = n.topic.subject.outlines

theorem Grown.of_mem_children {o child : Outline} (h : o.Grown) (hchild : child ∈ o.children) :
    child.Grown :=
  fun n hn => h n (mem_nodes_of_mem_children hchild hn)

theorem grown_mk {topic : Topic} {children : List Outline}
    (hself : children = topic.subject.outlines) (h : ∀ child ∈ children, child.Grown) :
    Grown ⟨topic, children⟩ := by
  intro n hn
  rcases List.mem_cons.mp hn with rfl | hn
  · exact hself
  · obtain ⟨child, hchild, hn⟩ := mem_nodesAll.mp hn
    exact h child hchild n hn

end Outline

/-! ## The outlines of signatures -/

/-- The outlines of a declared type are those its subject calls for. -/
def DeclaredGrown (declared : Option (Subject × List Outline)) : Prop :=
  ∀ subject children, declared = some (subject, children) →
    children = subject.outlines ∧ ∀ o ∈ children, o.Grown

theorem ClassSignature.grown_outlines {topic : Subject → Topic}
    (htopic : ∀ subject, (topic subject).subject = subject) (expansion : Option ClassSignature) :
    ∀ o ∈ ClassSignature.outlines topic expansion, o.Grown := by
  cases expansion with
  | none => simp [ClassSignature.outlines]
  | some sig =>
    intro o ho
    rw [ClassSignature.outlines, List.mem_singleton] at ho
    rw [ho]
    exact Outline.grown_mk (by rw [htopic]; rfl) (by simp)

mutual

theorem SignatureItem.grown_outlinesAll :
    ∀ items : List SignatureItem, ∀ o ∈ SignatureItem.outlinesAll items, o.Grown
  | [], o, ho => by simp [SignatureItem.outlinesAll] at ho
  | item :: items, o, ho => by
    rw [SignatureItem.outlinesAll, List.mem_append] at ho
    rcases ho with ho | ho
    · exact SignatureItem.grown_outlines item o ho
    · exact SignatureItem.grown_outlinesAll items o ho

theorem SignatureItem.grown_outlines :
    ∀ item : SignatureItem, ∀ o ∈ item.outlines, o.Grown
  | .module _ id doc decl expansion =>
    ModuleExpansion.grown_outlines (fun _ => rfl) (ModuleDecl.declaredGrown decl) expansion
  | .moduleType id doc type expansion =>
    ModuleExpansion.grown_outlines (fun _ => rfl) (ModuleTypeExpr.optionDeclaredGrown type)
      expansion
  | .class _ c => ClassSignature.grown_outlines (fun _ => rfl) c.expansion
  | .classType _ c => ClassSignature.grown_outlines (fun _ => rfl) c.expansion
  | .include _ _ _ expansion => SignatureItem.grown_outlinesAll expansion
  | .moduleSubstitution .. | .type .. | .typeSubstitution .. | .extension .. | .exception ..
  | .value .. | .external .. | .comment .. => by simp [SignatureItem.outlines]

theorem ModuleExpansion.grown_outlines {topic : Subject → Topic}
    (htopic : ∀ subject, (topic subject).subject = subject)
    {declared : Option (Subject × List Outline)} (hd : DeclaredGrown declared) :
    ∀ expansion : Option ModuleExpansion,
      ∀ o ∈ ModuleExpansion.outlines topic declared expansion, o.Grown
  | none, o, ho => by simp [ModuleExpansion.outlines] at ho
  | some .asDeclared, o, ho => by
    match declared, hd with
    | none, _ =>
      rw [ModuleExpansion.outlines, List.mem_singleton] at ho
      rw [ho]
      exact Outline.grown_mk (by rw [htopic]; rfl) (by simp)
    | some (subject, children), hd =>
      obtain ⟨hself, hchildren⟩ := hd subject children rfl
      rw [ModuleExpansion.outlines, List.mem_singleton] at ho
      rw [ho]
      exact Outline.grown_mk (by rw [htopic]; exact hself) hchildren
  | some (.signature items), o, ho => by
    rw [ModuleExpansion.outlines, List.mem_singleton] at ho
    rw [ho]
    exact Outline.grown_mk (by rw [htopic]; rfl) (SignatureItem.grown_outlinesAll items)
  | some (.functor parameters result), o, ho => by
    rw [ModuleExpansion.outlines, List.mem_singleton] at ho
    rw [ho]
    refine Outline.grown_mk (by rw [htopic]; rfl) fun child hchild => ?_
    rcases List.mem_append.mp hchild with h | h
    · exact FunctorParameter.grown_outlinesAll 1 parameters child h
    · exact SignatureItem.grown_outlinesAll result child h

theorem ModuleDecl.declaredGrown : ∀ decl : ModuleDecl, DeclaredGrown (ModuleDecl.declared? decl)
  | .moduleType (.signature items), _, _, rfl => ⟨rfl, SignatureItem.grown_outlinesAll items⟩

theorem ModuleTypeExpr.declaredGrown :
    ∀ type : ModuleTypeExpr, DeclaredGrown (ModuleTypeExpr.declared? type)
  | .signature items, _, _, rfl => ⟨rfl, SignatureItem.grown_outlinesAll items⟩

theorem ModuleTypeExpr.optionDeclaredGrown :
    ∀ type : Option ModuleTypeExpr, DeclaredGrown (ModuleTypeExpr.optionDeclared? type)
  | some type => ModuleTypeExpr.declaredGrown type
  | none => nofun

theorem FunctorParameter.grown_outlinesAll (position : Nat) :
    ∀ parameters : List FunctorParameter,
      ∀ o ∈ FunctorParameter.outlinesAll position parameters, o.Grown
  | [], o, ho => by simp [FunctorParameter.outlinesAll] at ho
  | .unit :: parameters, o, ho => FunctorParameter.grown_outlinesAll (position + 1) parameters o ho
  | .named id type expansion :: parameters, o, ho => by
    rw [FunctorParameter.outlinesAll, List.mem_append] at ho
    rcases ho with ho | ho
    · exact ModuleExpansion.grown_outlines (fun _ => rfl) (ModuleTypeExpr.declaredGrown type)
        expansion o ho
    · exact FunctorParameter.grown_outlinesAll (position + 1) parameters o ho

end

theorem Subject.grown_outlines (subject : Subject) : ∀ o ∈ subject.outlines, o.Grown := by
  cases subject with
  | signature items => exact SignatureItem.grown_outlinesAll items
  | functor parameters result =>
    intro o ho
    rcases List.mem_append.mp ho with ho | ho
    · exact FunctorParameter.grown_outlinesAll 1 parameters o ho
    · exact SignatureItem.grown_outlinesAll result o ho
  | members _ | pack _ | text _ => simp [Subject.outlines]

theorem Root.grown_outline (r : Root) : r.outline.Grown := by
  cases r with
  | unit u => exact Outline.grown_mk rfl (Subject.grown_outlines _)
  | page p => exact Outline.grown_mk rfl (by simp)

/-! ## The tree of a rendered root -/

/-- **The tree of pages is the tree of expansions.**  The page of a root lies in its package.  Below
each page are the pages of the expansions that its own subject calls for, in order and no others,
each with the kind and segment of its item and directly below that page.  So there is one page for
each expansion, and one for the root. -/
theorem Root.page_tree_eq_outline_tree {cfg : Settings} {r : Root} {out : Root.Rendered}
    (h : r.render cfg = .ok out) :
    out.page.path = [cfg.packages.packageOf r.id, r.id.name] ∧
      out.page.tree = r.outline.tree [cfg.packages.packageOf r.id] ∧
      (∀ o ∈ r.outline.nodes, o.children = o.topic.subject.outlines) ∧
      out.page.count = 1 + (Outline.nodesAll r.outline.children).length := by
  obtain ⟨hd, -⟩ := Root.render_eq_ok h
  refine ⟨?_, hd.tree, r.grown_outline, ?_⟩
  · cases r with
    | unit u => exact hd.1.path
    | page p => exact hd.1.path
  · have hnodes : r.outline.nodes = r.outline :: Outline.nodesAll r.outline.children := by
      cases r <;> rfl
    rw [hd.count, hnodes, List.length_cons, Nat.add_comm]

/-- A unit with a page at every place where one can be: a functor whose first parameter is empty and
whose second has an expansion, an include with a class, and a module type. -/
def sampleUnit : CompilationUnit :=
  let lib := Identifier.top .root "Lib"
  let make := lib.child .module "Make"
  let elt := make.child (.argument 2) "Elt"
  let empty : SignatureItem := .value ⟨make.child .value "empty", [], .any⟩
  let c : Class :=
    ⟨lib.child .class "c", [], false, [], .classType (.signature none []), some ⟨none, []⟩⟩
  ⟨lib, [], .module [
    .module .ordinary make [] (.alias (.root "Other"))
      (some (.functor [.unit, .named elt (.signature []) (some .asDeclared)] [empty])),
    .include lib [] (.alias (.root "Other")) [.class .ordinary c],
    .moduleType (lib.child .moduleType "S") [] (some (.signature [])) (some .asDeclared),
    .moduleType (lib.child .moduleType "T") [] none none]⟩

theorem page_tree_sampleUnit :
    ∃ out, (Root.unit sampleUnit).render {} = .ok out ∧ out.page.count = 5 ∧ out.page.tree =
      ⟨.unit, "Lib", ["Lib", "Lib"], [
        ⟨.module, "Make", ["Lib", "Lib", "Make"],
          [⟨.argument, "argument-2-Elt", ["Lib", "Lib", "Make", "argument-2-Elt"], []⟩]⟩,
        ⟨.class, "class-c", ["Lib", "Lib", "class-c"], []⟩,
        ⟨.moduleType, "module-type-S", ["Lib", "Lib", "module-type-S"], []⟩]⟩ := by
  refine ⟨_, rfl, ?_⟩
  have hrender : (Root.unit sampleUnit).render {} = .ok _ := rfl
  obtain ⟨-, htree, -, hcount⟩ := Root.page_tree_eq_outline_tree hrender
  exact ⟨hcount, htree⟩

end DocSite
