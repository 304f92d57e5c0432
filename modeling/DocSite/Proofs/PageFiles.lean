import DocSite.Proofs.Locations
import DocSite.Proofs.Segments
import DocSite.Proofs.Storage

/-!
# Files of pages

Every page of a tree has a path of its own, if no page has two pages of one segment below it; and
that follows from how the items of an interface are named.  The items of one signature, included
ones taken with the others, may share a name as long as they differ in kind, since the kind can be
read off the segment.  The parameters of a functor may even be all of one name: their segments carry
their positions.

A file is named by the segments of its page with slashes between them.  These can be read back as
well, piece by piece, and so pages with different paths have different files.

The first two pieces of a file are the package and the root.  Two roots that differ in one of them
have no file in common.  If they agree in both, then they meet, whatever else is in them: a unit and
a page of documentation may have one name, since the segment of a root does not show its kind.
-/

namespace DocSite

/-! ## Paths of an outline -/

namespace Outline

mutual

/-- The paths of the pages of an outline, in order. -/
def paths (above : PagePath) : Outline → List PagePath
  | ⟨topic, children⟩ =>
    (above ++ [topic.segment]) :: pathsAll (above ++ [topic.segment]) children

@[inherit_doc paths]
def pathsAll (above : PagePath) : List Outline → List PagePath
  | [] => []
  | o :: os => o.paths above ++ pathsAll above os

end

mutual

theorem Describes.paths {cfg : Settings} {above : PagePath} :
    ∀ {o : Outline} {p : Page}, o.Describes cfg above p → p.pages.map Page.path = o.paths above
  | ⟨topic, children⟩, ⟨name, kind, path, title, header, toc, body, below⟩, ⟨hfits, hbelow⟩ => by
    have hpath : path = above ++ [topic.segment] := hfits.path
    rw [Page.pages, List.map_cons, Outline.paths, hpath, DescribesAll.paths hbelow]

theorem DescribesAll.paths {cfg : Settings} {above : PagePath} :
    ∀ {os : List Outline} {ps : List Page}, DescribesAll cfg above os ps →
      (Page.pagesAll ps).map Page.path = pathsAll above os
  | [], [], _ => rfl
  | o :: os, p :: ps, ⟨hp, hps⟩ => by
    rw [Page.pagesAll, List.map_append, pathsAll, Describes.paths hp, DescribesAll.paths hps]

end

mutual

/-- A page lies below the page of its outline, and the way down is made of segments. -/
theorem exists_of_mem_paths {above path : PagePath} :
    ∀ {o : Outline}, path ∈ o.paths above →
      ∃ below, path = above ++ o.topic.segment :: below ∧
        ∀ s ∈ below, ∃ n ∈ nodesAll o.children, n.topic.segment = s
  | ⟨topic, children⟩, h => by
    rcases List.mem_cons.mp h with rfl | h
    · exact ⟨[], rfl, by simp⟩
    · obtain ⟨child, hchild, below, rfl, hbelow⟩ := exists_of_mem_pathsAll h
      refine ⟨child.topic.segment :: below, by simp, fun s hs => ?_⟩
      rcases List.mem_cons.mp hs with rfl | hs
      · exact ⟨child, mem_nodesAll.mpr ⟨child, hchild, child.mem_nodes_self⟩, rfl⟩
      · obtain ⟨n, hn, rfl⟩ := hbelow s hs
        obtain ⟨grandchild, hgrandchild, hn⟩ := mem_nodesAll.mp hn
        exact ⟨n, mem_nodesAll.mpr ⟨child, hchild, mem_nodes_of_mem_children hgrandchild hn⟩, rfl⟩

@[inherit_doc exists_of_mem_paths]
theorem exists_of_mem_pathsAll {above path : PagePath} :
    ∀ {os : List Outline}, path ∈ pathsAll above os →
      ∃ o ∈ os, ∃ below, path = above ++ o.topic.segment :: below ∧
        ∀ s ∈ below, ∃ n ∈ nodesAll o.children, n.topic.segment = s
  | o :: os, h => by
    rcases List.mem_append.mp h with h | h
    · exact ⟨o, List.mem_cons_self, exists_of_mem_paths h⟩
    · obtain ⟨o', ho', hpath⟩ := exists_of_mem_pathsAll h
      exact ⟨o', List.mem_cons_of_mem o ho', hpath⟩

end

mutual

/-- The nodes below an outline are the children of its nodes. -/
theorem mem_nodesAll_children {c : Outline} :
    ∀ {o : Outline}, c ∈ nodesAll o.children ↔ ∃ n ∈ o.nodes, c ∈ n.children
  | ⟨topic, children⟩ => by
    rw [nodes, mem_nodesAll_iff, List.exists_mem_cons_iff]

@[inherit_doc mem_nodesAll_children]
theorem mem_nodesAll_iff {c : Outline} :
    ∀ {os : List Outline}, c ∈ nodesAll os ↔ c ∈ os ∨ ∃ n ∈ nodesAll os, c ∈ n.children
  | [] => by simp [nodesAll]
  | ⟨topic, children⟩ :: os => by
    have hfirst := mem_nodesAll_children (c := c) (o := ⟨topic, children⟩)
    have hrest : c ∈ nodesAll os ↔ c ∈ os ∨ ∃ n ∈ nodesAll os, c ∈ n.children := mem_nodesAll_iff
    simp only [nodesAll, nodes, List.mem_append, List.mem_cons] at hfirst hrest ⊢
    grind

end

/-- No page of the outline has two pages of one segment below it. -/
def Apart (o : Outline) : Prop := ∀ n ∈ o.nodes, (n.children.map fun c => c.topic.segment).Nodup

mutual

/-- **Paths differ.**  If segments differ below every page, then all paths do. -/
theorem Apart.nodup_paths {above : PagePath} :
    ∀ {o : Outline}, o.Apart → (o.paths above).Nodup
  | ⟨topic, children⟩, h => by
    refine List.nodup_cons.mpr ⟨fun hmem => ?_, ?_⟩
    · obtain ⟨child, -, below, heq, -⟩ := exists_of_mem_pathsAll hmem
      simp at heq
    · exact nodup_pathsAll (h _ (mem_nodes_self _)) fun child hchild n hn =>
        h n (mem_nodes_of_mem_children hchild hn)

@[inherit_doc Apart.nodup_paths]
theorem nodup_pathsAll {above : PagePath} :
    ∀ {os : List Outline}, (os.map fun o => o.topic.segment).Nodup → (∀ o ∈ os, o.Apart) →
      (pathsAll above os).Nodup
  | [], _, _ => List.nodup_nil
  | o :: os, hsegments, h => by
    obtain ⟨hfirst, hrest⟩ := List.nodup_cons.mp hsegments
    refine List.nodup_append'.mpr ⟨(h o List.mem_cons_self).nodup_paths,
      nodup_pathsAll hrest fun o' ho' => h o' (List.mem_cons_of_mem o ho'), ?_⟩
    -- the segments after `above` are those of two outlines of the list
    intro path hpath hpath'
    obtain ⟨below, rfl, -⟩ := exists_of_mem_paths hpath
    obtain ⟨o', ho', below', heq, -⟩ := exists_of_mem_pathsAll hpath'
    have hsegment : o.topic.segment = o'.topic.segment :=
      (List.cons.inj (List.append_cancel_left heq)).1
    exact hfirst (List.mem_map.mpr ⟨o', ho', hsegment.symm⟩)

end

end Outline

/-! ## Names of items -/

/-- The kind and name of an item that carries an expansion. -/
def SignatureItem.expanded? : SignatureItem → Option (PageKind × String)
  | .module _ id _ _ expansion => expansion.map fun _ => (.module, id.name)
  | .moduleType id _ _ expansion => expansion.map fun _ => (.moduleType, id.name)
  | .class _ c => c.expansion.map fun _ => (.class, c.id.name)
  | .classType _ c => c.expansion.map fun _ => (.classType, c.id.name)
  | _ => none

/-- The signature that a subject shows: that of a functor is the signature of its result. -/
def Subject.items : Subject → List SignatureItem
  | .signature items | .functor _ items => items
  | .members _ | .pack _ | .text _ => []

/-- No name of a page below the root has a dash or a slash in it, and no signature has two items of
one kind and name that both carry an expansion, included items taken with the others. -/
structure Root.NamedApart (r : Root) : Prop where
  names : ∀ o ∈ Outline.nodesAll r.outline.children,
    '-' ∉ o.topic.id.name.toList ∧ '/' ∉ o.topic.id.name.toList
  items : ∀ o ∈ r.outline.nodes,
    ((SignatureItem.standingAll o.topic.subject.items).filterMap SignatureItem.expanded?).Nodup

/-- What a page is called, apart from where it lies. -/
def Topic.label (t : Topic) : PageKind × String := (t.kind, t.name)

theorem ModuleExpansion.labels_outlines (kind : PageKind) (name : String) (id : Identifier)
    (doc : Docs) (declared : Option (Subject × List Outline)) (expansion : Option ModuleExpansion) :
    (ModuleExpansion.outlines (Topic.mk kind name id doc) declared expansion).map
        (fun o => o.topic.label) = (expansion.map fun _ => (kind, name)).toList := by
  cases expansion with
  | none => rfl
  | some expansion =>
    have hsome : (some expansion).isSome := rfl
    obtain ⟨subject, children, heq⟩ :=
      ModuleExpansion.outlines_of_isSome hsome (Topic.mk kind name id doc) declared
    rw [heq]
    rfl

theorem ClassSignature.labels_outlines (kind : PageKind) (name : String) (id : Identifier)
    (doc : Docs) (expansion : Option ClassSignature) :
    (ClassSignature.outlines (Topic.mk kind name id doc) expansion).map (fun o => o.topic.label) =
      (expansion.map fun _ => (kind, name)).toList := by
  cases expansion <;> rfl

mutual

/-- The pages below a signature are called as its items are. -/
theorem SignatureItem.labels_outlinesAll : ∀ items : List SignatureItem,
    (SignatureItem.outlinesAll items).map (fun o => o.topic.label) =
      (SignatureItem.standingAll items).filterMap SignatureItem.expanded?
  | [] => rfl
  | item :: items => by
    rw [SignatureItem.outlinesAll, SignatureItem.standingAll, List.map_append,
      List.filterMap_append, SignatureItem.labels_outlines item,
      SignatureItem.labels_outlinesAll items]

@[inherit_doc SignatureItem.labels_outlinesAll]
theorem SignatureItem.labels_outlines : ∀ item : SignatureItem,
    item.outlines.map (fun o => o.topic.label) = item.standing.filterMap SignatureItem.expanded?
  | .module _ id doc decl expansion => by
    rw [SignatureItem.outlines, ModuleExpansion.labels_outlines]
    cases expansion <;> rfl
  | .moduleType id doc expr expansion => by
    rw [SignatureItem.outlines, ModuleExpansion.labels_outlines]
    cases expansion <;> rfl
  | .class _ c => by
    rw [SignatureItem.outlines, ClassSignature.labels_outlines]
    cases h : c.expansion <;> simp [SignatureItem.standing, SignatureItem.expanded?, h]
  | .classType _ c => by
    rw [SignatureItem.outlines, ClassSignature.labels_outlines]
    cases h : c.expansion <;> simp [SignatureItem.standing, SignatureItem.expanded?, h]
  | .include _ _ _ expansion => SignatureItem.labels_outlinesAll expansion
  | .moduleSubstitution .. | .type .. | .typeSubstitution .. | .extension .. | .exception ..
  | .value .. | .external .. | .comment .. => rfl

end

/-- A parameter is called by its position and its name, and positions increase. -/
theorem FunctorParameter.label_of_mem_outlinesAll {o : Outline} :
    ∀ {parameters : List FunctorParameter} {position : Nat},
      o ∈ FunctorParameter.outlinesAll position parameters →
      ∃ i, position ≤ i ∧ o.topic.label = (.argument, parameterPageName i o.topic.id)
  | .unit :: parameters, position, h => by
    rw [FunctorParameter.outlinesAll] at h
    obtain ⟨i, hle, hlabel⟩ := FunctorParameter.label_of_mem_outlinesAll h
    exact ⟨i, by omega, hlabel⟩
  | .named id type expansion :: parameters, position, h => by
    rcases List.mem_append.mp h with h | h
    · obtain ⟨-, subject, htopic⟩ := ModuleExpansion.topic_of_mem_outlines h
      exact ⟨position, Nat.le_refl _, by rw [htopic]; rfl⟩
    · obtain ⟨i, hle, hlabel⟩ := FunctorParameter.label_of_mem_outlinesAll h
      exact ⟨i, by omega, hlabel⟩

theorem FunctorParameter.nodup_labels :
    ∀ (parameters : List FunctorParameter) (position : Nat),
      ((FunctorParameter.outlinesAll position parameters).map fun o => o.topic.label).Nodup
  | [], _ => List.nodup_nil
  | .unit :: parameters, position => FunctorParameter.nodup_labels parameters (position + 1)
  | .named id type expansion :: parameters, position => by
    rw [FunctorParameter.outlinesAll, List.map_append, ModuleExpansion.labels_outlines]
    refine List.nodup_append'.mpr
      ⟨?_, FunctorParameter.nodup_labels parameters (position + 1), fun label hfirst hrest => ?_⟩
    · cases expansion <;> simp
    · obtain ⟨o, ho, rfl⟩ := List.mem_map.mp hrest
      obtain ⟨i, hle, hlabel⟩ := FunctorParameter.label_of_mem_outlinesAll ho
      have heq : o.topic.label = (.argument, parameterPageName position id) := by
        cases expansion with
        | none => cases hfirst
        | some expansion => exact List.mem_singleton.mp hfirst
      have hposition := (numbered_inj (Prod.mk.inj (hlabel.symm.trans heq)).2).1
      omega

/-- The page of an item has the name of the item. -/
theorem SignatureItem.name_of_mem_outlinesAll {o : Outline} {items : List SignatureItem}
    (h : o ∈ SignatureItem.outlinesAll items) :
    o.topic.name = o.topic.id.name ∧ o.topic.kind ∈ [.module, .moduleType, .class, .classType] := by
  rw [SignatureItem.outlinesAll_eq_flatMap] at h
  obtain ⟨item, hitem, h⟩ := List.mem_flatMap.mp h
  cases item with
  | module | moduleType =>
    obtain ⟨-, subject, htopic⟩ := ModuleExpansion.topic_of_mem_outlines h
    simp [htopic]
  | «class» | classType =>
    obtain ⟨-, subject, htopic⟩ := ClassSignature.topic_of_mem_outlines h
    simp [htopic]
  | «include» parent doc decl expansion =>
    exact absurd rfl (SignatureItem.ne_include_of_standingAll hitem parent doc decl expansion)
  | moduleSubstitution | type | typeSubstitution | extension | exception | value | external
  | comment => simp [SignatureItem.outlines] at h

/-- A page below another is that of an item or that of an argument. -/
theorem Subject.name_of_mem_outlines {o : Outline} {subject : Subject} (h : o ∈ subject.outlines) :
    (o.topic.name = o.topic.id.name ∧
        o.topic.kind ∈ [.module, .moduleType, .class, .classType]) ∨
      ∃ i, o.topic.label = (.argument, parameterPageName i o.topic.id) := by
  cases subject with
  | signature items => exact .inl (SignatureItem.name_of_mem_outlinesAll h)
  | functor parameters result =>
    rcases List.mem_append.mp h with h | h
    · obtain ⟨i, -, hlabel⟩ := FunctorParameter.label_of_mem_outlinesAll h
      exact .inr ⟨i, hlabel⟩
    · exact .inl (SignatureItem.name_of_mem_outlinesAll h)
  | members | pack | text => cases h

theorem Subject.nodup_labels {subject : Subject}
    (h : ((SignatureItem.standingAll subject.items).filterMap SignatureItem.expanded?).Nodup) :
    (subject.outlines.map fun o => o.topic.label).Nodup := by
  rw [← SignatureItem.labels_outlinesAll] at h
  cases subject with
  | signature items => exact h
  | functor parameters result =>
    rw [Subject.outlines, List.map_append]
    refine List.nodup_append'.mpr ⟨FunctorParameter.nodup_labels parameters 1, h, ?_⟩
    -- no item is an argument
    intro label hargument hitem
    obtain ⟨o, ho, rfl⟩ := List.mem_map.mp hargument
    obtain ⟨o', ho', heq⟩ := List.mem_map.mp hitem
    obtain ⟨i, -, hlabel⟩ := FunctorParameter.label_of_mem_outlinesAll ho
    obtain ⟨-, hkind⟩ := SignatureItem.name_of_mem_outlinesAll ho'
    rw [(Prod.mk.inj (heq.trans hlabel)).1] at hkind
    simp at hkind
  | members | pack | text => exact List.nodup_nil

/-- The kind and the name of an item's page are fit to be read off its segment. -/
theorem Subject.names_of_mem_outlines {o : Outline} {subject : Subject} (h : o ∈ subject.outlines)
    (hdash : '-' ∉ o.topic.id.name.toList) : o.topic.kind.Names o.topic.name := by
  rcases Subject.name_of_mem_outlines h with ⟨hname, hkind⟩ | ⟨i, hlabel⟩
  · rw [hname]
    generalize o.topic.kind = kind at hkind ⊢
    cases kind with
    | «module» | moduleType | «class» | classType => exact hdash
    | package | unit | page | argument => simp at hkind
  · obtain ⟨hkind, hname⟩ := Prod.mk.inj hlabel
    rw [hkind, hname]
    exact ⟨i, _, rfl, hdash⟩

theorem Subject.slash_notMem_segment {o : Outline} {subject : Subject} (h : o ∈ subject.outlines)
    (hslash : '/' ∉ o.topic.id.name.toList) : '/' ∉ o.topic.segment.toList := by
  have hname : '/' ∉ o.topic.name.toList := by
    rcases Subject.name_of_mem_outlines h with ⟨hname, -⟩ | ⟨i, hlabel⟩
    · rw [hname]
      exact hslash
    · rw [(Prod.mk.inj hlabel).2, parameterPageName, String.toList_append, String.toList_append,
        List.mem_append, List.mem_append]
      rintro ((hdigits | hdash) | hname)
      · exact notMem_toString (by decide) i hdigits
      · simp at hdash
      · exact hslash hname
  rw [Topic.segment, PageKind.segment_eq_lead, String.toList_append, List.mem_append]
  rintro (hlead | hmem)
  · generalize o.topic.kind = kind at hlead
    cases kind <;> simp [PageKind.lead] at hlead
  · exact hname hmem

namespace Root

variable {r : Root}

/-- Whatever has a page below the root is called for by the subject of another page. -/
theorem exists_subject_of_mem {o : Outline} (h : o ∈ Outline.nodesAll r.outline.children) :
    ∃ n ∈ r.outline.nodes, o ∈ n.topic.subject.outlines := by
  obtain ⟨n, hn, ho⟩ := Outline.mem_nodesAll_children.mp h
  rw [r.grown_outline n hn] at ho
  exact ⟨n, hn, ho⟩

theorem NamedApart.names_of_mem (h : r.NamedApart) {o : Outline}
    (ho : o ∈ Outline.nodesAll r.outline.children) : o.topic.kind.Names o.topic.name := by
  obtain ⟨n, -, hmem⟩ := exists_subject_of_mem ho
  exact Subject.names_of_mem_outlines hmem (h.names o ho).1

theorem NamedApart.slash_notMem_segment (h : r.NamedApart) {o : Outline}
    (ho : o ∈ Outline.nodesAll r.outline.children) : '/' ∉ o.topic.segment.toList := by
  obtain ⟨n, -, hmem⟩ := exists_subject_of_mem ho
  exact Subject.slash_notMem_segment hmem (h.names o ho).2

/-- If the items of a root are named apart, then so are the pages below each page. -/
theorem NamedApart.apart (h : r.NamedApart) : r.outline.Apart := by
  intro n hn
  have hbelow : ∀ o ∈ n.children, o.topic.kind.Names o.topic.name := fun o ho =>
    h.names_of_mem (Outline.mem_nodesAll_children.mpr ⟨n, hn, ho⟩)
  have hlabels := Subject.nodup_labels (h.items n hn)
  rw [← r.grown_outline n hn] at hlabels
  refine List.pairwise_map.mpr ((List.pairwise_map.mp hlabels).imp_of_mem ?_)
  intro o o' ho ho' hne hsegment
  obtain ⟨hkind, hname⟩ := PageKind.segment_inj (hbelow o ho) (hbelow o' ho') hsegment
  exact hne (Prod.ext hkind hname)

end Root

/-! ## Files of a root -/

namespace Root

variable {cfg : Settings} {r : Root} {out : Rendered} {p q : Page}

theorem segment_outline (r : Root) : r.outline.topic.segment = r.id.name := by
  cases r <;> rfl

theorem paths_pages (h : r.render cfg = .ok out) :
    out.page.pages.map Page.path = r.outline.paths [cfg.packages.packageOf r.id] :=
  (render_eq_ok h).1.paths

/-- Every page of a root lies below the package and the root. -/
theorem exists_path_of_mem (h : r.render cfg = .ok out) (hp : p ∈ out.page.pages) :
    ∃ below, p.path = cfg.packages.packageOf r.id :: r.id.name :: below ∧
      ∀ s ∈ below, ∃ n ∈ Outline.nodesAll r.outline.children, n.topic.segment = s := by
  have hmem : p.path ∈ r.outline.paths [cfg.packages.packageOf r.id] :=
    paths_pages h ▸ List.mem_map_of_mem hp
  obtain ⟨below, hpath, hbelow⟩ := Outline.exists_of_mem_paths hmem
  rw [segment_outline] at hpath
  exact ⟨below, hpath, hbelow⟩

/-- So does its file. -/
theorem exists_file_of_mem (h : r.render cfg = .ok out) (hp : p ∈ out.page.pages) :
    ∃ below, p.path = cfg.packages.packageOf r.id :: r.id.name :: below ∧
      p.file = cfg.packages.packageOf r.id ++ "/" ++ r.id.name ++ "/" ++
        "/".intercalate (below ++ ["index.html"]) ∧
      ∀ s ∈ below, ∃ n ∈ Outline.nodesAll r.outline.children, n.topic.segment = s := by
  obtain ⟨below, hpath, hbelow⟩ := exists_path_of_mem h hp
  refine ⟨below, hpath, ?_, hbelow⟩
  have hne : below ++ ["index.html"] ≠ [] := by simp
  calc p.file
      = "/".intercalate (p.path ++ ["index.html"]) := by
        rw [hpath, String.intercalate_append_of_ne_nil (by simp) (by simp), Page.file, hpath,
          String.append_assoc]
        rfl
    _ = cfg.packages.packageOf r.id ++ "/" ++ (r.id.name ++ "/" ++
          "/".intercalate (below ++ ["index.html"])) := by
        rw [hpath, List.cons_append, List.cons_append, String.intercalate_cons_cons,
          String.intercalate_cons_of_ne_nil hne]
    _ = _ := by simp only [String.append_assoc]

/-- The segments of a page are read back from the text below the root. -/
theorem NamedApart.pieces_below (hn : r.NamedApart) {below : List String}
    (hbelow : ∀ s ∈ below, ∃ n ∈ Outline.nodesAll r.outline.children, n.topic.segment = s) :
    FilePath.pieces ⟨"/".intercalate (below ++ ["index.html"])⟩ = below ++ ["index.html"] := by
  refine FilePath.pieces_intercalate_of_slash_notMem (by simp) fun s hs => ?_
  rcases List.mem_append.mp hs with hs | hs
  · obtain ⟨n, hmem, rfl⟩ := hbelow s hs
    exact hn.slash_notMem_segment hmem
  · rw [List.mem_singleton.mp hs]
    decide

theorem NamedApart.pieces_file (hn : r.NamedApart) (h : r.render cfg = .ok out)
    (hp : p ∈ out.page.pages) :
    ∃ below, p.path = cfg.packages.packageOf r.id :: r.id.name :: below ∧
      FilePath.pieces ⟨p.file⟩ =
        FilePath.pieces ⟨cfg.packages.packageOf r.id ++ "/" ++ r.id.name⟩ ++
          (below ++ ["index.html"]) := by
  obtain ⟨below, hpath, hfile, hbelow⟩ := exists_file_of_mem h hp
  exact ⟨below, hpath, by rw [hfile, FilePath.pieces_append_slash, hn.pieces_below hbelow]⟩

theorem NamedApart.nodup_files (hn : r.NamedApart) (h : r.render cfg = .ok out) :
    (out.page.pages.map Page.file).Nodup := by
  have hpaths : (out.page.pages.map Page.path).Nodup := paths_pages h ▸ hn.apart.nodup_paths
  refine List.pairwise_map.mpr ((List.pairwise_map.mp hpaths).imp_of_mem ?_)
  intro p q hp hq hne hfile
  obtain ⟨below, hpath, hpieces⟩ := hn.pieces_file h hp
  obtain ⟨below', hpath', hpieces'⟩ := hn.pieces_file h hq
  rw [hfile, hpieces'] at hpieces
  have hbelow : below' = below := List.append_cancel_right (List.append_cancel_left hpieces)
  exact hne (by rw [hpath, hpath', hbelow])

end Root

/-! ## Files of two roots -/

/-- Neither the root nor the start of its chain has a slash in its name. -/
def Root.Slashless (r : Root) : Prop :=
  '/' ∉ r.id.name.toList ∧ '/' ∉ r.id.outermost.name.toList

/-- The package of a root has no slash in its name, if that is so for the packages of the table. -/
theorem Root.Slashless.slash_notMem_package {r : Root} (hr : r.Slashless) {packages : Packages}
    (h : ∀ e ∈ packages.entries, '/' ∉ e.2.toList) : '/' ∉ (packages.packageOf r.id).toList := by
  rw [Packages.packageOf, Packages.find?]
  cases hfind : packages.entries.lookup (r.id.root?.getD r.id).name with
  | some package =>
    obtain ⟨before, after, hentries, -⟩ := List.lookup_eq_some_iff.mp hfind
    have hmem : ((r.id.root?.getD r.id).name, package) ∈ packages.entries := by simp [hentries]
    rw [Option.getD_some]
    exact h _ hmem
  | none =>
    rw [Option.getD_none, Identifier.root?]
    split
    · exact hr.2
    · exact hr.1

/-- A root that starts its own chain is looked up by its own name, of whatever kind it is. -/
theorem Packages.packageOf_of_parent?_eq_none (packages : Packages) {id : Identifier}
    (h : id.parent? = none) : packages.packageOf id = (packages.find? id.name).getD id.name := by
  cases id with
  | top kind name =>
    rw [Packages.packageOf, Identifier.root?]
    split <;> rfl
  | child parent kind name => cases h

/-- The first two pieces of a file are the package and the root. -/
theorem Root.Slashless.exists_pieces_file {cfg : Settings} {r : Root} {out : Root.Rendered}
    {p : Page} (hr : r.Slashless) (htable : ∀ e ∈ cfg.packages.entries, '/' ∉ e.2.toList)
    (h : r.render cfg = .ok out) (hp : p ∈ out.page.pages) :
    ∃ rest, FilePath.pieces ⟨p.file⟩ = cfg.packages.packageOf r.id :: r.id.name :: rest := by
  obtain ⟨below, -, hfile, -⟩ := Root.exists_file_of_mem h hp
  rw [hfile, FilePath.pieces_append_slash, FilePath.pieces_append_slash,
    FilePath.pieces_of_slash_notMem (hr.slash_notMem_package htable),
    FilePath.pieces_of_slash_notMem hr.1]
  exact ⟨_, rfl⟩

theorem Root.file_page {cfg : Settings} {r : Root} {out : Root.Rendered}
    (h : r.render cfg = .ok out) :
    out.page.file = cfg.packages.packageOf r.id ++ "/" ++ r.id.name ++ "/index.html" := by
  have hpath : out.page.path = [cfg.packages.packageOf r.id] ++ [r.outline.topic.segment] :=
    (Root.render_eq_ok h).1.path
  rw [Page.file, hpath, Root.segment_outline]
  rfl

/-- **Roots meet exactly if they share their package and their name.**  Then already their own pages
have one file.  Otherwise no page of one has the file of a page of the other.  The kind of a root
plays no part in this: of two roots that start their chains, only the names matter. -/
theorem Root.files_disjoint_iff {cfg : Settings} {r r' : Root} {out out' : Root.Rendered}
    (h : r.render cfg = .ok out) (h' : r'.render cfg = .ok out')
    (htable : ∀ e ∈ cfg.packages.entries, '/' ∉ e.2.toList)
    (hr : r.Slashless) (hr' : r'.Slashless) :
    ((∀ p ∈ out.page.pages, ∀ q ∈ out'.page.pages, p.file ≠ q.file) ↔
        (cfg.packages.packageOf r.id, r.id.name) ≠ (cfg.packages.packageOf r'.id, r'.id.name)) ∧
      (r.id.parent? = none → r'.id.parent? = none →
        ((∀ p ∈ out.page.pages, ∀ q ∈ out'.page.pages, p.file ≠ q.file) ↔
          r.id.name ≠ r'.id.name)) := by
  have hmeet : (∀ p ∈ out.page.pages, ∀ q ∈ out'.page.pages, p.file ≠ q.file) ↔
      (cfg.packages.packageOf r.id, r.id.name) ≠ (cfg.packages.packageOf r'.id, r'.id.name) := by
    constructor
    · intro hdisjoint heq
      obtain ⟨hpackage, hname⟩ := Prod.mk.inj heq
      refine hdisjoint _ out.page.mem_pages_self _ out'.page.mem_pages_self ?_
      rw [Root.file_page h, Root.file_page h', hpackage, hname]
    · intro hne p hp q hq hfile
      obtain ⟨rest, hpieces⟩ := hr.exists_pieces_file htable h hp
      obtain ⟨rest', hpieces'⟩ := hr'.exists_pieces_file htable h' hq
      rw [hfile, hpieces'] at hpieces
      obtain ⟨hpackage, htail⟩ := List.cons.inj hpieces
      exact hne (Prod.ext hpackage.symm (List.cons.inj htail).1.symm)
  refine ⟨hmeet, fun htop htop' => hmeet.trans (not_congr ?_)⟩
  rw [Prod.mk.injEq, cfg.packages.packageOf_of_parent?_eq_none htop,
    cfg.packages.packageOf_of_parent?_eq_none htop']
  refine ⟨fun heq => heq.2, fun hname => ⟨?_, hname⟩⟩
  rw [hname]

/-- A unit with nothing in it but a module. -/
def sampleOuter (name inner : String) : Root :=
  let root := Identifier.top .root name
  .unit ⟨root, [], .module [.module .ordinary (root.child .module inner) []
    (.moduleType (.signature [])) (some .asDeclared)]⟩

theorem Root.exists_render_of_isSome {cfg : Settings} {r : Root}
    (h : (r.render cfg).toOption.isSome) : ∃ out, r.render cfg = .ok out := by
  cases hrender : r.render cfg with
  | error e =>
    rw [hrender] at h
    cases h
  | ok out => exact ⟨out, rfl⟩

/-- Two units of one package, each with a module that is called like the other unit. -/
theorem files_disjoint_sampleOuter :
    let cfg : Settings := { packages := .ofList [("A", "P"), ("B", "P")] }
    ∃ out out', (sampleOuter "A" "B").render cfg = .ok out ∧
      (sampleOuter "B" "A").render cfg = .ok out' ∧
      (∀ e ∈ cfg.packages.entries, '/' ∉ e.2.toList) ∧
      (sampleOuter "A" "B").Slashless ∧ (sampleOuter "B" "A").Slashless ∧
      ∀ p ∈ out.page.pages, ∀ q ∈ out'.page.pages, p.file ≠ q.file := by
  intro cfg
  have htable : ∀ e ∈ cfg.packages.entries, '/' ∉ e.2.toList := by decide
  have hr : (sampleOuter "A" "B").Slashless := ⟨by decide, by decide⟩
  have hr' : (sampleOuter "B" "A").Slashless := ⟨by decide, by decide⟩
  obtain ⟨out, hout⟩ : ∃ out, (sampleOuter "A" "B").render cfg = .ok out :=
    Root.exists_render_of_isSome (by decide)
  obtain ⟨out', hout'⟩ : ∃ out, (sampleOuter "B" "A").render cfg = .ok out :=
    Root.exists_render_of_isSome (by decide)
  obtain ⟨-, hnames⟩ := Root.files_disjoint_iff hout hout' htable hr hr'
  exact ⟨out, out', hout, hout', htable, hr, hr', (hnames rfl rfl).mpr (by decide)⟩

/-- A unit and a page of documentation can both be called `A`.  They are kept apart by their kinds,
and still they have one file. -/
theorem file_eq_of_unit_of_page :
    let unit := Root.unit ⟨.top .root "A", [], .module []⟩
    let page := Root.page ⟨.top .page "A", [.paragraph [.text "About."]]⟩
    unit.check = .ok unit ∧ page.check = .ok page ∧ unit.id.kind ≠ page.id.kind ∧
      unit.Slashless ∧ page.Slashless ∧
      ∃ out out', unit.render {} = .ok out ∧ page.render {} = .ok out' ∧
        out.page.title ≠ out'.page.title ∧ out.page.file = out'.page.file := by
  intro unit page
  refine ⟨rfl, rfl, by decide, ⟨by decide, by decide⟩, ⟨by decide, by decide⟩, _, _, rfl, rfl, ?_,
    rfl⟩
  decide

end DocSite
