import DocSite.Proofs.PageFiles
import DocSite.Proofs.PageStorage

/-!
# Stored pages

Different files need not be different places.  A segment is used as the name of a directory, and a
directory cannot have every name: `""` and `"."` lead nowhere, and `".."` leads back.  The page of a
module with such a name is stored where the page above it is, or one step further up, and if there
is a page already then it is replaced.

These names apart, a page lies where its segments say, below a place that all pages of a root share.
So no page is stored at the place of another.  One more name can get in the way without replacing
anything: a module called `index.html` needs a directory where the page above it has its file.
Apart from that, pages that can be stored alone can be stored together.
-/

namespace DocSite

namespace Root

variable {cfg : Settings} {r : Root} {out : Rendered} {p q : Page} {names : List String}

/-- No module with a page below the root has one of the given names. -/
def ModulesAvoid (r : Root) (names : List String) : Prop :=
  ∀ o ∈ Outline.nodesAll r.outline.children, o.topic.kind = .module → o.topic.id.name ∉ names

/-- A name without dashes can only be the segment of a module. -/
theorem NamedApart.segment_notMem (hn : r.NamedApart) (h : r.ModulesAvoid names)
    (hdash : ∀ s ∈ names, '-' ∉ s.toList) {o : Outline}
    (ho : o ∈ Outline.nodesAll r.outline.children) : o.topic.segment ∉ names := by
  intro hmem
  have hnames := hn.names_of_mem ho
  have hcount : o.topic.kind.dashes = 0 := by
    rw [← PageKind.count_segment hnames]
    exact List.count_eq_zero_of_not_mem (hdash _ hmem)
  have hkind : o.topic.kind = .module := by
    generalize o.topic.kind = kind at hcount hnames
    cases kind with
    | «module» => rfl
    | moduleType | «class» | classType | argument => cases hcount
    | package | unit | page => exact hnames.elim
  obtain ⟨n, -, hsubject⟩ := exists_subject_of_mem ho
  rcases Subject.name_of_mem_outlines hsubject with ⟨hname, -⟩ | ⟨i, hlabel⟩
  · rw [Topic.segment, hkind, hname] at hmem
    exact h o ho hkind hmem
  · rw [(Prod.mk.inj hlabel).1] at hkind
    cases hkind

/-- **Where pages are stored.**  The files of all pages start with the same way, and from its end
they go down by the segments of their pages. -/
theorem NamedApart.exists_places (hn : r.NamedApart) (h : r.render cfg = .ok out)
    (havoid : r.ModulesAvoid FileTree.wayless) (t : FileTree) (output : FilePath) :
    ∃ (front : List Place) (base : Place), ∀ p ∈ out.page.pages, ∃ below,
      p.path = cfg.packages.packageOf r.id :: r.id.name :: below ∧
      (∀ s ∈ below, ∃ n ∈ Outline.nodesAll r.outline.children, n.topic.segment = s) ∧
      (∀ s ∈ below, s ∉ FileTree.wayless) ∧
      t.way (output.join p.file) = front ++ FileTree.steps base below ∧
      t.target (output.join p.file) = base ++ below.map .text ++ [.text "index.html"] := by
  obtain ⟨start, hstart⟩ :=
    output.exists_join_append_slash (cfg.packages.packageOf r.id ++ "/" ++ r.id.name)
  let pieces := FilePath.pieces ⟨start⟩
  let origin := t.origin ⟨start ++ "/"⟩
  refine ⟨FileTree.steps origin pieces, pieces.foldl FileTree.step origin, fun p hp => ?_⟩
  obtain ⟨below, hpath, hfile, hbelow⟩ := exists_file_of_mem h hp
  have hwayless : ∀ s ∈ below, s ∉ FileTree.wayless := by
    intro s hs
    obtain ⟨n, hmem, rfl⟩ := hbelow s hs
    exact hn.segment_notMem havoid (by decide) hmem
  have hpieces : (output.join p.file).pieces = pieces ++ below ++ ["index.html"] := by
    rw [hfile, hstart, FilePath.pieces_append_slash, hn.pieces_below hbelow, List.append_assoc]
  have horigin : t.origin (output.join p.file) = origin := by
    rw [hfile, hstart, FileTree.origin, FilePath.isAbsolute_append_slash]
    rfl
  refine ⟨below, hpath, hbelow, hwayless, ?_, ?_⟩
  · rw [FileTree.way, hpieces, horigin, List.dropLast_concat, FileTree.steps_append]
  · rw [FileTree.target, hpieces, horigin, List.foldl_append, List.foldl_append,
      FileTree.foldl_step_of_notMem hwayless, List.foldl_cons, List.foldl_nil,
      FileTree.step_of_notMem (by decide)]

/-- The stylesheet has a name of its own. -/
theorem exists_target_stylesheet (t : FileTree) (output : FilePath) :
    ∃ place, t.target (output.join Stylesheet.fileName) = place ++ [.text Stylesheet.fileName] := by
  have hslash : '/' ∉ Stylesheet.fileName.toList := by decide
  obtain ⟨pieces, hpieces⟩ := output.exists_pieces_join hslash
  refine ⟨pieces.foldl FileTree.step (t.origin (output.join Stylesheet.fileName)), ?_⟩
  rw [FileTree.target, hpieces, List.foldl_append, List.foldl_cons, List.foldl_nil,
    FileTree.step_of_notMem (by decide)]

theorem NamedApart.nodup_targets (hn : r.NamedApart) (h : r.render cfg = .ok out)
    (havoid : r.ModulesAvoid FileTree.wayless) (t : FileTree) (output : FilePath) :
    ((out.page.siteFiles output).map fun f => t.target f.1).Nodup := by
  obtain ⟨front, base, hplaces⟩ := hn.exists_places h havoid t output
  have htargets : (out.page.siteFiles output).map (fun f => t.target f.1) =
      t.target (output.join Stylesheet.fileName) ::
        out.page.pages.map fun p => t.target (output.join p.file) := by
    rw [Page.siteFiles, List.map_cons, List.map_map]
    rfl
  rw [htargets, List.nodup_cons]
  refine ⟨fun hmem => ?_, ?_⟩
  · obtain ⟨p, hp, heq⟩ := List.mem_map.mp hmem
    obtain ⟨below, -, -, -, -, htarget⟩ := hplaces p hp
    obtain ⟨place, hstylesheet⟩ := exists_target_stylesheet t output
    have hlast := (List.append_inj' (htarget.symm.trans (heq.trans hstylesheet)) rfl).2
    simp [Stylesheet.fileName] at hlast
  · have hpaths : (out.page.pages.map Page.path).Nodup := paths_pages h ▸ hn.apart.nodup_paths
    rw [List.Nodup, List.pairwise_map] at hpaths ⊢
    refine hpaths.imp_of_mem fun {p q} hp hq hne heq => ?_
    obtain ⟨below, hpath, -, -, -, htarget⟩ := hplaces p hp
    obtain ⟨below', hpath', -, -, -, htarget'⟩ := hplaces q hq
    have hsame := List.append_cancel_right (htarget.symm.trans (heq.trans htarget'))
    have hbelow : below = below' :=
      List.map_injective_iff.mpr (fun _ _ h => FileName.text.inj h) (List.append_cancel_left hsame)
    exact hne (by rw [hpath, hpath', hbelow])

/-- No page is on the way to another, unless a module is called like the file of a page. -/
theorem NamedApart.target_notMem_way (hn : r.NamedApart) (h : r.render cfg = .ok out)
    (havoid : r.ModulesAvoid FileTree.wayless) (hindex : r.ModulesAvoid ["index.html"])
    {t : FileTree} {output : FilePath} (hp : p ∈ out.page.pages) (hq : q ∈ out.page.pages)
    (hstorable : t.Storable (output.join p.file)) :
    t.target (output.join p.file) ∉ t.way (output.join q.file) := by
  obtain ⟨front, base, hplaces⟩ := hn.exists_places h havoid t output
  obtain ⟨below, -, -, -, hway, htarget⟩ := hplaces p hp
  obtain ⟨below', -, hsegments, hwayless, hway', -⟩ := hplaces q hq
  rw [hway']
  intro hmem
  rcases List.mem_append.mp hmem with hmem | hmem
  · -- then it is on the way to itself
    refine hstorable.target_notMem ?_
    rw [hway]
    exact List.mem_append_left _ hmem
  · obtain ⟨row, heq, hrow⟩ := FileTree.exists_of_mem_steps hwayless hmem
    rw [htarget, List.append_assoc] at heq
    have hlast : FileName.text "index.html" ∈ row.map .text :=
      List.append_cancel_left heq ▸ by simp
    obtain ⟨name, hname, htext⟩ := List.mem_map.mp hlast
    obtain rfl := FileName.text.inj htext
    obtain ⟨n, hn', hsegment⟩ := hsegments _ (hrow _ hname)
    exact hn.segment_notMem hindex (by decide) hn' (by simp [hsegment])

end Root

/-! ## Storing the pages of a root -/

mutual

theorem Page.length_pages : ∀ p : Page, p.pages.length = p.count
  | ⟨name, kind, path, title, header, toc, body, children⟩ => by
    rw [Page.pages, Page.count, List.length_cons, Page.length_pagesAll children, Nat.add_comm]

theorem Page.length_pagesAll : ∀ ps : List Page, (Page.pagesAll ps).length = Page.countAll ps
  | [] => rfl
  | p :: ps => by
    rw [Page.pagesAll, Page.countAll, List.length_append, Page.length_pages p,
      Page.length_pagesAll ps]

end

/-- **No page of a root replaces another.**  All pages of the root have different files.  Where no
module is called `""`, `"."` or `".."`, they have different places too, whatever is stored already
and wherever the site goes: every file that is stored is there in the end, and if all went well
these are the stylesheet and one file for each page, of which there are as many as were counted.
Nothing goes wrong if the directory and the stylesheet can be stored and then each page alone, as
long as no module is called `"index.html"`. -/
theorem Root.stored_pages_intact {cfg : Settings} {r : Root} {out : Root.Rendered}
    (h : r.render cfg = .ok out) (hn : r.NamedApart) :
    (out.page.pages.map Page.file).Nodup ∧
      (r.ModulesAvoid FileTree.wayless → ∀ (t : FileTree) (output : FilePath),
        (out.page.store t output).tree.Intact (out.page.store t output).written ∧
        (∀ n, (out.page.store t output).count = some n →
          n = out.page.count ∧ (out.page.store t output).written = out.page.siteFiles output ∧
            (out.page.siteFiles output).length = out.page.count + 1) ∧
        (r.ModulesAvoid ["index.html"] → ∀ t₀ t₁, t.ensureDirectory output = (t₀, true) →
          t₀.store (output.join Stylesheet.fileName) (.text Stylesheet.text) = (t₁, true) →
          (∀ p ∈ out.page.pages, (t₁.store (output.join p.file) (.text p.document)).2 = true) →
          (out.page.store t output).count = some out.page.count)) := by
  refine ⟨hn.nodup_files h, fun havoid t output => ⟨?_, fun n hcount => ?_, ?_⟩⟩
  · obtain ⟨t', -, heq | heq⟩ := out.page.exists_store t output
    · rw [heq]
      exact ⟨[], List.nodup_nil, .nil⟩
    · rw [heq, FileTree.Stored.tree_counted, FileTree.Stored.written_counted]
      exact FileTree.intact_storeAll (hn.nodup_targets h havoid t' output)
  · obtain ⟨hpages, hwritten⟩ := Page.of_count_store hcount
    refine ⟨hpages, hwritten, ?_⟩
    rw [Page.siteFiles, List.length_cons, List.length_map, Page.length_pages]
  · intro hindex t₀ t₁ hdirectory hstylesheet hpages
    have hstorable : ∀ p ∈ out.page.pages, t₁.Storable (output.join p.file) := fun p hp =>
      .of_store (hpages p hp)
    rw [Page.store_of_directory hdirectory, FileTree.Stored.count_counted_eq_some_iff,
      Page.siteFiles, FileTree.storeAll_cons_of_true (f := Page.stylesheetFile output) hstylesheet]
    refine ⟨FileTree.complete_storeAll (fun f hf => ?_) fun f hf g hg => ?_, rfl⟩
    · obtain ⟨p, hp, rfl⟩ := List.mem_map.mp hf
      exact hstorable p hp
    · obtain ⟨p, hp, rfl⟩ := List.mem_map.mp hf
      obtain ⟨q, hq, rfl⟩ := List.mem_map.mp hg
      exact hn.target_notMem_way h havoid hindex hp hq (hstorable p hp)

/-- A unit in which all that can have the name `X` has it: two modules one inside the other, module
types beside them, a class and a class type in an include, and both arguments of a functor as well
as two items of its result. -/
def sampleShared : Root :=
  let lib := Identifier.top .root "L"
  let make := lib.child .module "F"
  let asModule (parent : Identifier) (items : List SignatureItem) : SignatureItem :=
    .module .ordinary (parent.child .module "X") [] (.alias (.root "Other"))
      (some (.signature items))
  let asModuleType (parent : Identifier) : SignatureItem :=
    .moduleType (parent.child .moduleType "X") [] (some (.signature [])) (some .asDeclared)
  .unit ⟨lib, [], .module [
    asModule lib [asModule (lib.child .module "X") [], asModuleType (lib.child .module "X")],
    asModuleType lib,
    .include lib [] (.alias (.root "Other")) [
      .class .ordinary ⟨lib.child .class "X", [], false, [], .classType (.signature none []),
        some ⟨none, []⟩⟩,
      .classType .ordinary ⟨lib.child .classType "X", [], false, [], .signature none [],
        some ⟨none, []⟩⟩],
    .module .ordinary make [] (.alias (.root "Other"))
      (some (.functor
        [.named (make.child (.argument 1) "X") (.signature []) (some .asDeclared),
          .named (make.child (.argument 2) "X") (.signature []) (some .asDeclared)]
        [asModule make [], asModuleType make]))]⟩

/-- The tree with nothing in it but the directory that a site is stored in, and its stylesheet. -/
def sampleTree : FileTree :=
  ⟨[], [(["out"], .directory), (["out", "odoc.css"], .file (.text Stylesheet.text))]⟩

theorem stored_pages_sampleShared :
    ∃ out, sampleShared.render {} = .ok out ∧ sampleShared.NamedApart ∧ out.page.count = 12 ∧
      (out.page.pages.map Page.file).Nodup ∧
      (out.page.store ⟨[], []⟩ ⟨"out"⟩).count = some 12 ∧
      (out.page.store ⟨[], []⟩ ⟨"out"⟩).written.length = 13 ∧
      (out.page.store ⟨[], []⟩ ⟨"out"⟩).tree.Intact (out.page.store ⟨[], []⟩ ⟨"out"⟩).written := by
  obtain ⟨out, hout⟩ : ∃ out, sampleShared.render {} = .ok out := ⟨_, rfl⟩
  have hn : sampleShared.NamedApart := ⟨by decide, by decide⟩
  have hwayless : sampleShared.ModulesAvoid FileTree.wayless := by
    rw [Root.ModulesAvoid]
    decide
  have hindex : sampleShared.ModulesAvoid ["index.html"] := by
    rw [Root.ModulesAvoid]
    decide
  have hpages : (sampleShared.render {}).toOption.all (fun out => out.page.pages.all fun p =>
      (sampleTree.store (FilePath.join ⟨"out"⟩ p.file) (.text p.document)).2) = true := by
    decide +kernel
  rw [hout] at hpages
  have hcount : out.page.count = 12 := (Root.render_eq_ok hout).1.count.trans (by decide)
  obtain ⟨hfiles, hstored⟩ := Root.stored_pages_intact hout hn
  obtain ⟨hintact, hwritten, hsuccess⟩ := hstored hwayless ⟨[], []⟩ ⟨"out"⟩
  have hstored := hsuccess hindex _ sampleTree rfl rfl (List.all_eq_true.mp hpages)
  obtain ⟨-, heq, hlength⟩ := hwritten _ hstored
  exact ⟨out, hout, hn, hcount, hfiles, hstored.trans (congrArg some hcount),
    by rw [heq, hlength, hcount], hintact⟩

/-- A unit with a module inside another one, the inner one being called `"."`. -/
def sampleDot : Root :=
  let a := Identifier.top .root "A"
  let m := a.child .module "M"
  let item (id : Identifier) (items : List SignatureItem) : SignatureItem :=
    .module .ordinary id [] (.moduleType (.signature [])) (some (.signature items))
  .unit ⟨a, [], .module [item m [item (m.child .module ".") []]]⟩

/-- All three pages are stored, under different files, but not in different places. -/
theorem sampleDot_not_intact :
    ∃ out, sampleDot.render {} = .ok out ∧ sampleDot.NamedApart ∧ out.page.count = 3 ∧
      (out.page.pages.map Page.file).Nodup ∧
      (out.page.store ⟨[], []⟩ ⟨"out"⟩).count = some 3 ∧
      ¬ (out.page.store ⟨[], []⟩ ⟨"out"⟩).tree.Intact
        (out.page.store ⟨[], []⟩ ⟨"out"⟩).written := by
  obtain ⟨out, hout⟩ : ∃ out, sampleDot.render {} = .ok out := ⟨_, rfl⟩
  have hn : sampleDot.NamedApart := ⟨by decide, by decide⟩
  have hcount : out.page.count = 3 := (Root.render_eq_ok hout).1.count.trans (by decide)
  have hstored : (sampleDot.render {}).toOption.all (fun out =>
      let stored := out.page.store ⟨[], []⟩ ⟨"out"⟩
      stored.count = some 3 &&
        !decide (stored.written.map fun f => stored.tree.resolve f.1).Nodup) = true := by
    decide +kernel
  simp only [hout, Except.toOption, Option.all_some, Bool.and_eq_true, Bool.not_eq_true',
    decide_eq_false_iff_not, decide_eq_true_iff] at hstored
  obtain ⟨hpages, hplaces⟩ := hstored
  exact ⟨out, hout, hn, hcount, hn.nodup_files hout, hpages,
    fun hintact => hplaces hintact.nodup_resolve⟩

end DocSite
