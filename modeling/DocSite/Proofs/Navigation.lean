import DocSite.Proofs.Documents
import DocSite.Proofs.PageFiles
import DocSite.Proofs.RelativeLinks

/-!
# The way back up

On every page there is a link to each page above it, and one to the stylesheet.  The links are made
from the path of the page alone, by counting its segments, whereas the pages above are those of the
tree.  That the two agree is a fact about trees of pages: along every way down from the root, each
page has the path of the page before it and one segment more, `Page.Stacked`.

What the links mean is again decided by whoever follows them, from the file in which they stand.
`Href.fileFrom` follows a link from a file to a file.
-/

namespace DocSite

open Html

/-! ## Ways down -/

namespace Page

/-- A way down from a page: the pages above, outermost first, and the page at its end. -/
inductive Under (root : Page) : List Page → Page → Prop
  | root : Under root [] root
  | child {above : List Page} {p c : Page} : Under root above p → c ∈ p.children →
    Under root (above ++ [p]) c

/-- A way down can begin one page further up. -/
theorem Under.cons {root c p : Page} {above : List Page} (hc : c ∈ root.children)
    (h : Under c above p) : Under root (root :: above) p := by
  induction h with
  | root => exact .child .root hc
  | child _ hchild ih => exact .child ih hchild

theorem Under.mem_pages {root p : Page} {above : List Page} (h : Under root above p) :
    p ∈ root.pages := by
  have hsub : p.pages ⊆ root.pages := by
    induction h with
    | root => exact List.Subset.refl _
    | @child above p c _ hchild ih =>
      intro q hq
      refine ih ?_
      rw [pages_eq_cons]
      exact List.mem_cons_of_mem _ ((sublist_pagesAll hchild).subset hq)
  exact hsub p.mem_pages_self

mutual

/-- There is a way down to every page. -/
theorem exists_under_of_mem {p : Page} :
    ∀ {root : Page}, p ∈ root.pages → ∃ above, Under root above p
  | ⟨name, kind, path, title, header, toc, body, children⟩, h => by
    rcases List.mem_cons.mp h with rfl | h
    · exact ⟨[], .root⟩
    · obtain ⟨c, hc, above, hunder⟩ := exists_under_of_memAll h
      exact ⟨_, hunder.cons hc⟩

@[inherit_doc exists_under_of_mem]
theorem exists_under_of_memAll {p : Page} :
    ∀ {ps : List Page}, p ∈ pagesAll ps → ∃ c ∈ ps, ∃ above, Under c above p
  | [], h => by cases h
  | c :: ps, h => by
    rcases List.mem_append.mp h with h | h
    · exact ⟨c, List.mem_cons_self, exists_under_of_mem h⟩
    · obtain ⟨d, hd, hunder⟩ := exists_under_of_memAll h
      exact ⟨d, List.mem_cons_of_mem c hd, hunder⟩

end

/-- Pages of which each lies directly below the one before it, the first one directly below a
place. -/
def Stacked (start : PagePath) : List Page → Prop
  | [] => True
  | p :: ps => p.path = start ++ [p.name] ∧ Stacked p.path ps

theorem Stacked.append {start : PagePath} {above : List Page} {p c : Page}
    (h : Stacked start (above ++ [p])) (hc : c.path = p.path ++ [c.name]) :
    Stacked start (above ++ [p] ++ [c]) := by
  induction above generalizing start with
  | nil => exact ⟨h.1, hc, trivial⟩
  | cons a above ih => exact ⟨h.1, ih h.2⟩

theorem Stacked.path {start : PagePath} {above : List Page} {p : Page}
    (h : Stacked start (above ++ [p])) : p.path = start ++ (above.map name ++ [p.name]) := by
  induction above generalizing start with
  | nil => exact h.1
  | cons a above ih =>
    rw [ih h.2, h.1, List.append_assoc]
    rfl

end Page

namespace Outline

variable {cfg : Settings}

theorem DescribesAll.exists_outline {above : PagePath} {c : Page} :
    ∀ {os : List Outline} {ps : List Page}, DescribesAll cfg above os ps → c ∈ ps →
      ∃ o ∈ os, o.Describes cfg above c
  | [], [], _, hc => by cases hc
  | o :: os, p :: ps, ⟨hp, hps⟩, hc => by
    rcases List.mem_cons.mp hc with rfl | hc
    · exact ⟨o, List.mem_cons_self, hp⟩
    · obtain ⟨below, hbelow, hd⟩ := DescribesAll.exists_outline hps hc
      exact ⟨below, List.mem_cons_of_mem o hbelow, hd⟩

theorem Describes.path_eq {above : PagePath} {o : Outline} {p : Page}
    (h : o.Describes cfg above p) : p.path = above ++ [p.name] := by
  rw [h.path, h.fits.name]

theorem Describes.exists_of_mem_children {above : PagePath} {o : Outline} {p c : Page}
    (h : o.Describes cfg above p) (hc : c ∈ p.children) :
    ∃ child, Describes cfg p.path child c := by
  rw [h.path]
  obtain ⟨topic, children⟩ := o
  obtain ⟨child, -, hd⟩ := DescribesAll.exists_outline h.2 hc
  exact ⟨child, hd⟩

/-- Along every way down, the pages that an outline describes lie directly below each other. -/
theorem Describes.stacked {start : PagePath} {o : Outline} {root p : Page} {above : List Page}
    (h : o.Describes cfg start root) (hunder : Page.Under root above p) :
    Page.Stacked start (above ++ [p]) := by
  -- Each page on the way is described by some outline, and this is handed down with the claim.
  have hway : Page.Stacked start (above ++ [p]) ∧ ∃ place o', Describes cfg place o' p := by
    induction hunder with
    | root => exact ⟨⟨h.path_eq, trivial⟩, start, o, h⟩
    | @child above p c _ hchild ih =>
      obtain ⟨hstacked, place, o', hd⟩ := ih
      obtain ⟨child, hd⟩ := hd.exists_of_mem_children hchild
      exact ⟨hstacked.append hd.path_eq, p.path, child, hd⟩
  exact hway.1

end Outline

/-! ## Crumbs -/

namespace Crumb

/-- Crumbs for the directories between the package and a page, outermost first.  Each climbs over
those after it and over the page. -/
def ofSegments : List String → List Crumb
  | [] => []
  | s :: rest => ⟨s, climb (rest.length + 1) ++ "index.html"⟩ :: ofSegments rest

/-- The positions of segments say how far it is from there to the end. -/
theorem map_zipIdx_eq_ofSegments (segments : List String) {start last : Nat}
    (h : last = start + segments.length) :
    (segments.zipIdx start).map (fun s => Crumb.mk s.1 (climb (last - s.2) ++ "index.html")) =
      ofSegments segments := by
  induction segments generalizing start with
  | nil => rfl
  | cons s rest ih =>
    rw [List.length_cons] at h
    have hfirst : last - start = rest.length + 1 := by omega
    rw [List.zipIdx_cons, List.map_cons, ofSegments, ih (by omega), hfirst]

end Crumb

theorem PagePath.crumbs_cons_concat (package name : String) (segments : List String) :
    PagePath.crumbs (package :: (segments ++ [name])) = Crumb.ofSegments segments := by
  have hlength : (package :: (segments ++ [name])).length - 1 = segments.length + 1 := by simp
  rw [crumbs, hlength, List.zipIdx_cons, List.take_succ_cons, List.drop_succ_cons, List.drop_zero,
    List.zipIdx_append, List.take_left' List.length_zipIdx,
    Crumb.map_zipIdx_eq_ofSegments segments (by omega)]

/-! ## Following a link from a file -/

namespace Href

/-- The file that a link leads to from a file. -/
def fileFrom (file href : String) : Option String :=
  (follow [] ((FilePath.pieces ⟨file⟩).dropLast ++ components href)).map fun components =>
    "/".intercalate components

end Href

namespace Page

/-- Segments that do not get in the way of paths. -/
def Plain (p : Page) : Prop :=
  ∀ s ∈ p.path, s ≠ "" ∧ '/' ∉ s.toList ∧ s ≠ "." ∧ s ≠ ".."

variable {p : Page}

theorem file_eq (p : Page) : p.file = "/".intercalate p.path ++ "/" ++ "index.html" := by
  rw [file, String.append_assoc]
  rfl

theorem file_eq_intercalate (h : p.path ≠ []) :
    p.file = "/".intercalate (p.path ++ ["index.html"]) := by
  rw [file_eq, String.intercalate_append_of_ne_nil h (List.cons_ne_nil _ _),
    String.intercalate_singleton]

theorem Plain.pieces_file (hplain : p.Plain) (hne : p.path ≠ []) :
    FilePath.pieces ⟨p.file⟩ = p.path ++ ["index.html"] := by
  have hslash : ∀ s ∈ p.path, '/' ∉ s.toList := fun s hs => (hplain s hs).2.1
  rw [file_eq, FilePath.pieces_append_slash,
    FilePath.pieces_intercalate_of_slash_notMem hne hslash,
    FilePath.pieces_of_slash_notMem (by decide)]

/-- A link up from a page leads to the file that it names in the directory above. -/
theorem Plain.fileFrom_climb (hplain : p.Plain) (hne : p.path ≠ []) {dir rest : PagePath}
    (hpath : p.path = dir ++ rest) {name : String} (hname : IsSegment name) :
    Href.fileFrom p.file (climb rest.length ++ name) = some ("/".intercalate (dir ++ [name])) := by
  have hcomponents : Href.components (climb rest.length ++ name) =
      List.replicate rest.length ".." ++ [name] := by
    have hhash : '#' ∉ (climb rest.length ++ name).toList := by
      simp [hash_notMem_climb, hname.hash_notMem]
    rw [Href.components, Href.cut_of_notMem hhash, String.ofList_toList, pieces_climb,
      FilePath.pieces_of_slash_notMem hname.slash_notMem]
  have hdown : Href.follow [] p.path = some p.path :=
    Href.follow_names (fun s hs => (hplain s hs).2.2) []
  have hup : Href.follow p.path (List.replicate rest.length "..") = some dir := by
    rw [hpath]
    exact Href.follow_replicate dir rest
  have hlast : Href.follow dir [name] = some (dir ++ [name]) :=
    Href.follow_names (by simpa using ⟨hname.ne_dot, hname.ne_dots⟩) dir
  rw [Href.fileFrom, hplain.pieces_file hne, List.dropLast_concat, hcomponents, Href.follow_append,
    hdown, Option.bind_some, Href.follow_append, hup, Option.bind_some, hlast, Option.map_some]

/-- **One crumb for each page above.**  The induction is on the pages above, outermost first: what
is left of them is what the crumb has to climb over. -/
theorem Stacked.crumbs {start : PagePath} {above : List Page} (h : Stacked start (above ++ [p]))
    (hplain : p.Plain) :
    List.Forall₂ (fun a (c : Crumb) => c.name = a.name ∧ a.path.getLast? = some a.name ∧
      Href.fileFrom p.file c.href = some a.file) above (Crumb.ofSegments (above.map name)) := by
  induction above generalizing start with
  | nil => exact .nil
  | cons a above ih =>
    obtain ⟨ha, hrest⟩ := h
    have hne : a.path ≠ [] := by
      rw [ha]
      exact List.append_ne_nil_of_right_ne_nil _ (List.cons_ne_nil _ _)
    have hpath : p.path = a.path ++ (above.map name ++ [p.name]) := hrest.path
    have hne' : p.path ≠ [] := by
      rw [hpath]
      exact List.append_ne_nil_of_left_ne_nil hne _
    have hlink := hplain.fileFrom_climb hne' hpath (show IsSegment "index.html" by decide)
    rw [List.length_append, ← file_eq_intercalate hne] at hlink
    have hlast : a.path.getLast? = some a.name := by
      rw [ha, List.getLast?_concat]
    exact .cons ⟨rfl, hlast, hlink⟩ (ih hrest)

end Page

/-! ## Navigation -/

section Navigation

variable {cfg : Settings} {r : Root} {out : Root.Rendered} {above : List Page} {p : Page}

/-- The path of a page spells out the way down to it. -/
theorem Page.Under.path_eq (hunder : Page.Under out.page above p) (h : r.render cfg = .ok out) :
    p.path = cfg.packages.packageOf r.id :: (above.map Page.name ++ [p.name]) :=
  ((Root.render_eq_ok h).1.stacked hunder).path

theorem Page.Under.crumbs_path (hunder : Page.Under out.page above p) (h : r.render cfg = .ok out) :
    p.path.crumbs = Crumb.ofSegments (above.map Page.name) := by
  rw [hunder.path_eq h, PagePath.crumbs_cons_concat]

/-- No page has the file that the page of the package would have. -/
theorem Page.Under.file_ne (hunder : Page.Under out.page above p) (h : r.render cfg = .ok out)
    (hplain : p.Plain) : p.file ≠ cfg.packages.packageOf r.id ++ "/index.html" := by
  intro hfile
  have hpath := hunder.path_eq h
  have hne : p.path ≠ [] := by simp [hpath]
  have hslash : '/' ∉ (cfg.packages.packageOf r.id).toList := by
    refine (hplain _ ?_).2.1
    rw [hpath]
    exact List.mem_cons_self
  have htext : cfg.packages.packageOf r.id ++ "/index.html" =
      cfg.packages.packageOf r.id ++ "/" ++ "index.html" := by
    rw [String.append_assoc]
    rfl
  have hpieces := hplain.pieces_file hne
  rw [hfile, htext, FilePath.pieces_append_slash, FilePath.pieces_of_slash_notMem hslash,
    FilePath.pieces_of_slash_notMem (by decide)] at hpieces
  have hlength := congrArg List.length hpieces
  simp [hpath] at hlength

/-- The pages above a page are pages of the tree, too. -/
theorem Page.Under.exists_above {root a : Page} (hunder : Page.Under root above p)
    (ha : a ∈ above) : ∃ above', Page.Under root above' a := by
  induction hunder with
  | root => cases ha
  | child hparent _ ih =>
    rcases List.mem_append.mp ha with ha | ha
    · exact ih ha
    · rw [List.mem_singleton.mp ha]
      exact ⟨_, hparent⟩

/-- **The navigation of every page is right.**  The pages of a rendered root are those at the ends
of the ways down from its page.  The document of a page has exactly one link in its navigation for
each page above, outermost first, with the last segment of the path of that page as its text, and
the link leads from the file of the page to the file of the page above.  No link leads to the
package, which has no page.  The stylesheet of the document is the one in the directory of the
site. -/
theorem Root.navigation_leads_up (h : r.render cfg = .ok out)
    (hplain : ∀ p ∈ out.page.pages, p.Plain) :
    (∀ p, p ∈ out.page.pages ↔ ∃ above, Page.Under out.page above p) ∧
      ∀ above p, Page.Under out.page above p → ∃ items, readDocument p.document = some items ∧
        List.Forall₂ (fun a link => ∃ href, link = (some href, a.name) ∧
            a.path.getLast? = some a.name ∧ Href.fileFrom p.file href = some a.file)
          above (navigation items) ∧
        (∀ link ∈ navigation items, ∀ href ∈ link.1,
          Href.fileFrom p.file href ≠ some (cfg.packages.packageOf r.id ++ "/index.html")) ∧
        ∃ href, stylesheets items = [some href] ∧
          Href.fileFrom p.file href = some Stylesheet.fileName := by
  refine ⟨fun p => ⟨Page.exists_under_of_mem, fun ⟨_, hunder⟩ => hunder.mem_pages⟩, ?_⟩
  intro above p hunder
  have hp : p.Plain := hplain p hunder.mem_pages
  have hne : p.path ≠ [] := by simp [hunder.path_eq h]
  have hcrumbs := ((Root.render_eq_ok h).1.stacked hunder).crumbs hp
  have hlinks : List.Forall₂ (fun a link => ∃ href, link = (some href, a.name) ∧
      a.path.getLast? = some a.name ∧ Href.fileFrom p.file href = some a.file)
      above (navigation p.documentItems) := by
    rw [p.navigation_document, hunder.crumbs_path h, List.forall₂_map_right_iff]
    refine hcrumbs.imp fun a c hc => ?_
    obtain ⟨hname, hlast, hfile⟩ := hc
    exact ⟨c.href, by rw [hname], hlast, hfile⟩
  refine ⟨_, p.readDocument_document, hlinks, ?_, _, p.stylesheets_document, ?_⟩
  · intro link hlink href hhref heq
    obtain ⟨a, ha, href', rfl, -, hfile⟩ := exists_of_forall₂ hlinks.flip hlink
    obtain ⟨above', habove⟩ := hunder.exists_above ha
    obtain rfl : href' = href := by simpa using hhref
    have hfiles : a.file = cfg.packages.packageOf r.id ++ "/index.html" :=
      Option.some.inj (hfile.symm.trans heq)
    exact habove.file_ne h (hplain a habove.mem_pages) hfiles
  · have hsheet : IsSegment Stylesheet.fileName := by decide
    have hclimb := hp.fileFrom_climb hne (List.nil_append p.path).symm hsheet
    exact hclimb

end Navigation

/-- On the page of a parameter of a functor, two pages below the page of the unit. -/
theorem navigation_sampleUnit : ∃ out, (Root.unit sampleUnit).render {} = .ok out ∧
    (∀ p ∈ out.page.pages, p.Plain) ∧
    ∃ above p, Page.Under out.page above p ∧
      above.map Page.file = ["Lib/Lib/index.html", "Lib/Lib/Make/index.html"] ∧
      p.file = "Lib/Lib/Make/argument-2-Elt/index.html" ∧
      ∃ items, readDocument p.document = some items ∧
        List.Forall₂ (fun a link => ∃ href, link = (some href, a.name) ∧
            a.path.getLast? = some a.name ∧ Href.fileFrom p.file href = some a.file)
          above (navigation items) := by
  obtain ⟨out, hrender⟩ : ∃ out, (Root.unit sampleUnit).render {} = .ok out := ⟨_, rfl⟩
  obtain ⟨hd, -⟩ := Root.render_eq_ok hrender
  have hpaths : ∀ path ∈ (Root.unit sampleUnit).outline.paths ["Lib"],
      ∀ s ∈ path, s ≠ "" ∧ '/' ∉ s.toList ∧ s ≠ "." ∧ s ≠ ".." := by
    decide
  have hplain : ∀ p ∈ out.page.pages, p.Plain := by
    intro p hp
    have hmem : p.path ∈ out.page.pages.map Page.path := List.mem_map_of_mem hp
    rw [hd.paths] at hmem
    exact hpaths p.path hmem
  obtain ⟨make, hmake, hdmake⟩ := hd.exists_child List.mem_cons_self
  obtain ⟨elt, helt, hdelt⟩ := hdmake.exists_child List.mem_cons_self
  have hunder : Page.Under out.page [out.page, make] elt := .child (.child .root hmake) helt
  obtain ⟨-, hnavigation⟩ := Root.navigation_leads_up hrender hplain
  obtain ⟨items, hread, hlinks, -⟩ := hnavigation _ _ hunder
  refine ⟨out, hrender, hplain, _, _, hunder, ?_, ?_, items, hread, hlinks⟩
  · rw [List.map_cons, List.map_cons, Page.file, Page.file, hdmake.path, hd.path]
    rfl
  · rw [Page.file, hdelt.path, hdmake.path, hd.path]
    rfl

end DocSite
