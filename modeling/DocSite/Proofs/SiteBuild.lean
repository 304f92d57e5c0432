import DocSite.Build.Listing
import DocSite.Build.Site
import DocSite.Proofs.FoundFiles
import DocSite.Proofs.PageStorage
import DocSite.Proofs.SavedRoots
import Mathlib.Algebra.GroupWithZero.Nat

/-!
# Building and listing

A build reads a file, stores its pages, and only then reads the next file.  A listing reads all
files first.  So the two agree only if what is stored for one file is never read as another.

Pages that stay in the output never are, since the output is apart from the inputs.  By induction
along a build, every file becomes what it would have become on its own (`Job.outcomes_eq_map`), and
what is left to say is said about lists of outcomes.

But pages need not stay in the output.  Packages are named by the settings, and a package called
`../in` has its pages in `in`, beside the output.  If one of them is stored where an interface file
was found, then this file is gone before its turn comes.  It holds a document then, and no document
is an interface (`Page.load_document`).
-/

namespace DocSite

namespace Page

/-- No document is an interface. -/
theorem load_document (p : Page) : Root.load p.document = .error .malformed := by
  have hparse : Json.parse p.document = none := by
    rw [Json.parse, document, String.toList_ofList, Document.parts]
    rfl
  rw [Root.load, hparse]
  rfl

/-! ## Pages in order -/

mutual

/-- A page is listed under its file. -/
theorem map_file_listed (depth : Nat) : ∀ p : Page,
    (p.listed depth).map ListedPage.file = p.pages.map Page.file
  | ⟨name, kind, path, title, header, toc, body, children⟩ => by
    rw [listed, pages, List.map_cons, List.map_cons, map_file_listedAll (depth + 1) children]

@[inherit_doc map_file_listed]
theorem map_file_listedAll (depth : Nat) : ∀ ps : List Page,
    (listedAll depth ps).map ListedPage.file = (pagesAll ps).map Page.file
  | [] => rfl
  | p :: ps => by
    rw [listedAll, pagesAll, List.map_append, List.map_append, map_file_listed depth p,
      map_file_listedAll depth ps]

end

mutual

/-- The pages below a page keep their order. -/
theorem sublist_pages_of_mem {p : Page} : ∀ q : Page, p ∈ q.pages → p.pages.Sublist q.pages
  | ⟨name, kind, path, title, header, toc, body, children⟩, h => by
    rcases List.mem_cons.mp h with rfl | h
    · exact List.Sublist.refl _
    · exact (sublist_pagesAll_of_mem children h).cons _

@[inherit_doc sublist_pages_of_mem]
theorem sublist_pagesAll_of_mem {p : Page} : ∀ ps : List Page, p ∈ pagesAll ps →
    p.pages.Sublist (pagesAll ps)
  | q :: ps, h => by
    rcases List.mem_append.mp h with h | h
    · exact (sublist_pages_of_mem q h).trans (List.sublist_append_left _ _)
    · exact (sublist_pagesAll_of_mem ps h).trans (List.sublist_append_right _ _)

end

/-- A page comes before its children. -/
theorem sublist_of_mem_children {p q c : Page} (hp : p ∈ q.pages) (hc : c ∈ p.children) :
    [p, c].Sublist q.pages := by
  refine List.Sublist.trans ?_ (sublist_pages_of_mem q hp)
  have hfirst : [c].Sublist (pagesAll p.children) := by
    refine List.Sublist.trans ?_ (sublist_pagesAll hc)
    rw [pages_eq_cons]
    exact (List.nil_sublist _).cons_cons c
  rw [pages_eq_cons p]
  exact hfirst.cons_cons p

/-- The file of a page is never that of the stylesheet. -/
theorem join_file_ne (p : Page) (output : FilePath) :
    output.join p.file ≠ output.join Stylesheet.fileName := by
  intro heq
  have hslash : '/' ∉ Stylesheet.fileName.toList := by decide
  obtain ⟨front, hfront⟩ := output.exists_pieces_join hslash
  obtain ⟨start, hstart⟩ := output.exists_join_append_slash ("/".intercalate p.path)
  have hfile : p.file = "/".intercalate p.path ++ "/" ++ "index.html" := by
    rw [file, String.append_assoc]
    rfl
  rw [← heq, hfile, hstart, FilePath.pieces_append_slash] at hfront
  have hindex : FilePath.pieces ⟨"index.html"⟩ = ["index.html"] := by decide
  rw [hindex] at hfront
  have hlast := (List.append_inj' hfront rfl).2
  simp [Stylesheet.fileName] at hlast

end Page

/-! ## Outcomes -/

/-- The units that some files are rendered as.  A file that fails has none. -/
def FileTree.rendered (t : FileTree) (settings : Settings) (files : List FilePath) :
    List Root.Rendered :=
  (files.map (t.renderFile settings)).filterMap Except.toOption

/-- The totals with what became of one more file, if all its pages are written. -/
def BuildTotals.add (s : BuildTotals) : Except FileError Root.Rendered → BuildTotals
  | .ok unit => s.addUnit unit unit.page.count
  | .error _ => s.addFailure

namespace Job

variable {job : Job} {t t₀ : FileTree} {files : List FilePath} {done totals : BuildTotals}

/-- What one file adds to a site. -/
def contribution (job : Job) : Except FileError Root.Rendered → List (FilePath × String)
  | .ok unit => unit.page.siteFiles job.output
  | .error _ => []

/-- What becomes of the files of a build.  Each is taken when the pages of those before it are
stored. -/
def outcomes (job : Job) (t : FileTree) : List FilePath → List (Except FileError Root.Rendered)
  | [] => []
  | file :: rest =>
    match t.renderFile job.settings file with
    | .error e => .error e :: job.outcomes t rest
    | .ok unit => .ok unit :: job.outcomes (unit.page.store t job.output).tree rest

section Step

variable {file : FilePath} {rest : List FilePath} {unit : Root.Rendered} {e : FileError}

/-- A file that fails is counted, and nothing else happens. -/
theorem buildFiles_cons_of_error (h : t.renderFile job.settings file = .error e) :
    job.buildFiles done t (file :: rest) = job.buildFiles done.addFailure t rest := by
  rw [buildFiles, h]

/-- A file that is rendered is counted, and its pages are stored before the next file is read. -/
theorem buildFiles_cons_of_ok {n : Nat} (h : t.renderFile job.settings file = .ok unit)
    (hcount : (unit.page.store t job.output).count = some n) :
    job.buildFiles done t (file :: rest) =
      let after := job.buildFiles (done.add (.ok unit)) (unit.page.store t job.output).tree rest
      ⟨after.result, unit.page.siteFiles job.output ++ after.written, after.tree⟩ := by
  obtain ⟨rfl, hwritten⟩ := Page.of_count_store hcount
  rw [buildFiles, h]
  simp only [hcount, hwritten, BuildTotals.add]

/-- The build stops where pages cannot be stored. -/
theorem result_buildFiles_of_not_stored (h : t.renderFile job.settings file = .ok unit)
    (hcount : (unit.page.store t job.output).count = none) :
    (job.buildFiles done t (file :: rest)).result = .error (.notWritten unit.page.file) := by
  rw [buildFiles, h]
  simp only [hcount]

end Step

/-- A build that ends well counts and writes what its outcomes say. -/
theorem buildFiles_eq_ok (h : (job.buildFiles done t files).result = .ok totals) :
    totals = (job.outcomes t files).foldl .add done ∧
      (job.buildFiles done t files).written = (job.outcomes t files).flatMap job.contribution := by
  induction files generalizing done t with
  | nil => exact ⟨(Except.ok.inj h).symm, rfl⟩
  | cons file rest ih =>
    rw [outcomes]
    cases hfile : t.renderFile job.settings file with
    | error e =>
      rw [buildFiles_cons_of_error hfile] at h ⊢
      exact ih h
    | ok unit =>
      cases hcount : (unit.page.store t job.output).count with
      | none =>
        rw [result_buildFiles_of_not_stored hfile hcount] at h
        cases h
      | some n =>
        rw [buildFiles_cons_of_ok hfile hcount] at h ⊢
        obtain ⟨htotals, hwritten⟩ := ih h
        exact ⟨htotals, congrArg (_ ++ ·) hwritten⟩

/-- **Every file becomes what it would have become on its own**, if it is there from the beginning
and no page is stored at its place. -/
theorem outcomes_eq_map (kept : Place → Prop) (hkeeps : t₀.Keeps kept t)
    (hfiles : ∀ f ∈ files, ∃ q content,
      kept q ∧ t₀.resolve f = some q ∧ t₀.at? q = some (.file content))
    (hpages : ∀ f ∈ files, ∀ unit, t₀.renderFile job.settings f = .ok unit →
      ∀ g ∈ unit.page.siteFiles job.output, ¬ kept (t₀.target g.1)) :
    job.outcomes t files = files.map (t₀.renderFile job.settings) := by
  induction files generalizing t with
  | nil => rfl
  | cons file rest ih =>
    obtain ⟨q, content, hkept, hresolve, hfile⟩ := hfiles file List.mem_cons_self
    have hsame := hkeeps.renderFile hresolve hkept hfile job.settings
    have hrest : ∀ {t'}, t₀.Keeps kept t' →
        job.outcomes t' rest = rest.map (t₀.renderFile job.settings) := fun hkeeps =>
      ih hkeeps (fun f hf => hfiles f (List.mem_cons_of_mem file hf))
        fun f hf => hpages f (List.mem_cons_of_mem file hf)
    rw [outcomes, hsame, List.map_cons]
    cases houtcome : t₀.renderFile job.settings file with
    | error e => exact congrArg _ (hrest hkeeps)
    | ok unit =>
      refine congrArg _ (hrest (hkeeps.trans (Page.keeps_store fun g hg => ?_)))
      rw [FileTree.target_congr hkeeps.working]
      exact hpages file List.mem_cons_self unit houtcome g hg

end Job

/-! ## Totals and listings -/

section Totals

variable (outcomes : List (Except FileError Root.Rendered))

/-- Totals are sums over the units that were rendered. -/
theorem BuildTotals.foldl_add (done : BuildTotals) :
    let units := outcomes.filterMap Except.toOption
    let totals := outcomes.foldl .add done
    totals.units = done.units + units.length ∧
      totals.pages = done.pages + (units.map fun u => u.page.count).sum ∧
      totals.warnings = done.warnings + (units.map fun u => u.warnings.length).sum ∧
      totals.units + totals.failed = done.units + done.failed + outcomes.length := by
  induction outcomes generalizing done with
  | nil => simp
  | cons outcome rest ih =>
    obtain ⟨hunits, hpages, hwarnings, hall⟩ := ih (done.add outcome)
    cases outcome with
    | error e =>
      refine ⟨hunits, hpages, hwarnings, ?_⟩
      simp only [BuildTotals.add, BuildTotals.addFailure] at hall
      rw [List.length_cons]
      exact hall.trans (by omega)
    | ok unit =>
      have hcons : (Except.ok unit :: rest).filterMap Except.toOption =
          unit :: rest.filterMap Except.toOption := rfl
      simp only [hcons, List.foldl_cons, List.length_cons, List.map_cons, List.sum_cons]
      simp only [BuildTotals.add, BuildTotals.addUnit] at hunits hpages hwarnings hall ⊢
      exact ⟨by omega, by omega, by omega, by omega⟩

/-- A listing holds the units that were rendered, one after another. -/
theorem Listing.foldl_add (l : Listing) :
    let units := outcomes.filterMap Except.toOption
    let listing := outcomes.foldl Listing.add l
    listing.pages = l.pages ++ units.flatMap (fun u => u.page.listed 0) ∧
      units.length + listing.failed = l.failed + outcomes.length := by
  induction outcomes generalizing l with
  | nil => simp
  | cons outcome rest ih =>
    obtain ⟨hpages, hall⟩ := ih (l.add outcome)
    cases outcome with
    | error e =>
      refine ⟨hpages, ?_⟩
      simp only [Listing.add] at hall
      rw [List.length_cons]
      exact hall.trans (by omega)
    | ok unit =>
      have hcons : (Except.ok unit :: rest).filterMap Except.toOption =
          unit :: rest.filterMap Except.toOption := rfl
      simp only [hcons, List.foldl_cons, List.length_cons, List.flatMap_cons]
      simp only [Listing.add] at hpages hall ⊢
      exact ⟨by rw [hpages, List.append_assoc], by omega⟩

end Totals

/-! ## Builds and listings agree -/

namespace FileTree

theorem prefix_foldl_step {pieces : List String} (h : ".." ∉ pieces) (place : Place) :
    place <+: pieces.foldl step place := by
  induction pieces generalizing place with
  | nil => exact List.prefix_rfl
  | cons piece pieces ih =>
    have hstep : place <+: step place piece := by
      unfold step
      split
      · exact List.prefix_rfl
      · exact List.prefix_rfl
      · exact absurd List.mem_cons_self h
      · exact List.prefix_append _ _
    exact hstep.trans (ih (List.not_mem_of_not_mem_cons h) _)

/-- A path without `..` leads to a place below the directory it is joined to. -/
theorem prefix_target_join (t : FileTree) (dir : FilePath) {path : String}
    (hpath : FilePath.isAbsolute ⟨path⟩ = false) (h : ".." ∉ FilePath.pieces ⟨path⟩) :
    t.target dir <+: t.target (dir.join path) := by
  rw [target_join t dir hpath]
  exact prefix_foldl_step h _

end FileTree

namespace BuildReport

/-- The files of pages that were written, in order. -/
def pageFiles (r : BuildReport) (output : FilePath) : List FilePath :=
  (r.written.map Prod.fst).filter (· ≠ output.join Stylesheet.fileName)

end BuildReport

theorem Page.filter_siteFiles (page : Page) (output : FilePath) :
    ((page.siteFiles output).map Prod.fst).filter (· ≠ output.join Stylesheet.fileName) =
      page.pages.map fun p => output.join p.file := by
  rw [Page.siteFiles, List.map_cons, List.map_map,
    List.filter_cons_of_neg (by simp [stylesheetFile])]
  refine List.filter_eq_self.mpr fun path hpath => ?_
  obtain ⟨p, -, rfl⟩ := List.mem_map.mp hpath
  exact decide_eq_true (p.join_file_ne output)

namespace Job

/-- The output and the inputs of a job are apart: none of them is inside another. -/
def Apart (job : Job) (t : FileTree) : Prop :=
  ∀ input ∈ job.inputs,
    ¬ t.target job.output <+: t.target input ∧ ¬ t.target input <+: t.target job.output

instance (job : Job) (t : FileTree) : Decidable (job.Apart t) :=
  List.decidableBAll (fun input =>
    ¬ t.target job.output <+: t.target input ∧ ¬ t.target input <+: t.target job.output) job.inputs

/-- No page leads out of the output to the place of a file that was found. -/
def PagesStay (job : Job) (t : FileTree) (files : List FilePath) : Prop :=
  ∀ u ∈ t.rendered job.settings files, ∀ p ∈ u.page.pages,
    t.target job.output <+: t.target (job.output.join p.file) ∨
      ∀ f ∈ files, t.target (job.output.join p.file) ≠ t.target f

variable {job : Job} {t : FileTree} {files : List FilePath} {totals : BuildTotals}

/-- Whatever is found is outside of the output. -/
theorem Apart.not_prefix (h : job.Apart t) (hnamed : t.Named)
    (hfiles : t.interfaceFiles job.inputs = .ok files) {f : FilePath} (hf : f ∈ files) :
    ¬ t.target job.output <+: t.target f := by
  obtain ⟨input, hinput, below, content, hresolve, -⟩ :=
    hnamed.exists_place_of_mem_interfaceFiles hfiles hf
  rw [FileTree.target_of_resolve hresolve]
  intro houtput
  rcases List.prefix_or_prefix_of_prefix houtput (List.prefix_append _ below) with hin | hin
  · exact (h input hinput).1 hin
  · exact (h input hinput).2 hin

/-- The outcomes of a build are those that its files have on their own. -/
theorem outcomes_interfaceFiles (hnamed : t.Named) (hapart : job.Apart t)
    (hfiles : t.interfaceFiles job.inputs = .ok files) (hstay : job.PagesStay t files) :
    job.outcomes t files = files.map (t.renderFile job.settings) := by
  -- what has to be kept are the places of all files that were found
  refine outcomes_eq_map (fun q => ∃ f ∈ files, t.target f = q) (.refl t) (fun f hf => ?_)
    fun f hf unit hunit g hg => ?_
  · obtain ⟨input, -, below, content, hresolve, hfile⟩ :=
      hnamed.exists_place_of_mem_interfaceFiles hfiles hf
    exact ⟨_, content, ⟨f, hf, FileTree.target_of_resolve hresolve⟩, hresolve, hfile⟩
  · rintro ⟨f', hf', heq⟩
    have hout := hapart.not_prefix hnamed hfiles hf'
    have hstylesheet : t.target job.output <+: t.target (job.output.join Stylesheet.fileName) :=
      t.prefix_target_join job.output (by decide) (by decide)
    rcases List.mem_cons.mp hg with rfl | hg
    · exact hout (heq ▸ hstylesheet)
    · obtain ⟨p, hp, rfl⟩ := List.mem_map.mp hg
      have hmem : unit ∈ t.rendered job.settings files :=
        List.mem_filterMap.mpr ⟨.ok unit, hunit ▸ List.mem_map_of_mem hf, rfl⟩
      rcases hstay unit hmem p hp with hin | hne
      · exact hout (heq ▸ hin)
      · exact hne f' hf' heq.symm

theorem flatMap_contribution (job : Job) (outcomes : List (Except FileError Root.Rendered)) :
    outcomes.flatMap job.contribution =
      (outcomes.filterMap Except.toOption).flatMap fun u => u.page.siteFiles job.output := by
  induction outcomes with
  | nil => rfl
  | cons outcome rest ih =>
    rw [List.flatMap_cons, ih]
    cases outcome with
    | error e => rfl
    | ok unit => rfl

/-- The pages that a build writes are the pages of its units, one unit after another. -/
theorem pageFiles_of_written {r : BuildReport} {units : List Root.Rendered}
    (h : r.written = units.flatMap fun u => u.page.siteFiles job.output) :
    r.pageFiles job.output =
      (units.flatMap fun u => u.page.pages).map fun p => job.output.join p.file := by
  rw [BuildReport.pageFiles, h, List.map_flatMap, List.filter_flatMap, List.map_flatMap]
  exact List.flatMap_congr fun u _ => u.page.filter_siteFiles job.output

theorem list_eq_ok (hfiles : t.interfaceFiles job.inputs = .ok files) :
    job.list t = .ok ((files.map (t.renderFile job.settings)).foldl Listing.add {}) := by
  rw [list, hfiles]
  rfl

theorem build_eq_buildFiles (hfiles : t.interfaceFiles job.inputs = .ok files) :
    job.build t = job.buildFiles {} t files := by
  rw [build, hfiles]

/-- **Builds and listings agree, and failures concern no other file.**  A build that ends well has
taken all files that were found, in order.  Each of them became what it would have become on its
own, and so each counts in the same way for the build and for the listing, and adds its own pages
and no others.  A file that could not be loaded or rendered adds none.  The files of the pages are
written in the order in which they are listed, each page before its children. -/
theorem build_agrees_with_list (hnamed : t.Named) (hapart : job.Apart t)
    (hfiles : t.interfaceFiles job.inputs = .ok files) (hstay : job.PagesStay t files)
    (h : (job.build t).result = .ok totals) :
    files.Pairwise (fun f g => compare f g = .lt) ∧
    job.outcomes t files = files.map (t.renderFile job.settings) ∧
    totals.units + totals.failed = files.length ∧
    totals.pages = ((t.rendered job.settings files).map fun u => u.page.count).sum ∧
    totals.warnings = ((t.rendered job.settings files).map fun u => u.warnings.length).sum ∧
    (job.build t).written =
      files.flatMap (fun f => job.contribution (t.renderFile job.settings f)) ∧
    (∃ listing, job.list t = .ok listing ∧ totals.failed = listing.failed ∧
      (job.build t).pageFiles job.output = listing.pages.map (fun p => job.output.join p.file) ∧
      listing.pages.map ListedPage.file =
        ((t.rendered job.settings files).flatMap fun u => u.page.pages).map Page.file) ∧
    ∀ u ∈ t.rendered job.settings files, ∀ p ∈ u.page.pages, ∀ c ∈ p.children,
      [p, c].Sublist u.page.pages := by
  have houtcomes := outcomes_interfaceFiles hnamed hapart hfiles hstay
  rw [build_eq_buildFiles hfiles] at h ⊢
  obtain ⟨rfl, hwritten⟩ := buildFiles_eq_ok h
  rw [houtcomes] at hwritten ⊢
  obtain ⟨hunits, hpages, hwarnings, hall⟩ :=
    BuildTotals.foldl_add (files.map (t.renderFile job.settings)) {}
  obtain ⟨hlisted, hlisting⟩ := Listing.foldl_add (files.map (t.renderFile job.settings)) {}
  rw [List.length_map] at hall hlisting
  have hfileNames : ((files.map (t.renderFile job.settings)).foldl Listing.add {}).pages.map
      ListedPage.file = ((t.rendered job.settings files).flatMap fun u => u.page.pages).map
        Page.file := by
    rw [hlisted, List.nil_append, List.map_flatMap, List.map_flatMap]
    exact List.flatMap_congr fun u _ => u.page.map_file_listed 0
  refine ⟨FileTree.pairwise_interfaceFiles hfiles, rfl, ?_, ?_, ?_, ?_,
    ⟨_, list_eq_ok hfiles, ?_, ?_, hfileNames⟩, fun u _ p hp c hc => ?_⟩
  · simpa using hall
  · exact hpages.trans (Nat.zero_add _)
  · exact hwarnings.trans (Nat.zero_add _)
  · rw [hwritten, List.flatMap_map]
  · simp only [Nat.zero_add] at hunits hall hlisting
    omega
  · rw [flatMap_contribution] at hwritten
    rw [pageFiles_of_written hwritten]
    have hjoined := congrArg (List.map job.output.join) hfileNames
    rw [List.map_map, List.map_map] at hjoined
    exact hjoined.symm
  · exact Page.sublist_of_mem_children hp hc

end Job

/-! ## Samples -/

/-- The interface of a unit without declarations. -/
def sampleEmpty (name : String) : Root := .unit ⟨.top .root name, [], .module []⟩

/-- Its page, in a package. -/
def sampleEmptyPage (package name : String) : Page :=
  ⟨name, .unit, [package, name], "Module " ++ name, [], [], [], []⟩

theorem load_sampleEmpty (name : String) :
    Root.load (sampleEmpty name).save = .ok (sampleEmpty name) := by
  rw [Root.load_save_eq, Root.deepest_save]
  rfl

theorem FileTree.renderFile_sampleEmpty {t : FileTree} {f : FilePath} {settings : Settings}
    {name : String} {unit : Root.Rendered} (hread : t.read? f = some (sampleEmpty name).save)
    (hrender : (sampleEmpty name).render settings = .ok unit) :
    t.renderFile settings f = .ok unit := by
  rw [renderFile, hread]
  simp only [load_sampleEmpty, hrender]
  rfl

theorem FileTree.renderFile_malformed {t : FileTree} {f : FilePath} {text : String}
    (settings : Settings) (hread : t.read? f = some text)
    (hload : Root.load text = .error .malformed) :
    t.renderFile settings f = .error (.load .malformed) := by
  rw [renderFile, hread]
  simp only [hload]

/-- A directory with two interfaces and, between them, a file that holds none. -/
def sampleInputs : FileTree :=
  ⟨[], [(["in"], .directory), (["in", "a.json"], .file (.text (sampleEmpty "A").save)),
    (["in", "b.json"], .file (.text "")), (["in", "c.json"], .file (.text (sampleEmpty "C").save))]⟩

def sampleJob : Job := ⟨[⟨"in"⟩], ⟨"out"⟩, {}⟩

def sampleFiles : List FilePath := [⟨"in/a.json"⟩, ⟨"in/b.json"⟩, ⟨"in/c.json"⟩]

theorem interfaceFiles_sampleInputs :
    sampleInputs.interfaceFiles sampleJob.inputs = .ok sampleFiles :=
  FileTree.interfaceFiles_of_pairwise rfl (by decide +kernel)

theorem renderFile_sampleInputs :
    sampleInputs.renderFile sampleJob.settings ⟨"in/a.json"⟩ =
      .ok ⟨"A", sampleEmptyPage "A" "A", []⟩ ∧
    sampleInputs.renderFile sampleJob.settings ⟨"in/b.json"⟩ = .error (.load .malformed) ∧
    sampleInputs.renderFile sampleJob.settings ⟨"in/c.json"⟩ =
      .ok ⟨"C", sampleEmptyPage "C" "C", []⟩ :=
  ⟨FileTree.renderFile_sampleEmpty rfl rfl, FileTree.renderFile_malformed _ rfl rfl,
    FileTree.renderFile_sampleEmpty rfl rfl⟩

theorem result_sampleInputs : (sampleJob.build sampleInputs).result = .ok ⟨2, 2, 0, 1⟩ := by
  obtain ⟨ha, hb, hc⟩ := renderFile_sampleInputs
  have hkeeps : sampleInputs.Keeps
      (fun q => q ∈ [[.text "in", .text "b.json"], [.text "in", .text "c.json"]])
      ((sampleEmptyPage "A" "A").store sampleInputs sampleJob.output).tree :=
    Page.keeps_store (by decide +kernel)
  have hb' := (hkeeps.renderFile (p := ⟨"in/b.json"⟩) rfl (by decide) rfl _).trans hb
  have hc' := (hkeeps.renderFile (p := ⟨"in/c.json"⟩) rfl (by decide) rfl _).trans hc
  have hstored :
      ((sampleEmptyPage "A" "A").store sampleInputs sampleJob.output).count = some 1 := by
    decide +kernel
  have hstored' : ((sampleEmptyPage "C" "C").store
      ((sampleEmptyPage "A" "A").store sampleInputs sampleJob.output).tree
        sampleJob.output).count = some 1 := by
    decide +kernel
  rw [Job.build_eq_buildFiles interfaceFiles_sampleInputs, sampleFiles,
    Job.buildFiles_cons_of_ok ha hstored, Job.buildFiles_cons_of_error hb',
    Job.buildFiles_cons_of_ok hc' hstored']
  rfl

theorem agreement_sampleInputs :
    sampleInputs.Named ∧ sampleJob.Apart sampleInputs ∧
    sampleJob.PagesStay sampleInputs sampleFiles ∧
    (sampleJob.build sampleInputs).result = .ok ⟨2, 2, 0, 1⟩ ∧
    sampleJob.outcomes sampleInputs sampleFiles =
      [.ok ⟨"A", sampleEmptyPage "A" "A", []⟩, .error (.load .malformed),
        .ok ⟨"C", sampleEmptyPage "C" "C", []⟩] ∧
    ∃ listing, sampleJob.list sampleInputs = .ok listing ∧ listing.failed = 1 ∧
      (sampleJob.build sampleInputs).pageFiles sampleJob.output =
        [⟨"out/A/A/index.html"⟩, ⟨"out/C/C/index.html"⟩] := by
  obtain ⟨ha, hb, hc⟩ := renderFile_sampleInputs
  have hmap : sampleFiles.map (sampleInputs.renderFile sampleJob.settings) =
      [.ok ⟨"A", sampleEmptyPage "A" "A", []⟩, .error (.load .malformed),
        .ok ⟨"C", sampleEmptyPage "C" "C", []⟩] := by
    rw [sampleFiles, List.map_cons, List.map_cons, List.map_cons, ha, hb, hc, List.map_nil]
  have hrendered : sampleInputs.rendered sampleJob.settings sampleFiles =
      [⟨"A", sampleEmptyPage "A" "A", []⟩, ⟨"C", sampleEmptyPage "C" "C", []⟩] := by
    rw [FileTree.rendered, hmap]
    rfl
  have hstay : sampleJob.PagesStay sampleInputs sampleFiles := by
    intro u hu p hp
    rw [hrendered] at hu
    rcases List.mem_pair.mp hu with rfl | rfl
    · obtain rfl := List.mem_singleton.mp hp
      exact .inl (sampleInputs.prefix_target_join sampleJob.output (by decide) (by decide))
    · obtain rfl := List.mem_singleton.mp hp
      exact .inl (sampleInputs.prefix_target_join sampleJob.output (by decide) (by decide))
  have hnamed : sampleInputs.Named := by decide
  have hapart : sampleJob.Apart sampleInputs := by decide +kernel
  obtain ⟨-, houtcomes, -, -, -, -, ⟨listing, hlist, hfailed, hfiles, hpages⟩, -⟩ :=
    Job.build_agrees_with_list hnamed hapart interfaceFiles_sampleInputs hstay result_sampleInputs
  refine ⟨hnamed, hapart, hstay, result_sampleInputs, houtcomes.trans hmap, listing, hlist,
    hfailed.symm, ?_⟩
  have hjoined := congrArg (List.map sampleJob.output.join) hpages
  rw [hrendered, List.map_map] at hjoined
  exact hfiles.trans (hjoined.trans (by decide))

/-- Two interfaces, one of which has the name of a page. -/
def sampleOverwritten : FileTree :=
  ⟨[], [(["in"], .directory), (["in", "a.json"], .file (.text (sampleEmpty "x").save)),
    (["in", "x"], .directory),
    (["in", "x", "index.html"], .file (.text (sampleEmpty "B").save))]⟩

/-- Both are inputs, and the first unit is in a package that leads out of the output. -/
def sampleLeading : Job :=
  ⟨[⟨"in/a.json"⟩, ⟨"in/x/index.html"⟩], ⟨"out"⟩, { packages := .ofList [("x", "../in")] }⟩

theorem interfaceFiles_sampleOverwritten :
    sampleOverwritten.interfaceFiles sampleLeading.inputs =
      .ok [⟨"in/a.json"⟩, ⟨"in/x/index.html"⟩] :=
  FileTree.interfaceFiles_of_pairwise rfl (by decide +kernel)

/-- The page of the first unit is stored where the second was found. -/
theorem renderFile_sampleOverwritten
    (hstored : ((sampleEmptyPage "../in" "x").store sampleOverwritten
      sampleLeading.output).count = some 1) :
    ((sampleEmptyPage "../in" "x").store sampleOverwritten sampleLeading.output).tree.renderFile
      sampleLeading.settings ⟨"in/x/index.html"⟩ = .error (.load .malformed) := by
  have hkeeps : sampleOverwritten.Keeps (fun _ => False)
      ((sampleEmptyPage "../in" "x").store sampleOverwritten sampleLeading.output).tree :=
    Page.keeps_store fun _ _ h => h
  have hresolve := hkeeps.resolve (p := ⟨"in/x/index.html"⟩)
    (q := [.text "in", .text "x", .text "index.html"]) rfl
  have hmem : (sampleLeading.output.join "../in/x/index.html",
      (sampleEmptyPage "../in" "x").document) ∈
        (sampleEmptyPage "../in" "x").siteFiles sampleLeading.output :=
    List.mem_cons_of_mem _ (List.mem_singleton.mpr rfl)
  rw [← (Page.of_count_store hstored).2] at hmem
  obtain ⟨-, hfile⟩ := Page.forall_written_store (by decide +kernel) _ hmem
  have htarget : sampleOverwritten.target (sampleLeading.output.join "../in/x/index.html") =
      [.text "in", .text "x", .text "index.html"] := by
    decide +kernel
  rw [htarget] at hfile
  refine FileTree.renderFile_malformed _ ?_ (Page.load_document (sampleEmptyPage "../in" "x"))
  rw [FileTree.read?, FileTree.find?, hresolve, Option.bind_some, hfile]
  rfl

/-- The listing holds the pages of both units, but the build has lost one of them. -/
theorem sampleOverwritten_not_isolated :
    sampleOverwritten.Named ∧ sampleLeading.Apart sampleOverwritten ∧
    (sampleLeading.build sampleOverwritten).result = .ok ⟨1, 1, 0, 1⟩ ∧
    ∃ listing, sampleLeading.list sampleOverwritten = .ok listing ∧ listing.failed = 0 ∧
      listing.pages.map ListedPage.file = ["../in/x/index.html", "B/B/index.html"] := by
  have ha : sampleOverwritten.renderFile sampleLeading.settings ⟨"in/a.json"⟩ =
      .ok ⟨"../in", sampleEmptyPage "../in" "x", []⟩ :=
    FileTree.renderFile_sampleEmpty rfl rfl
  have hb : sampleOverwritten.renderFile sampleLeading.settings ⟨"in/x/index.html"⟩ =
      .ok ⟨"B", sampleEmptyPage "B" "B", []⟩ :=
    FileTree.renderFile_sampleEmpty rfl rfl
  have hstored : ((sampleEmptyPage "../in" "x").store sampleOverwritten
      sampleLeading.output).count = some 1 := by
    decide +kernel
  have hfiles := interfaceFiles_sampleOverwritten
  refine ⟨by decide, by decide +kernel, ?_, _, Job.list_eq_ok hfiles, ?_⟩
  · rw [Job.build_eq_buildFiles hfiles, Job.buildFiles_cons_of_ok ha hstored,
      Job.buildFiles_cons_of_error (renderFile_sampleOverwritten hstored)]
    rfl
  · rw [List.map_cons, List.map_cons, List.map_nil, ha, hb]
    exact ⟨rfl, by decide⟩

end DocSite
