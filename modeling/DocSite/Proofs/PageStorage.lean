import DocSite.Build.Basic
import DocSite.Proofs.Storage

/-!
# Storing pages

Pages are stored by recursion: a page, then the pages below it, and the number of pages is added up
on the way back.  What comes out is a row of files that is stored one after another, the stylesheet
first and then the documents of `Page.pages`, and unless one of them cannot be stored the number is
`Page.count` (`Page.store_of_directory`).  So whatever is known of rows of files is known of pages.

Storing is seldom the last thing that happens to a tree: something is stored, and then something
else is read.  A path that led to a file which is kept still leads there, and the file is loaded and
rendered as before.  Storing pages keeps everything that is not at the target of one of their files
(`Page.keeps_store`).
-/

namespace DocSite

/-! ## Rows of files -/

/-- The same as a result of storing pages, of which there are so many. -/
def FileTree.Stored.counted (s : FileTree.Stored) (pages : Nat) : StoredPages :=
  ⟨s.tree, s.written, if s.complete then some pages else none⟩

@[simp] theorem FileTree.Stored.tree_counted (s : FileTree.Stored) (pages : Nat) :
    (s.counted pages).tree = s.tree := rfl

@[simp] theorem FileTree.Stored.written_counted (s : FileTree.Stored) (pages : Nat) :
    (s.counted pages).written = s.written := rfl

theorem FileTree.Stored.count_counted_eq_some_iff {s : FileTree.Stored} {pages n : Nat} :
    (s.counted pages).count = some n ↔ s.complete = true ∧ pages = n := by
  simp [counted]

/-- A file that is stored before others stands before them in the row. -/
theorem FileTree.storeThen_eq (t : FileTree) (file : FilePath × String)
    {next : FileTree → StoredPages} {rest : List (FilePath × String)} {pages : Nat}
    (h : ∀ t', next t' = (t'.storeAll rest).counted pages) :
    t.storeThen file next = (t.storeAll (file :: rest)).counted pages := by
  rw [storeThen]
  cases hstore : t.store file.1 (.text file.2) with
  | mk t' done =>
    cases done with
    | false =>
      rw [storeAll_cons_of_false hstore]
      rfl
    | true =>
      rw [storeAll_cons_of_true hstore]
      simp only [h t']
      rfl

namespace Page

/-- The files of a page and of the pages below it, under a directory: first the stylesheet, then the
documents, each before those below it. -/
def siteFiles (page : Page) (output : FilePath) : List (FilePath × String) :=
  stylesheetFile output :: page.pages.map fun p => p.documentFile output

variable {page : Page} {t t' : FileTree} {output : FilePath}

mutual

/-- A page and the pages below it are stored as a row of documents, and all of them are counted. -/
theorem storeTree_eq (output : FilePath) (t : FileTree) : ∀ page : Page,
    page.storeTree output t =
      (t.storeAll (page.pages.map fun p => p.documentFile output)).counted page.count
  | ⟨name, kind, path, title, header, toc, body, children⟩ => by
    rw [storeTree, pages, List.map_cons, count]
    exact FileTree.storeThen_eq _ _ fun t' => storeTrees_eq output t' 1 children

@[inherit_doc storeTree_eq]
theorem storeTrees_eq (output : FilePath) (t : FileTree) (stored : Nat) : ∀ ps : List Page,
    storeTrees output t stored ps =
      (t.storeAll ((pagesAll ps).map fun p => p.documentFile output)).counted
        (stored + countAll ps)
  | [] => rfl
  | page :: ps => by
    rw [storeTrees, storeTree_eq output t page, pagesAll, List.map_append, countAll,
      FileTree.storeAll_append]
    cases hcomplete : (t.storeAll (page.pages.map fun p => p.documentFile output)).complete with
    | false =>
      simp [FileTree.Stored.counted, hcomplete]
    | true =>
      simp [FileTree.Stored.counted, hcomplete, storeTrees_eq, StoredPages.after, Nat.add_assoc]

end

/-- **Pages are stored as a row of files and counted**, once their directory is there. -/
theorem store_of_directory (h : t.ensureDirectory output = (t', true)) :
    page.store t output = (t'.storeAll (page.siteFiles output)).counted page.count := by
  rw [store, h, siteFiles]
  exact FileTree.storeThen_eq _ _ fun t'' => storeTree_eq output t'' page

/-- Either the directory cannot be made and no file is stored, or it is there and the files are
stored one after another.  Nothing is lost on the way to it. -/
theorem exists_store (page : Page) (t : FileTree) (output : FilePath) :
    ∃ t', (∀ kept, t.Keeps kept t') ∧ (page.store t output = ⟨t', [], none⟩ ∨
      page.store t output = (t'.storeAll (page.siteFiles output)).counted page.count) := by
  have hkeeps (kept) : t.Keeps kept (t.ensureDirectory output).1 := t.keeps_ensureDirectory output
  cases hdir : t.ensureDirectory output with
  | mk t' made =>
    rw [hdir] at hkeeps
    refine ⟨t', hkeeps, ?_⟩
    cases made with
    | false => exact .inl (by rw [store, hdir])
    | true => exact .inr (store_of_directory hdir)

/-- If a number comes out, it is the number of pages, and all files have been stored. -/
theorem of_count_store {n : Nat} (h : (page.store t output).count = some n) :
    n = page.count ∧ (page.store t output).written = page.siteFiles output := by
  obtain ⟨t', -, heq | heq⟩ := page.exists_store t output
  · rw [heq] at h
    cases h
  · rw [heq] at h ⊢
    obtain ⟨hcomplete, hcount⟩ := FileTree.Stored.count_counted_eq_some_iff.mp h
    rw [FileTree.Stored.written_counted]
    exact ⟨hcount.symm, (t'.written_storeAll _).2 hcomplete⟩

end Page

/-! ## What is kept -/

namespace FileTree.Keeps

variable {kept : Place → Prop} {t t' : FileTree} {p : FilePath} {q : Place}

/-- A path leads where it led. -/
theorem follow (h : t.Keeps kept t') {pieces : List String} {place : Place}
    (hfollow : t.follow place pieces = some q) : t'.follow place pieces = some q := by
  induction pieces generalizing place with
  | nil => exact hfollow
  | cons piece pieces ih =>
    rw [FileTree.follow] at hfollow ⊢
    split at hfollow
    · next hdir =>
      have hplace : t.at? place = some .directory := by
        rw [isDirectoryAt] at hdir
        split at hdir
        · assumption
        · cases hdir
      rw [isDirectoryAt, h.directory place hplace]
      exact ih hfollow
    · cases hfollow

theorem resolve (h : t.Keeps kept t') (hp : t.resolve p = some q) : t'.resolve p = some q := by
  rw [FileTree.resolve] at hp ⊢
  split at hp
  · cases hp
  · next hnot =>
    rw [if_neg hnot, origin, h.working]
    exact h.follow hp

/-- A file that is kept becomes the same pages. -/
theorem renderFile (h : t.Keeps kept t') {content : FileContent} (hp : t.resolve p = some q)
    (hkept : kept q) (hq : t.at? q = some (.file content)) (settings : Settings) :
    t'.renderFile settings p = t.renderFile settings p := by
  have hread : t'.read? p = t.read? p := by
    rw [read?, read?, find?, find?, hp, h.resolve hp, Option.bind_some, Option.bind_some, hq,
      h.file q hkept content hq]
  rw [FileTree.renderFile, FileTree.renderFile, hread]

end FileTree.Keeps

namespace Page

variable {page : Page} {t : FileTree} {output : FilePath}

/-- Storing a page and those below it keeps what is not the target of one of their files. -/
theorem keeps_store {kept : Place → Prop}
    (h : ∀ f ∈ page.siteFiles output, ¬ kept (t.target f.1)) :
    t.Keeps kept (page.store t output).tree := by
  obtain ⟨t', hmade, heq | heq⟩ := page.exists_store t output
  · rw [heq]
    exact hmade kept
  · rw [heq, FileTree.Stored.tree_counted]
    refine (hmade kept).trans (FileTree.keeps_storeAll fun f hf => ?_)
    rw [FileTree.target_congr (hmade kept).working]
    exact h f hf

/-- What is stored is there in the end, if no two files have one target. -/
theorem forall_written_store (hnodup : ((page.siteFiles output).map fun f => t.target f.1).Nodup) :
    ∀ f ∈ (page.store t output).written,
      (page.store t output).tree.resolve f.1 = some (t.target f.1) ∧
        (page.store t output).tree.at? (t.target f.1) = some (.file (.text f.2)) := by
  obtain ⟨t', hmade, heq | heq⟩ := page.exists_store t output
  · rw [heq]
    intro f hf
    cases hf
  · rw [heq, FileTree.Stored.tree_counted, FileTree.Stored.written_counted]
    simp only [← FileTree.target_congr (hmade fun _ => True).working] at hnodup ⊢
    exact FileTree.forall_written_storeAll hnodup

end Page

end DocSite
