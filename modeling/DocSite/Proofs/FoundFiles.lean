import DocSite.Files.Discovery
import DocSite.Proofs.Storage

/-!
# Found files

The files that some inputs stand for come as paths, and a path is only a spelling.  Two things are
needed of them.  They are in order, and no two of them are the same up to spelling, so that it is
settled which file comes first.  And each of them leads to a file: to the input itself, or to a
place below it (`FileTree.Named.exists_place_of_mem_interfaceFiles`).

The second holds in trees in which every name that is text can be spelled by a path.  A name with a
slash in it would be read as two, and the names `""`, `"."` and `".."` would not be read as names at
all.  About names that are not text nothing need be said, since no path that is found has one.
-/

namespace DocSite

/-! ## The order of paths -/

namespace FilePath

namespace Component

instance : Std.TransOrd Component :=
  inferInstanceAs (Std.TransCmp (compareLex (compareOn rank) (compareOn nameOf)))

instance : Std.LawfulEqOrd Component where
  eq_of_compare {a b} h := by
    obtain ⟨hrank, hname⟩ := Ordering.then_eq_eq.mp h
    replace hrank : a.rank = b.rank := Std.LawfulEqOrd.eq_of_compare hrank
    replace hname : a.nameOf = b.nameOf := Std.LawfulEqOrd.eq_of_compare hname
    cases a <;> cases b <;> simp_all [rank, nameOf]

end Component

instance : Std.TransOrd FilePath :=
  inferInstanceAs (Std.TransCmp (compareOn components))

theorem compare_eq_eq_iff {p q : FilePath} : compare p q = .eq ↔ p.same q := by
  rw [same, decide_eq_true_iff]
  exact Std.compare_eq_iff_eq (a := p.components)

theorem mem_of_mem_dedup {p : FilePath} : ∀ {paths : List FilePath}, p ∈ dedup paths → p ∈ paths
  | [], h => h
  | q :: rest, h => by
    rw [dedup] at h
    rcases List.mem_cons.mp h with rfl | h
    · exact List.mem_cons_self
    refine List.mem_cons_of_mem q (mem_of_mem_dedup ?_)
    split at h
    · cases h
    · next r others heq =>
      rw [heq]
      split at h
      · exact List.mem_cons_of_mem r h
      · exact h

/-- What is left of paths in order is in strict order. -/
theorem pairwise_dedup : ∀ {paths : List FilePath},
    paths.Pairwise (fun p q => (compare p q).isLE) →
      (dedup paths).Pairwise (fun p q => compare p q = .lt)
  | [], _ => .nil
  | p :: rest, h => by
    obtain ⟨hfirst, hrest⟩ := List.pairwise_cons.mp h
    have ih := pairwise_dedup hrest
    have hle : ∀ q ∈ dedup rest, (compare p q).isLE := fun q hq => hfirst q (mem_of_mem_dedup hq)
    rw [dedup]
    split
    · exact List.pairwise_singleton _ p
    next q others heq =>
    rw [heq] at ih hle
    obtain ⟨hq, hothers⟩ := List.pairwise_cons.mp ih
    have hpq : (compare p q).isLE := hle q List.mem_cons_self
    have hlt : ∀ r ∈ others, compare p r = .lt := fun r hr =>
      Std.TransCmp.lt_of_isLE_of_lt hpq (hq r hr)
    split
    · exact List.pairwise_cons.mpr ⟨hlt, hothers⟩
    · next hsame =>
      refine List.pairwise_cons.mpr ⟨fun r hr => ?_, ih⟩
      rcases List.mem_cons.mp hr with rfl | hr
      · have hne : compare p r ≠ .eq := mt compare_eq_eq_iff.mp hsame
        revert hpq hne
        cases compare p r <;> simp
      · exact hlt r hr

/-- **Sorted paths are in strict order.** -/
theorem pairwise_sorted (paths : List FilePath) :
    (sorted paths).Pairwise (fun p q => compare p q = .lt) := by
  refine pairwise_dedup (List.pairwise_mergeSort (fun p q r => ?_) (fun p q => ?_) paths)
  · exact Std.TransCmp.isLE_trans
  · have hswap : compare q p = (compare p q).swap := Std.OrientedCmp.eq_swap
    rw [hswap]
    cases compare p q <;> simp

theorem dedup_eq_self : ∀ {paths : List FilePath},
    paths.Pairwise (fun p q => compare p q = .lt) → dedup paths = paths
  | [], _ => rfl
  | [p], _ => rfl
  | p :: q :: rest, h => by
    obtain ⟨hfirst, hrest⟩ := List.pairwise_cons.mp h
    have hsame : ¬ p.same q := by
      rw [← compare_eq_eq_iff, hfirst q List.mem_cons_self]
      exact Ordering.noConfusion
    rw [dedup, dedup_eq_self hrest]
    simp only [if_neg hsame]

/-- Paths that are in strict order already stay as they are. -/
theorem sorted_eq_self {paths : List FilePath}
    (h : paths.Pairwise (fun p q => compare p q = .lt)) : sorted paths = paths := by
  have hle : paths.Pairwise (fun p q => (compare p q).isLE) :=
    h.imp fun hlt => by rw [hlt]; rfl
  rw [sorted, List.mergeSort_of_pairwise hle, dedup_eq_self h]

theorem mem_of_mem_sorted {p : FilePath} {paths : List FilePath} (h : p ∈ sorted paths) :
    p ∈ paths :=
  List.mem_mergeSort.mp (mem_of_mem_dedup h)

/-! ## Paths below a directory -/

theorem isAbsolute_append {a : String} (h : a.isEmpty = false) (b : String) :
    isAbsolute ⟨a ++ b⟩ = isAbsolute ⟨a⟩ := by
  cases hlist : a.toList with
  | nil =>
    have hempty : a.isEmpty = true := String.isEmpty_iff.mpr (String.toList_inj.mp hlist)
    rw [h] at hempty
    cases hempty
  | cons c cs => simp [isAbsolute, hlist]

/-- An absolute path begins with an empty piece. -/
theorem mem_pieces_of_isAbsolute {p : FilePath} (h : p.isAbsolute = true) : "" ∈ p.pieces := by
  rw [isAbsolute, decide_eq_true_iff, List.head?_eq_some_iff] at h
  obtain ⟨rest, hrest⟩ := h
  rw [pieces, hrest, split, if_pos rfl]
  exact List.mem_cons_self

/-- The pieces of a path below a directory are those of both.  If the directory ends in a slash then
its last piece is empty and is left out. -/
theorem exists_pieces_join_of_relative {dir : FilePath} {path : String}
    (hdir : dir.text.isEmpty = false) (hpath : isAbsolute ⟨path⟩ = false) :
    ∃ front, (dir.join path).pieces = front ++ pieces ⟨path⟩ ∧
      (dir.pieces = front ∨ dir.pieces = front ++ [""]) ∧
      (dir.join path).isAbsolute = dir.isAbsolute ∧ (dir.join path).text.isEmpty = false := by
  have hempty : ∀ b, (dir.text ++ b).isEmpty = false := by
    intro b
    rw [← Bool.not_eq_true, String.isEmpty_iff] at hdir ⊢
    exact fun h => hdir (String.append_eq_empty_iff.mp h).1
  rw [join, hpath, hdir]
  split
  · contradiction
  · split
    · next hlast =>
      obtain ⟨front, hfront⟩ := List.getLast?_eq_some_iff.mp hlast
      have htext : dir.text = String.ofList front ++ "/" :=
        String.toList_inj.mp (by simpa using hfront)
      have hpieces : dir.pieces = pieces ⟨String.ofList front⟩ ++ [""] := by
        have happend := pieces_append_slash (String.ofList front) ""
        rw [String.append_empty, ← htext] at happend
        exact happend
      refine ⟨_, ?_, .inr hpieces, isAbsolute_append hdir path, hempty path⟩
      rw [htext, pieces_append_slash]
    · refine ⟨_, pieces_append_slash dir.text path, .inl rfl, ?_, ?_⟩
      · rw [String.append_assoc]
        exact isAbsolute_append hdir _
      · rw [String.append_assoc]
        exact hempty _

end FilePath

namespace FileTree

variable {t : FileTree} {place q : Place} {p dir : FilePath} {path : String}

theorem follow_append (t : FileTree) (place : Place) (a b : List String) :
    t.follow place (a ++ b) = (t.follow place a).bind fun q => t.follow q b := by
  induction a generalizing place with
  | nil => rfl
  | cons piece a ih =>
    rw [List.cons_append, follow, follow]
    split
    · exact ih _
    · rfl

theorem foldl_step_of_follow {pieces : List String} (h : t.follow place pieces = some q) :
    pieces.foldl step place = q := by
  induction pieces generalizing place with
  | nil => exact Option.some.inj h
  | cons piece pieces ih =>
    rw [follow] at h
    split at h
    · exact ih h
    · cases h

/-- A path that leads somewhere leads to its target. -/
theorem target_of_resolve (h : t.resolve p = some q) : t.target p = q := by
  rw [resolve] at h
  split at h
  · cases h
  · exact foldl_step_of_follow h

/-- A path below a directory leads on from there. -/
theorem resolve_join (h : t.resolve dir = some place)
    (hpath : FilePath.isAbsolute ⟨path⟩ = false) (hfits : (dir.join path).fits) :
    t.resolve (dir.join path) = t.follow place (FilePath.pieces ⟨path⟩) := by
  rw [resolve] at h
  split at h
  · cases h
  next hnot =>
  obtain ⟨hdir, -⟩ := Bool.or_eq_false_iff.mp (Bool.eq_false_iff.mpr hnot)
  obtain ⟨front, hpieces, hfront, habsolute, htext⟩ :=
    FilePath.exists_pieces_join_of_relative hdir hpath
  have horigin : t.origin (dir.join path) = t.origin dir := by
    rw [origin, habsolute, origin]
  have hfollow : t.follow (t.origin dir) front = some place := by
    rcases hfront with heq | heq
    · rw [← heq, h]
    · -- the empty piece at the end does not lead away
      rw [heq, follow_append] at h
      obtain ⟨r, hr, hlast⟩ := Option.bind_eq_some_iff.mp h
      have hplace : step r "" = place := foldl_step_of_follow hlast
      rw [hr, ← hplace]
      rfl
  rw [resolve, htext, hfits, hpieces, horigin, follow_append, hfollow]
  rfl

/-- The same is true of targets. -/
theorem target_join (t : FileTree) (dir : FilePath) (hpath : FilePath.isAbsolute ⟨path⟩ = false) :
    t.target (dir.join path) = (FilePath.pieces ⟨path⟩).foldl step (t.target dir) := by
  cases hdir : dir.text.isEmpty with
  | true =>
    have htext : dir = ⟨""⟩ := congrArg FilePath.mk (String.isEmpty_iff.mp hdir)
    have hjoin : dir.join path = ⟨path⟩ := by
      rw [FilePath.join, hdir, Bool.or_true, if_pos rfl]
    rw [hjoin, htext, target, origin, hpath]
    rfl
  | false =>
    obtain ⟨front, hpieces, hfront, habsolute, -⟩ :=
      FilePath.exists_pieces_join_of_relative hdir hpath
    have horigin : t.origin (dir.join path) = t.origin dir := by
      rw [origin, habsolute, origin]
    have hdir : dir.pieces.foldl step (t.origin dir) = front.foldl step (t.origin dir) := by
      rcases hfront with heq | heq
      · rw [heq]
      · rw [heq, List.foldl_append]
        rfl
    rw [target, target, hpieces, horigin, List.foldl_append, hdir]

/-! ## Ways down -/

theorem texts?_eq_some_iff {way : Place} {names : List String} :
    way.texts? = some names ↔ way = names.map .text := by
  induction way generalizing names with
  | nil => simp [Place.texts?, eq_comm]
  | cons name way ih =>
    cases name with
    | text s =>
      rw [Place.texts?, Option.map_eq_some_iff]
      constructor
      · rintro ⟨rest, hrest, rfl⟩
        rw [ih.mp hrest, List.map_cons]
      · intro h
        obtain ⟨s', rest, rfl, hs, hrest⟩ := List.map_eq_cons_iff.mp h.symm
        obtain rfl := FileName.text.inj hs
        exact ⟨rest, ih.mpr hrest.symm, rfl⟩
    | binary bytes invalid =>
      refine iff_of_false (by simp [Place.texts?]) fun h => ?_
      obtain ⟨s, rest, -, hs, -⟩ := List.map_eq_cons_iff.mp h.symm
      cases hs

theorem eq_append_of_below? : ∀ {dir place way : Place}, below? dir place = some way →
    place = dir ++ way
  | [], _, _, h => Option.some.inj h
  | a :: dir, b :: place, way, h => by
    rw [below?] at h
    split at h
    · next heq => rw [heq, eq_append_of_below? h, List.cons_append]
    · cases h
  | _ :: _, [], _, h => by cases h

/-- There is a file at the end of a way down from a place, and directories on the way to it. -/
structure FileBelow (t : FileTree) (place way : Place) : Prop where
  leadsDown : t.leadsDown place way
  file : ∃ content, t.at? (place ++ way) = some (.file content)

theorem below?_append (place way : Place) : below? place (place ++ way) = some way := by
  induction place with
  | nil => rfl
  | cons a place ih => rw [List.cons_append, below?, if_pos rfl, ih]

theorem mem_entries_of_file {content : FileContent} (h : t.at? place = some (.file content)) :
    (place, .file content) ∈ t.entries := by
  rw [at?] at h
  split at h
  · cases h
  · obtain ⟨before, after, hentries, -⟩ := List.lookup_eq_some_iff.mp h
    simp [hentries]

/-- Walking a directory meets every file below it and nothing else. -/
theorem mem_filesBelow_iff {way : Place} : way ∈ t.filesBelow place ↔ t.FileBelow place way := by
  rw [filesBelow, List.mem_filterMap]
  constructor
  · rintro ⟨e, he, hway⟩
    rw [wayDown?] at hway
    split at hway
    case h_2 => cases hway
    next way' content hbelow hfile =>
    split at hway
    case isFalse => cases hway
    next hdown =>
    obtain rfl := Option.some.inj hway
    rw [eq_append_of_below? hbelow] at hfile
    exact ⟨hdown, content, hfile⟩
  · rintro ⟨hdown, content, hfile⟩
    refine ⟨_, mem_entries_of_file hfile, ?_⟩
    rw [wayDown?, below?_append, hfile]
    exact if_pos hdown

/-- A way that leads down is followed by spelling out its names. -/
theorem follow_of_leadsDown {names : List String} (hnames : ∀ s ∈ names, s ∉ wayless)
    (h : t.leadsDown place (names.map .text)) :
    t.follow place names = some (place ++ names.map .text) := by
  induction names generalizing place with
  | nil => rw [follow, List.map_nil, List.append_nil]
  | cons s names ih =>
    obtain ⟨hdir, hrest⟩ := Bool.and_eq_true_iff.mp h
    rw [follow, if_pos hdir, step_of_notMem (hnames s List.mem_cons_self),
      ih (fun s hs => hnames s (List.mem_cons_of_mem _ hs)) hrest, List.append_assoc,
      List.singleton_append, List.map_cons]

/-! ## What is found -/

/-- A name that a path can spell, if it is text. -/
def Spellable : FileName → Prop
  | .text s => '/' ∉ s.toList ∧ s ∉ wayless
  | .binary _ _ => True

instance : DecidablePred Spellable
  | .text s => inferInstanceAs (Decidable ('/' ∉ s.toList ∧ s ∉ wayless))
  | .binary _ _ => .isTrue trivial

/-- Every name in the tree that is text can be spelled by a path. -/
def Named (t : FileTree) : Prop := ∀ e ∈ t.entries, ∀ name ∈ e.1, Spellable name

instance (t : FileTree) : Decidable t.Named := inferInstanceAs (Decidable (∀ e ∈ t.entries, _))

/-- A file below a directory is found by spelling out the way to it. -/
theorem Named.follow_of_fileBelow (hnamed : t.Named) (hplace : t.at? place = some .directory)
    {names : List String} (h : t.FileBelow place (names.map .text)) :
    t.follow place (FilePath.pieces ⟨"/".intercalate names⟩) = some (place ++ names.map .text) ∧
      FilePath.isAbsolute ⟨"/".intercalate names⟩ = false := by
  obtain ⟨hdown, content, hfile⟩ := h
  have hne : names ≠ [] := by
    rintro rfl
    rw [List.map_nil, List.append_nil, hplace] at hfile
    cases hfile
  have hnames : ∀ s ∈ names, '/' ∉ s.toList ∧ s ∉ wayless := fun s hs =>
    hnamed _ (mem_entries_of_file hfile) (.text s)
      (List.mem_append_right place (List.mem_map_of_mem hs))
  have hpieces : FilePath.pieces ⟨"/".intercalate names⟩ = names :=
    FilePath.pieces_intercalate_of_slash_notMem hne fun s hs => (hnames s hs).1
  constructor
  · rw [hpieces, follow_of_leadsDown (fun s hs => (hnames s hs).2) hdown]
  · rw [← Bool.not_eq_true]
    intro habsolute
    have hempty : "" ∈ names := hpieces ▸ FilePath.mem_pieces_of_isAbsolute habsolute
    exact (hnames "" hempty).2 (by decide)

/-- The files of an input are at its place or below it. -/
theorem Named.exists_place_of_mem_filesOfInput (hnamed : t.Named) {input : FilePath}
    {found : List FilePath} (h : t.filesOfInput input = .ok found) (hp : p ∈ found) :
    ∃ below content, t.resolve p = some (t.target input ++ below) ∧
      t.at? (t.target input ++ below) = some (.file content) := by
  rw [filesOfInput] at h
  split at h
  · cases h
  next place hresolve =>
  rw [target_of_resolve hresolve]
  split at h
  · next content hfile =>
    cases h
    rw [List.mem_singleton.mp hp]
    exact ⟨[], content, by rw [List.append_nil, hresolve], by rw [List.append_nil, hfile]⟩
  · next hdir =>
    cases h
    obtain ⟨hp, hfits⟩ := List.mem_filter.mp hp
    obtain ⟨names, hnames, rfl⟩ := List.mem_map.mp hp
    obtain ⟨way, hway, htexts⟩ := List.mem_filterMap.mp (List.mem_filter.mp hnames).1
    obtain rfl := texts?_eq_some_iff.mp htexts
    have hbelow := mem_filesBelow_iff.mp hway
    obtain ⟨content, hfile⟩ := hbelow.file
    obtain ⟨hfollow, habsolute⟩ := hnamed.follow_of_fileBelow hdir hbelow
    exact ⟨_, content, by rw [resolve_join hresolve habsolute hfits, hfollow], hfile⟩
  · cases h

theorem exists_of_mem_filesOfInputs : ∀ {inputs found : List FilePath},
    t.filesOfInputs inputs = .ok found → p ∈ found →
      ∃ input ∈ inputs, ∃ found, t.filesOfInput input = .ok found ∧ p ∈ found
  | [], found, h, hp => by
    cases h
    cases hp
  | input :: rest, found, h, hp => by
    rw [filesOfInputs] at h
    cases hinput : t.filesOfInput input with
    | error e =>
      rw [hinput] at h
      cases h
    | ok first =>
      cases hrest : t.filesOfInputs rest with
      | error e =>
        rw [hinput, hrest] at h
        cases h
      | ok others =>
        rw [hinput, hrest] at h
        cases h
        rcases List.mem_append.mp hp with hp | hp
        · exact ⟨input, List.mem_cons_self, first, hinput, hp⟩
        · obtain ⟨input', hmem, hfound⟩ := exists_of_mem_filesOfInputs hrest hp
          exact ⟨input', List.mem_cons_of_mem input hmem, hfound⟩

theorem interfaceFiles_eq_ok {inputs files : List FilePath}
    (h : t.interfaceFiles inputs = .ok files) :
    ∃ found, t.filesOfInputs inputs = .ok found ∧ files = FilePath.sorted found := by
  rw [interfaceFiles] at h
  cases hfound : t.filesOfInputs inputs with
  | error e =>
    rw [hfound] at h
    cases h
  | ok found =>
    rw [hfound] at h
    exact ⟨found, rfl, (Except.ok.inj h).symm⟩

theorem interfaceFiles_of_pairwise {inputs found : List FilePath}
    (hfound : t.filesOfInputs inputs = .ok found)
    (h : found.Pairwise (fun p q => compare p q = .lt)) :
    t.interfaceFiles inputs = .ok found := by
  rw [interfaceFiles, hfound]
  exact congrArg _ (FilePath.sorted_eq_self h)

/-- **Every path that is found leads to a file**, at the place of an input or below it. -/
theorem Named.exists_place_of_mem_interfaceFiles (hnamed : t.Named) {inputs files : List FilePath}
    (h : t.interfaceFiles inputs = .ok files) (hp : p ∈ files) :
    ∃ input ∈ inputs, ∃ below content, t.resolve p = some (t.target input ++ below) ∧
      t.at? (t.target input ++ below) = some (.file content) := by
  obtain ⟨found, hfound, rfl⟩ := interfaceFiles_eq_ok h
  obtain ⟨input, hinput, own, hown, hmem⟩ :=
    exists_of_mem_filesOfInputs hfound (FilePath.mem_of_mem_sorted hp)
  exact ⟨input, hinput, hnamed.exists_place_of_mem_filesOfInput hown hmem⟩

theorem pairwise_interfaceFiles {inputs files : List FilePath}
    (h : t.interfaceFiles inputs = .ok files) :
    files.Pairwise fun p q => compare p q = .lt := by
  obtain ⟨found, -, rfl⟩ := interfaceFiles_eq_ok h
  exact FilePath.pairwise_sorted found

end FileTree

end DocSite
