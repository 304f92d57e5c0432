import DocSite.Files.Tree
import Mathlib.Data.List.Nodup

/-!
# Storing files

A path is a row of pieces, and following it means to take one step for each of them.  So two things
are known of a path before anything is stored: the places it leads through, `FileTree.way`, and the
place where it ends, `FileTree.target`.

Storing a file changes the tree at these places only.  On the way there are directories afterwards,
and at the end there is the file (`FileTree.Stores`).  Whether it can be stored at all depends on
the same places (`FileTree.Storable`): no file may stand in the way, and no directory at its end.
If it cannot be stored, some of the directories may have been made all the same; but whatever was
there before is still there (`FileTree.Keeps`).

Several files are stored one after another.  A directory is never replaced, and a file is replaced
only by another file with the same target; so files with different targets are all there in the
end (`FileTree.intact_storeAll`).  If moreover none of them lies on the way to another, then they
can be stored together as soon as each of them can be stored alone (`FileTree.complete_storeAll`).
-/

namespace DocSite

/-! ## Pieces of a path -/

namespace FilePath

theorem split_ne_nil (text : List Char) : split text ≠ [] := by
  cases text with
  | nil => simp [split]
  | cons c text =>
    rw [split]
    split
    · simp
    · split <;> simp

theorem split_append_slash (a b : List Char) : split (a ++ '/' :: b) = split a ++ split b := by
  induction a with
  | nil => simp [split]
  | cons c a ih =>
    rw [List.cons_append, split, split, ih]
    split
    · rfl
    · cases h : split a with
      | nil => exact absurd h (split_ne_nil a)
      | cons piece rest => rfl

theorem split_of_slash_notMem {text : List Char} (h : '/' ∉ text) : split text = [text] := by
  induction text with
  | nil => rfl
  | cons c text ih =>
    have hc : c ≠ '/' := fun hc => h (hc ▸ List.mem_cons_self)
    rw [split, if_neg hc, ih (List.not_mem_of_not_mem_cons h)]

theorem pieces_ne_nil (p : FilePath) : p.pieces ≠ [] :=
  fun h => split_ne_nil _ (List.map_eq_nil_iff.mp h)

theorem pieces_append_slash (a b : String) :
    pieces ⟨a ++ "/" ++ b⟩ = pieces ⟨a⟩ ++ pieces ⟨b⟩ := by
  simp [pieces, split_append_slash]

theorem pieces_of_slash_notMem {s : String} (h : '/' ∉ s.toList) : pieces ⟨s⟩ = [s] := by
  simp [pieces, split_of_slash_notMem h]

/-- The pieces of a text are those of the texts it is put together from. -/
theorem pieces_intercalate {l : List String} (h : l ≠ []) :
    pieces ⟨"/".intercalate l⟩ = l.flatMap fun s => pieces ⟨s⟩ := by
  induction l with
  | nil => exact absurd rfl h
  | cons s rest ih =>
    by_cases hrest : rest = []
    · simp [hrest]
    · rw [String.intercalate_cons_of_ne_nil hrest, pieces_append_slash, ih hrest,
        List.flatMap_cons]

/-- Texts without slashes are read back. -/
theorem pieces_intercalate_of_slash_notMem {l : List String} (hne : l ≠ [])
    (h : ∀ s ∈ l, '/' ∉ s.toList) : pieces ⟨"/".intercalate l⟩ = l := by
  rw [pieces_intercalate hne, List.flatMap_congr fun s hs => pieces_of_slash_notMem (h s hs)]
  simp

/-- Whether a path is absolute can be seen before its second piece begins. -/
theorem isAbsolute_append_slash (a b : String) :
    isAbsolute ⟨a ++ "/" ++ b⟩ = isAbsolute ⟨a ++ "/"⟩ := by
  cases h : a.toList <;> simp [isAbsolute, h]

/-- Paths that begin in the same way still do so below a directory. -/
theorem exists_join_append_slash (dir : FilePath) (a : String) :
    ∃ front, ∀ b, dir.join (a ++ "/" ++ b) = ⟨front ++ "/" ++ b⟩ := by
  simp only [join, isAbsolute_append_slash]
  split
  · exact ⟨a, fun b => rfl⟩
  · split
    · exact ⟨dir.text ++ a, fun b => by simp only [String.append_assoc]⟩
    · exact ⟨dir.text ++ "/" ++ a, fun b => by simp only [String.append_assoc]⟩

/-- A plain name is the last piece of its path below a directory. -/
theorem exists_pieces_join (dir : FilePath) {name : String} (h : '/' ∉ name.toList) :
    ∃ front, (dir.join name).pieces = front ++ [name] := by
  rw [join]
  split
  · exact ⟨[], pieces_of_slash_notMem h⟩
  · split
    · next hlast =>
      obtain ⟨front, hfront⟩ := List.getLast?_eq_some_iff.mp hlast
      have htext : dir.text = String.ofList front ++ "/" :=
        String.toList_inj.mp (by simpa using hfront)
      refine ⟨pieces ⟨String.ofList front⟩, ?_⟩
      rw [htext, pieces_append_slash, pieces_of_slash_notMem h]
    · exact ⟨dir.pieces, by rw [pieces_append_slash, pieces_of_slash_notMem h]⟩

theorem fits_of_isWritable {p : FilePath} (h : p.isWritable) : p.fits :=
  (Bool.and_eq_true_iff.mp h).1

end FilePath

namespace FileTree

variable {kept : Place → Prop} {t t' t'' : FileTree} {place q : Place} {p : FilePath}
  {content : FileContent}

/-! ## One place -/

theorem lookup_put_self (entries : List (Place × FileEntry)) (place : Place) (entry : FileEntry) :
    (entries.filter (fun e => e.1 ≠ place) ++ [(place, entry)]).lookup place = some entry := by
  have hnone : (entries.filter fun e => e.1 ≠ place).lookup place = none := by
    rw [List.lookup_eq_none_iff]
    intro e he
    have hne : e.1 ≠ place := by simpa using (List.mem_filter.mp he).2
    exact bne_iff_ne.mpr hne.symm
  rw [List.lookup_append, hnone, Option.none_or, List.lookup_cons, beq_self_eq_true]

theorem lookup_put_other (entries : List (Place × FileEntry)) {place q : Place} (entry : FileEntry)
    (h : q ≠ place) :
    (entries.filter (fun e => e.1 ≠ place) ++ [(place, entry)]).lookup q = entries.lookup q := by
  have hq : (q == place) = false := beq_eq_false_iff_ne.mpr h
  induction entries with
  | nil => rw [List.filter_nil, List.nil_append, List.lookup_cons, hq]
  | cons e entries ih =>
    obtain ⟨k, entry'⟩ := e
    by_cases hk : k = place
    · rw [List.filter_cons_of_neg (by simpa using hk), ih, List.lookup_cons, hk, hq]
    · rw [List.filter_cons_of_pos (by simpa using hk), List.cons_append, List.lookup_cons,
        List.lookup_cons, ih]

/-- What is put somewhere is there, unless the place is above the working directory. -/
theorem at?_put_self {entry : FileEntry} (h : t.at? place ≠ some .directory) :
    (t.put place entry).at? place = some entry := by
  have hworking : place.isPrefixOf t.working ≠ true := by
    intro hinitial
    exact h (by rw [at?, if_pos hinitial])
  rw [at?, put, if_neg hworking, lookup_put_self]

/-- Everywhere else there is what there was. -/
theorem at?_put_other {entry : FileEntry} (h : q ≠ place) :
    (t.put place entry).at? q = t.at? q := by
  rw [at?, at?, put, lookup_put_other t.entries entry h]

theorem at?_working (t : FileTree) : t.at? t.working = some .directory := by
  rw [at?, if_pos (by simp)]

theorem at?_origin (t : FileTree) (p : FilePath) : t.at? (t.origin p) = some .directory := by
  rw [origin]
  split
  · rfl
  · exact t.at?_working

/-! ## What is kept -/

/-- Every directory is still there, and so is every file at a place that is to be kept. -/
structure Keeps (kept : Place → Prop) (t t' : FileTree) : Prop where
  working : t'.working = t.working
  directory : ∀ q, t.at? q = some .directory → t'.at? q = some .directory
  file : ∀ q, kept q → ∀ content, t.at? q = some (.file content) → t'.at? q = some (.file content)

theorem Keeps.refl (t : FileTree) : t.Keeps kept t := ⟨rfl, fun _ h => h, fun _ _ _ h => h⟩

theorem Keeps.trans (h : t.Keeps kept t') (h' : t'.Keeps kept t'') : t.Keeps kept t'' where
  working := h'.working.trans h.working
  directory q hq := h'.directory q (h.directory q hq)
  file q hkept content hq := h'.file q hkept content (h.file q hkept content hq)

/-! ## Directories on the way -/

/-- The places that some pieces lead to, one after another. -/
def steps (place : Place) : List String → List Place
  | [] => []
  | piece :: rest => step place piece :: steps (step place piece) rest

theorem steps_append (place : Place) (a b : List String) :
    steps place (a ++ b) = steps place a ++ steps (a.foldl step place) b := by
  induction a generalizing place with
  | nil => rfl
  | cons piece a ih => rw [List.cons_append, steps, steps, ih, List.cons_append, List.foldl_cons]

/-- The pieces that do not name anything: they lead nowhere or back. -/
def wayless : List String := ["", ".", ".."]

theorem step_of_notMem {piece : String} (h : piece ∉ wayless) (place : Place) :
    step place piece = place ++ [.text piece] := by
  rw [step] <;> simp_all [wayless]

/-- Names lead straight down. -/
theorem foldl_step_of_notMem {names : List String} (h : ∀ s ∈ names, s ∉ wayless) (place : Place) :
    names.foldl step place = place ++ names.map .text := by
  induction names generalizing place with
  | nil => simp
  | cons s names ih =>
    rw [List.foldl_cons, step_of_notMem (h s List.mem_cons_self),
      ih fun s hs => h s (List.mem_cons_of_mem _ hs), List.append_assoc, List.singleton_append,
      List.map_cons]

theorem exists_of_mem_steps {names : List String} (h : ∀ s ∈ names, s ∉ wayless) {place q : Place}
    (hq : q ∈ steps place names) :
    ∃ row : List String, q = place ++ row.map .text ∧ ∀ s ∈ row, s ∈ names := by
  induction names generalizing place with
  | nil => cases hq
  | cons s names ih =>
    rw [steps, step_of_notMem (h s List.mem_cons_self)] at hq
    rcases List.mem_cons.mp hq with rfl | hq
    · exact ⟨[s], rfl, by simp⟩
    · obtain ⟨row, rfl, hrow⟩ := ih (fun s hs => h s (List.mem_cons_of_mem _ hs)) hq
      exact ⟨s :: row, by simp, by simpa using fun s hs => .inr (hrow s hs)⟩

/-- A place that is a directory or can become one. -/
def Open (t : FileTree) (place : Place) : Prop :=
  t.at? place = some .directory ∨ (t.at? place = none ∧ (place.getLast?.getD "").fits)

/-- There are directories at the given places, and nothing else is changed. -/
structure Adds (t : FileTree) (places : List Place) (t' : FileTree) : Prop where
  working : t'.working = t.working
  at?_of_mem : ∀ q ∈ places, t'.at? q = some .directory
  at?_of_notMem : ∀ q ∉ places, t'.at? q = t.at? q

theorem Adds.append {places places' : List Place} (h : t.Adds places t')
    (h' : t'.Adds places' t'') : t.Adds (places ++ places') t'' where
  working := h'.working.trans h.working
  at?_of_mem q hq := by
    by_cases hmem : q ∈ places'
    · exact h'.at?_of_mem q hmem
    · have hfirst : q ∈ places := (List.mem_append.mp hq).resolve_right hmem
      rw [h'.at?_of_notMem q hmem, h.at?_of_mem q hfirst]
  at?_of_notMem q hq := by
    obtain ⟨hfirst, hrest⟩ := not_or.mp (mt List.mem_append.mpr hq)
    rw [h'.at?_of_notMem q hrest, h.at?_of_notMem q hfirst]

/-- Making open places directories opens no other place and closes none. -/
theorem Adds.open_iff {places : List Place} (h : t.Adds places t')
    (hopen : ∀ q ∈ places, t.Open q) : t'.Open q ↔ t.Open q := by
  by_cases hq : q ∈ places
  · exact iff_of_true (.inl (h.at?_of_mem q hq)) (hopen q hq)
  · rw [Open, Open, h.at?_of_notMem q hq]

/-- Making open places directories keeps all files. -/
theorem Adds.keeps {places : List Place} (h : t.Adds places t') (hopen : ∀ q ∈ places, t.Open q) :
    t.Keeps kept t' where
  working := h.working
  directory q hq := by
    by_cases hmem : q ∈ places
    · exact h.at?_of_mem q hmem
    · rw [h.at?_of_notMem q hmem, hq]
  file q _ content hq := by
    have hmem : q ∉ places := by
      intro hmem
      rcases hopen q hmem with hdir | ⟨hnone, -⟩
      · simp [hq] at hdir
      · simp [hq] at hnone
    rw [h.at?_of_notMem q hmem, hq]

theorem makeDirectory_eq_some (h : t.makeDirectory place = some t') :
    t.Open place ∧ t.Adds [place] t' := by
  rw [makeDirectory] at h
  split at h
  · next hdir =>
    obtain rfl := Option.some.inj h
    refine ⟨.inl hdir, rfl, fun q hq => ?_, fun q _ => rfl⟩
    rw [List.mem_singleton.mp hq, hdir]
  · cases h
  · next hnone =>
    split at h
    · next hname =>
      obtain rfl := Option.some.inj h
      refine ⟨.inr ⟨hnone, hname⟩, rfl, fun q hq => ?_, fun q hq => ?_⟩
      · rw [List.mem_singleton.mp hq, at?_put_self (by simp [hnone])]
      · exact at?_put_other fun heq => hq (List.mem_singleton.mpr heq)
    · cases h

theorem exists_makeDirectory (h : t.Open place) : ∃ t', t.makeDirectory place = some t' := by
  rw [makeDirectory]
  rcases h with hdir | ⟨hnone, hname⟩
  · rw [hdir]
    exact ⟨t, rfl⟩
  · rw [hnone]
    exact ⟨_, if_pos hname⟩

/-- Directories are made at all places on the way, and the way ends where the pieces lead to. -/
theorem makeDirectories_eq_some {dir : Place} : ∀ {pieces : List String} {t : FileTree}
    {place : Place}, t.makeDirectories place pieces = (t', some dir) →
      dir = pieces.foldl step place ∧ (∀ q ∈ steps place pieces, t.Open q) ∧
        t.Adds (steps place pieces) t'
  | [], t, place, h => by
    obtain ⟨rfl, hdir⟩ := Prod.mk.inj h
    exact ⟨(Option.some.inj hdir).symm, by simp [steps], rfl, by simp [steps], fun q _ => rfl⟩
  | piece :: rest, t, place, h => by
    rw [makeDirectories] at h
    split at h
    · cases h
    · next t₁ hfirst =>
      obtain ⟨hopen, hadds⟩ := makeDirectory_eq_some hfirst
      obtain ⟨hdir, hopens, hrest⟩ := makeDirectories_eq_some h
      have hfirsts : ∀ q ∈ [step place piece], t.Open q := by simpa using hopen
      refine ⟨hdir, fun q hq => ?_, hadds.append hrest⟩
      rcases List.mem_cons.mp hq with rfl | hq
      · exact hopen
      · exact (hadds.open_iff hfirsts).mp (hopens q hq)

theorem exists_makeDirectories : ∀ {pieces : List String} {t : FileTree} {place : Place},
    (∀ q ∈ steps place pieces, t.Open q) →
      ∃ t', t.makeDirectories place pieces = (t', some (pieces.foldl step place))
  | [], t, place, _ => ⟨t, rfl⟩
  | piece :: rest, t, place, h => by
    obtain ⟨t₁, hfirst⟩ := exists_makeDirectory (h _ List.mem_cons_self)
    obtain ⟨hopen, hadds⟩ := makeDirectory_eq_some hfirst
    have hfirsts : ∀ q ∈ [step place piece], t.Open q := by simpa using hopen
    have hrests : ∀ q ∈ steps (step place piece) rest, t₁.Open q := fun q hq =>
      (hadds.open_iff hfirsts).mpr (h q (List.mem_cons_of_mem _ hq))
    obtain ⟨t₂, hrest⟩ := exists_makeDirectories hrests
    exact ⟨t₂, by rw [makeDirectories, hfirst]; exact hrest⟩

/-- However far it gets, nothing is lost. -/
theorem keeps_makeDirectories (t : FileTree) (place : Place) (pieces : List String) :
    t.Keeps kept (t.makeDirectories place pieces).1 := by
  induction pieces generalizing t place with
  | nil => exact .refl t
  | cons piece rest ih =>
    rw [makeDirectories]
    split
    · exact .refl t
    · next t₁ hfirst =>
      obtain ⟨hopen, hadds⟩ := makeDirectory_eq_some hfirst
      exact (hadds.keeps (by simpa using hopen)).trans (ih t₁ _)

theorem keeps_ensureDirectory (t : FileTree) (p : FilePath) :
    t.Keeps kept (t.ensureDirectory p).1 := by
  rw [ensureDirectory]
  split
  · exact .refl t
  split
  · exact .refl t
  split
  · exact t.keeps_makeDirectories _ _
  · exact t.keeps_makeDirectories _ _

/-- Pieces can be followed through directories. -/
theorem follow_eq_some : ∀ {pieces : List String} {place : Place},
    t.at? place = some .directory → (∀ q ∈ steps place pieces.dropLast, t.at? q = some .directory) →
      t.follow place pieces = some (pieces.foldl step place)
  | [], _, _, _ => rfl
  | [piece], place, hplace, _ => by
    rw [follow, isDirectoryAt, hplace]
    rfl
  | piece :: next :: rest, place, hplace, h => by
    rw [follow, isDirectoryAt, hplace, List.foldl_cons]
    rw [List.dropLast_cons_of_ne_nil (by simp)] at h
    exact follow_eq_some (h _ List.mem_cons_self) fun q hq => h q (List.mem_cons_of_mem _ hq)

/-! ## One file -/

/-- The places on the way to a file. -/
def way (t : FileTree) (p : FilePath) : List Place := steps (t.origin p) p.pieces.dropLast

/-- The place that a path leads to, if the way is open. -/
def target (t : FileTree) (p : FilePath) : Place := p.pieces.foldl step (t.origin p)

theorem way_congr (h : t'.working = t.working) (p : FilePath) : t'.way p = t.way p := by
  rw [way, way, origin, origin, h]

theorem target_congr (h : t'.working = t.working) (p : FilePath) : t'.target p = t.target p := by
  rw [target, target, origin, origin, h]

theorem target_eq_step (t : FileTree) (p : FilePath) :
    t.target p = step (p.pieces.dropLast.foldl step (t.origin p)) (p.pieces.getLast?.getD "") := by
  rw [target, List.getLast?_eq_some_getLast p.pieces_ne_nil, Option.getD_some]
  nth_rewrite 1 [← List.dropLast_append_getLast p.pieces_ne_nil]
  rw [List.foldl_append]
  rfl

/-- What it takes to store a file: the way is open, and no directory is where the file shall be. -/
structure Storable (t : FileTree) (p : FilePath) : Prop where
  writable_parent : p.parent.isWritable
  writable : p.isWritable
  open_of_mem : ∀ q ∈ t.way p, t.Open q
  target_notMem : t.target p ∉ t.way p
  at?_target : t.at? (t.target p) ≠ some .directory
  name : ((t.target p).getLast?.getD "").fits

/-- What storing a file does: there are directories on the way and the file is at its end, and
nothing else is changed. -/
structure Stores (t : FileTree) (p : FilePath) (content : FileContent) (t' : FileTree) : Prop where
  storable : t.Storable p
  working : t'.working = t.working
  at?_of_mem : ∀ q ∈ t.way p, t'.at? q = some .directory
  at?_target : t'.at? (t.target p) = some (.file content)
  at?_other : ∀ q ∉ t.way p, q ≠ t.target p → t'.at? q = t.at? q

theorem writeFile_eq_some (h : t.writeFile place content = some t') :
    t.at? place ≠ some .directory ∧ (place.getLast?.getD "").fits ∧
      t' = t.put place (.file content) := by
  rw [writeFile] at h
  split at h
  · cases h
  next hfree =>
  split at h
  · next hname => exact ⟨hfree, hname, (Option.some.inj h).symm⟩
  · cases h

theorem store_eq_true (h : t.store p content = (t', true)) : t.Stores p content t' := by
  rw [store] at h
  split at h
  case isFalse => cases h
  next hparent =>
  split at h
  · cases h
  next t₁ dir hmake =>
  obtain ⟨rfl, hopen, hadds⟩ := makeDirectories_eq_some hmake
  dsimp only at h
  rw [← target_eq_step] at h
  split at h
  · cases h
  next t₂ hdone =>
  obtain ⟨rfl, -⟩ := Prod.mk.inj h
  obtain ⟨hwritable, hwrite⟩ := Option.ite_none_right_eq_some.mp hdone
  obtain ⟨hfree, hname, rfl⟩ := writeFile_eq_some hwrite
  have hmem : t.target p ∉ t.way p := fun hmem => hfree (hadds.at?_of_mem _ hmem)
  have hat : t.at? (t.target p) ≠ some .directory := by
    rw [← hadds.at?_of_notMem _ hmem]
    exact hfree
  refine ⟨⟨hparent, hwritable, hopen, hmem, hat, hname⟩, hadds.working, fun q hq => ?_,
    at?_put_self hfree, fun q hq hne => ?_⟩
  · have hne : q ≠ t.target p := fun heq => hmem (heq ▸ hq)
    rw [at?_put_other hne, hadds.at?_of_mem q hq]
  · rw [at?_put_other hne, hadds.at?_of_notMem q hq]

theorem Storable.of_store (h : (t.store p content).2 = true) : t.Storable p :=
  (store_eq_true (Prod.ext rfl h)).storable

theorem Storable.exists_store (h : t.Storable p) (content : FileContent) :
    ∃ t', t.store p content = (t', true) := by
  obtain ⟨t₁, hmake⟩ := exists_makeDirectories h.open_of_mem
  obtain ⟨-, -, hadds⟩ := makeDirectories_eq_some hmake
  have hfree : t₁.at? (t.target p) ≠ some .directory := by
    rw [hadds.at?_of_notMem _ h.target_notMem]
    exact h.at?_target
  have hwrite : t₁.writeFile (t.target p) content = some (t₁.put (t.target p) (.file content)) := by
    rw [writeFile]
    split
    · next hdir => exact absurd hdir hfree
    · exact if_pos h.name
  refine ⟨t₁.put (t.target p) (.file content), ?_⟩
  rw [store, if_pos h.writable_parent, hmake]
  simp only [← target_eq_step, hwrite, if_pos h.writable]

/-- Whether a file can be stored or not, what is not at its place is kept. -/
theorem keeps_store (h : ¬ kept (t.target p)) (content : FileContent) :
    t.Keeps kept (t.store p content).1 := by
  have hmade : t.Keeps kept (t.makeDirectories (t.origin p) p.pieces.dropLast).1 :=
    t.keeps_makeDirectories _ _
  rw [store]
  split
  case isFalse => exact .refl t
  split
  · next t₁ hmake =>
    rw [hmake] at hmade
    exact hmade
  next t₁ dir hmake =>
  rw [hmake] at hmade
  obtain ⟨rfl, -, -⟩ := makeDirectories_eq_some hmake
  dsimp only
  rw [← target_eq_step]
  split
  · exact hmade
  next t₂ hdone =>
  obtain ⟨-, hwrite⟩ := Option.ite_none_right_eq_some.mp hdone
  obtain ⟨hfree, -, rfl⟩ := writeFile_eq_some hwrite
  refine hmade.trans ⟨rfl, fun q hq => ?_, fun q hkept other hq => ?_⟩
  · have hne : q ≠ t.target p := fun heq => hfree (heq ▸ hq)
    rw [at?_put_other hne, hq]
  · have hne : q ≠ t.target p := fun heq => h (heq ▸ hkept)
    rw [at?_put_other hne, hq]

/-- The empty path leads to the working directory, where no file can be. -/
theorem Storable.text_ne (h : t.Storable p) : p.text.isEmpty = false := by
  by_contra hempty
  have htext : p = ⟨""⟩ := by
    obtain ⟨text⟩ := p
    exact congrArg FilePath.mk (String.isEmpty_iff.mp (by simpa using hempty))
  have htarget : t.target p = t.working := by
    rw [htext]
    rfl
  exact h.at?_target (htarget ▸ t.at?_working)

/-- The place of a stored file can be found by its path. -/
theorem Stores.resolve (h : t.Stores p content t')
    (hdir : ∀ q ∈ t.way p, t''.at? q = some .directory) (hworking : t''.working = t.working) :
    t''.resolve p = some (t.target p) := by
  have hfits : p.fits = true := FilePath.fits_of_isWritable h.storable.writable
  rw [FileTree.resolve, h.storable.text_ne, hfits]
  have hway : ∀ q ∈ t''.way p, t''.at? q = some .directory := way_congr hworking p ▸ hdir
  rw [← target_congr hworking]
  exact follow_eq_some (t''.at?_origin p) hway

/-! ## Several files -/

/-- All of these files are there, each at a place of its own. -/
def Intact (t : FileTree) (files : List (FilePath × String)) : Prop :=
  ∃ places : List Place, places.Nodup ∧
    List.Forall₂ (fun f place => t.resolve f.1 = some place ∧
      t.at? place = some (.file (.text f.2))) files places

variable {f : FilePath × String} {files : List (FilePath × String)}

theorem Intact.nodup_resolve (h : t.Intact files) : (files.map fun f => t.resolve f.1).Nodup := by
  obtain ⟨places, hnodup, hplaces⟩ := h
  have heq : files.map (fun f => t.resolve f.1) = places.map some := by
    rw [← List.forall₂_eq_eq_eq, List.forall₂_map_left_iff, List.forall₂_map_right_iff]
    exact hplaces.imp fun _ _ hplace => hplace.1
  rw [heq]
  exact hnodup.map fun _ _ h => Option.some.inj h

/-- What became of storing some files: the tree, the files that were stored, and whether these are
all. -/
structure Stored where
  tree : FileTree
  written : List (FilePath × String)
  complete : Bool

/-- Stores some texts one after another, up to the first that cannot be stored. -/
def storeAll (t : FileTree) : List (FilePath × String) → Stored
  | [] => ⟨t, [], true⟩
  | f :: rest =>
    match t.store f.1 (.text f.2) with
    | (t', false) => ⟨t', [], false⟩
    | (t', true) =>
      let after := t'.storeAll rest
      { after with written := f :: after.written }

theorem storeAll_cons_of_true (h : t.store f.1 (.text f.2) = (t', true))
    (files : List (FilePath × String)) :
    t.storeAll (f :: files) =
      ⟨(t'.storeAll files).tree, f :: (t'.storeAll files).written,
        (t'.storeAll files).complete⟩ := by
  rw [storeAll, h]

theorem storeAll_cons_of_false (h : t.store f.1 (.text f.2) = (t', false))
    (files : List (FilePath × String)) : t.storeAll (f :: files) = ⟨t', [], false⟩ := by
  rw [storeAll, h]

/-- The first file is stored or no file is. -/
theorem storeAll_cons (t : FileTree) (f : FilePath × String) (files : List (FilePath × String)) :
    (∃ t', t.store f.1 (.text f.2) = (t', true) ∧ t.storeAll (f :: files) =
        ⟨(t'.storeAll files).tree, f :: (t'.storeAll files).written,
          (t'.storeAll files).complete⟩) ∨
      ∃ t', t.store f.1 (.text f.2) = (t', false) ∧ t.storeAll (f :: files) = ⟨t', [], false⟩ := by
  cases h : t.store f.1 (.text f.2) with
  | mk t' done =>
    cases done with
    | false => exact .inr ⟨t', rfl, storeAll_cons_of_false h files⟩
    | true => exact .inl ⟨t', rfl, storeAll_cons_of_true h files⟩

/-- More files are stored only if all before them were. -/
theorem storeAll_append (t : FileTree) (a b : List (FilePath × String)) :
    t.storeAll (a ++ b) =
      if (t.storeAll a).complete then
        let after := (t.storeAll a).tree.storeAll b
        ⟨after.tree, (t.storeAll a).written ++ after.written, after.complete⟩
      else t.storeAll a := by
  induction a generalizing t with
  | nil => rfl
  | cons f a ih =>
    rw [List.cons_append]
    rcases t.storeAll_cons f a with ⟨t', hstore, heq⟩ | ⟨t', hstore, heq⟩
    · rw [storeAll_cons_of_true hstore, ih, heq]
      split <;> rfl
    · rw [storeAll_cons_of_false hstore, heq]
      rfl

/-- What is stored is the beginning of what was to be stored, and all of it if all went well. -/
theorem written_storeAll (t : FileTree) (files : List (FilePath × String)) :
    (t.storeAll files).written <+: files ∧
      ((t.storeAll files).complete = true → (t.storeAll files).written = files) := by
  induction files generalizing t with
  | nil => exact ⟨List.prefix_rfl, fun _ => rfl⟩
  | cons f files ih =>
    rcases t.storeAll_cons f files with ⟨t', -, heq⟩ | ⟨t', -, heq⟩
    · obtain ⟨hinitial, hcomplete⟩ := ih t'
      rw [heq]
      exact ⟨List.cons_prefix_cons.mpr ⟨rfl, hinitial⟩, fun h => congrArg _ (hcomplete h)⟩
    · rw [heq]
      exact ⟨List.nil_prefix, fun h => by cases h⟩

/-- Directories are kept, and files at whose place no other is stored. -/
theorem keeps_storeAll (h : ∀ f ∈ files, ¬ kept (t.target f.1)) :
    t.Keeps kept (t.storeAll files).tree := by
  induction files generalizing t with
  | nil => exact .refl t
  | cons f files ih =>
    have hfirst := keeps_store (h f List.mem_cons_self) (.text f.2)
    rcases t.storeAll_cons f files with ⟨t', hstore, heq⟩ | ⟨t', hstore, heq⟩
    · rw [hstore] at hfirst
      rw [heq]
      refine hfirst.trans (ih fun g hg => ?_)
      rw [target_congr hfirst.working]
      exact h g (List.mem_cons_of_mem f hg)
    · rw [hstore] at hfirst
      rw [heq]
      exact hfirst

/-- Every file that is stored can be found afterwards, if no two have one target. -/
theorem forall_written_storeAll (hnodup : (files.map fun f => t.target f.1).Nodup) :
    ∀ f ∈ (t.storeAll files).written,
      (t.storeAll files).tree.resolve f.1 = some (t.target f.1) ∧
        (t.storeAll files).tree.at? (t.target f.1) = some (.file (.text f.2)) := by
  induction files generalizing t with
  | nil => intro f hf; cases hf
  | cons f files ih =>
    rcases t.storeAll_cons f files with ⟨t', hstore, heq⟩ | ⟨t', -, heq⟩
    · have hstores := store_eq_true hstore
      obtain ⟨hfirst, hrest⟩ := List.nodup_cons.mp hnodup
      rw [heq]
      intro g hg
      rcases List.mem_cons.mp hg with rfl | hg
      · have hkeeps : t'.Keeps (fun q => q = t.target g.1) (t'.storeAll files).tree := by
          refine keeps_storeAll fun f hf htarget => hfirst ?_
          rw [target_congr hstores.working] at htarget
          exact List.mem_map.mpr ⟨f, hf, htarget⟩
        refine ⟨hstores.resolve (fun q hq => ?_) (hkeeps.working.trans hstores.working), ?_⟩
        · exact hkeeps.directory q (hstores.at?_of_mem q hq)
        · exact hkeeps.file _ rfl _ hstores.at?_target
      · rw [← target_congr hstores.working]
        refine ih ?_ g hg
        simpa only [target_congr hstores.working] using hrest
    · rw [heq]
      intro g hg
      cases hg

/-- **Files with different targets do not replace each other.** -/
theorem intact_storeAll (hnodup : (files.map fun f => t.target f.1).Nodup) :
    (t.storeAll files).tree.Intact (t.storeAll files).written := by
  have hsublist := (t.written_storeAll files).1.sublist.map fun f => t.target f.1
  have hwritten := List.Nodup.sublist hsublist hnodup
  refine ⟨_, hwritten, ?_⟩
  rw [List.forall₂_map_right_iff]
  exact List.forall₂_same.mpr (forall_written_storeAll hnodup)

/-- A file that could be stored before another can still be stored after it, if neither is on the
way to the other. -/
theorem Stores.storable_other {p' : FilePath} (h : t.Stores p content t') (h' : t.Storable p')
    (hway : t.target p ∉ t.way p') (hway' : t.target p' ∉ t.way p) : t'.Storable p' := by
  refine ⟨h'.writable_parent, h'.writable, ?_, ?_, ?_, ?_⟩
  · rw [way_congr h.working]
    intro q hq
    by_cases hmem : q ∈ t.way p
    · exact .inl (h.at?_of_mem q hmem)
    · have hne : q ≠ t.target p := fun heq => hway (heq ▸ hq)
      rw [Open, h.at?_other q hmem hne]
      exact h'.open_of_mem q hq
  · rw [way_congr h.working, target_congr h.working]
    exact h'.target_notMem
  · rw [target_congr h.working]
    by_cases heq : t.target p' = t.target p
    · simp [heq, h.at?_target]
    · rw [h.at?_other _ hway' heq]
      exact h'.at?_target
  · rw [target_congr h.working]
    exact h'.name

/-- **Files that can be stored alone can be stored together**, if none is on the way to another. -/
theorem complete_storeAll (h : ∀ f ∈ files, t.Storable f.1)
    (hway : ∀ f ∈ files, ∀ g ∈ files, t.target f.1 ∉ t.way g.1) :
    (t.storeAll files).complete = true := by
  induction files generalizing t with
  | nil => rfl
  | cons f files ih =>
    have hmem : ∀ g ∈ files, g ∈ f :: files := fun g => List.mem_cons_of_mem f
    obtain ⟨t', hstore⟩ := (h f List.mem_cons_self).exists_store (.text f.2)
    have hstores := store_eq_true hstore
    rw [storeAll_cons_of_true hstore]
    refine ih (fun g hg => ?_) fun g hg g' hg' => ?_
    · exact hstores.storable_other (h g (hmem g hg)) (hway f List.mem_cons_self g (hmem g hg))
        (hway g (hmem g hg) f List.mem_cons_self)
    · rw [way_congr hstores.working, target_congr hstores.working]
      exact hway g (hmem g hg) g' (hmem g' hg')

end FileTree

end DocSite
