import DocSite.Proofs.FoundFiles
import DocSite.Proofs.RelativeLinks
import Mathlib.Data.List.Sort

/-!
# Which files are found

Inputs may overlap: a directory and a file in it, one directory inside another, or the same input
twice.  Then one file is met several times, each time spelled in another way.  What is found is
still determined by the inputs as a set.  `FileTree.Covers` says which paths an input covers,
without regard to any order, and the files that are found are the covered ones, in the order of
paths and each once.

Two kinds of files are passed over without a word.  A file can have a name that is not text, or lie
below a directory that has; then it has no path at all, and nothing covers it.  And a covered path
can be too long to be followed; then there is a file, but no way to it.
-/

namespace DocSite

namespace FilePath

/-! ## Names -/

/-- A name with something before its last dot has what follows that dot as its extension. -/
theorem extension?_eq_some_iff {name extension : String} :
    extension? name = some extension ↔
      '.' ∉ extension.toList ∧ ∃ stem, stem ≠ "" ∧ name = stem ++ "." ++ extension := by
  constructor
  · intro h
    have hcut := List.takeWhile_append_dropWhile (p := fun c => decide (c ≠ '.'))
      (l := name.toList.reverse)
    have hhead := List.head?_dropWhile_not (fun c => decide (c ≠ '.')) name.toList.reverse
    rw [extension?] at h
    split at h
    case h_1 => cases h
    case h_2 => cases h
    next c d rest hdrop =>
    obtain rfl := Option.some.inj h
    rw [hdrop] at hcut hhead
    have hc : c = '.' := by simpa using hhead
    refine ⟨?_, String.ofList (d :: rest).reverse, by simp, String.toList_inj.mp ?_⟩
    · rw [String.toList_ofList, List.mem_reverse]
      intro hmem
      simpa using List.all_eq_true.mp List.all_takeWhile _ hmem
    · have hname := congrArg List.reverse hcut
      rw [hc, List.reverse_reverse] at hname
      refine hname.symm.trans ?_
      simp
  · rintro ⟨hext, stem, hstem, rfl⟩
    have hplain : ∀ c ∈ extension.toList.reverse, decide (c ≠ '.') = true := by
      intro c hc
      have hne : c ≠ '.' := fun heq => hext (heq ▸ List.mem_reverse.mp hc)
      exact decide_eq_true hne
    have hbackward : (stem ++ "." ++ extension).toList.reverse =
        extension.toList.reverse ++ '.' :: stem.toList.reverse := by
      simp
    obtain ⟨c, cs, hcs⟩ : ∃ c cs, stem.toList.reverse = c :: cs :=
      List.exists_cons_of_ne_nil fun hnil =>
        hstem (String.toList_inj.mp (List.reverse_eq_nil_iff.mp hnil))
    rw [extension?, hbackward, List.dropWhile_append_of_pos hplain,
      List.takeWhile_append_of_pos hplain, hcs]
    simp

end FilePath

namespace FileTree

/-- The names lead to something that is called like an interface file. -/
def InterfaceNamed (names : List String) : Prop :=
  ∃ stem, stem ≠ "" ∧ names.getLast? = some (stem ++ ".json")

theorem hasInterfaceName_iff {names : List String} :
    hasInterfaceName names ↔ InterfaceNamed names := by
  rw [hasInterfaceName, InterfaceNamed]
  cases names.getLast? with
  | none => simp
  | some name =>
    have hjson (stem : String) : stem ++ "." ++ "json" = stem ++ ".json" := String.append_assoc
    simp [FilePath.extension?_eq_some_iff, hjson]

/-! ## Inputs -/

/-- The paths that an input covers: its own if it is a file, and if it is a directory those of the
interface files below it.  A file is covered only if all names on the way to it are text. -/
inductive Covers (t : FileTree) (input : FilePath) : FilePath → Prop
  | file {content : FileContent} (h : t.find? input = some (.file content)) : Covers t input input
  | below {place : Place} {names : List String} (hresolve : t.resolve input = some place)
      (hplace : t.at? place = some .directory) (hfile : t.FileBelow place (names.map .text))
      (hname : InterfaceNamed names) : Covers t input (input.join ("/".intercalate names))

/-- The input is there. -/
def Exists (t : FileTree) (input : FilePath) : Prop := (t.find? input).isSome

instance (t : FileTree) (input : FilePath) : Decidable (t.Exists input) :=
  inferInstanceAs (Decidable (_ = true))

variable {t : FileTree} {input p : FilePath}

theorem fits_of_resolve {place : Place} (h : t.resolve p = some place) : p.fits := by
  rw [resolve] at h
  split at h
  · cases h
  · next hnot =>
    obtain ⟨-, hfits⟩ := Bool.or_eq_false_iff.mp (Bool.eq_false_iff.mpr hnot)
    simpa using hfits

theorem filesOfInput_of_not_exists (h : ¬ t.Exists input) :
    t.filesOfInput input = .error ⟨input⟩ := by
  rw [Exists, Option.not_isSome_iff_eq_none, find?] at h
  rw [filesOfInput]
  cases hresolve : t.resolve input with
  | none => rfl
  | some place =>
    rw [hresolve, Option.bind_some] at h
    simp only [h]

/-- The files of an input are the covered ones, as far as they can be reached. -/
theorem exists_filesOfInput (h : t.Exists input) :
    ∃ found, t.filesOfInput input = .ok found ∧ ∀ p, p ∈ found ↔ t.Covers input p ∧ p.fits := by
  obtain ⟨entry, hentry⟩ := Option.isSome_iff_exists.mp h
  have hfind := hentry
  rw [find?] at hfind
  obtain ⟨place, hresolve, hplace⟩ := Option.bind_eq_some_iff.mp hfind
  rw [filesOfInput, hresolve]
  cases entry with
  | file content =>
    refine ⟨[input], by simp only [hplace], fun p => ?_⟩
    rw [List.mem_singleton]
    constructor
    · rintro rfl
      exact ⟨.file hentry, fits_of_resolve hresolve⟩
    · rintro ⟨hcovers, -⟩
      cases hcovers with
      | file _ => rfl
      | below hresolve' hdir _ _ =>
        rw [Option.some.inj (hresolve'.symm.trans hresolve), hplace] at hdir
        cases hdir
  | directory =>
    refine ⟨_, by simp only [hplace]; rfl, fun p => ?_⟩
    rw [List.mem_filter, List.mem_map]
    constructor
    · rintro ⟨⟨names, hnames, rfl⟩, hfits⟩
      obtain ⟨hways, hname⟩ := List.mem_filter.mp hnames
      obtain ⟨way, hway, htexts⟩ := List.mem_filterMap.mp hways
      obtain rfl := texts?_eq_some_iff.mp htexts
      exact ⟨.below hresolve hplace (mem_filesBelow_iff.mp hway) (hasInterfaceName_iff.mp hname),
        hfits⟩
    · rintro ⟨hcovers, hfits⟩
      refine ⟨?_, hfits⟩
      cases hcovers with
      | file hfile =>
        rw [hentry] at hfile
        cases hfile
      | below hresolve' _ hfile hname =>
        rw [Option.some.inj (hresolve'.symm.trans hresolve)] at hfile
        have hways := List.mem_filterMap.mpr
          ⟨_, mem_filesBelow_iff.mpr hfile, texts?_eq_some_iff.mpr rfl⟩
        exact ⟨_, List.mem_filter.mpr ⟨hways, hasInterfaceName_iff.mpr hname⟩, rfl⟩

theorem exists_filesOfInputs {inputs : List FilePath} (h : ∀ input ∈ inputs, t.Exists input) :
    ∃ found, t.filesOfInputs inputs = .ok found ∧
      ∀ p, p ∈ found ↔ ∃ input ∈ inputs, t.Covers input p ∧ p.fits := by
  induction inputs with
  | nil => exact ⟨[], rfl, by simp⟩
  | cons input rest ih =>
    obtain ⟨hinput, hrest⟩ := List.forall_mem_cons.mp h
    obtain ⟨own, hown, hmem⟩ := exists_filesOfInput hinput
    obtain ⟨others, hothers, hmemOthers⟩ := ih hrest
    refine ⟨own ++ others, by rw [filesOfInputs, hown, hothers]; rfl, fun p => ?_⟩
    rw [List.mem_append, hmem, hmemOthers]
    simp

/-- The first input that is missing stops the search. -/
theorem filesOfInputs_of_missing {before after : List FilePath} {missing : FilePath}
    (hbefore : ∀ input ∈ before, t.Exists input) (hmissing : ¬ t.Exists missing) :
    t.filesOfInputs (before ++ missing :: after) = .error ⟨missing⟩ := by
  induction before with
  | nil => rw [List.nil_append, filesOfInputs, filesOfInput_of_not_exists hmissing]; rfl
  | cons input before ih =>
    obtain ⟨hinput, hrest⟩ := List.forall_mem_cons.mp hbefore
    obtain ⟨own, hown, -⟩ := exists_filesOfInput hinput
    rw [List.cons_append, filesOfInputs, hown, ih hrest]
    rfl

end FileTree

/-! ## Order -/

namespace FilePath

theorem same_iff {p q : FilePath} : p.same q ↔ p.components = q.components := by
  rw [same, decide_eq_true_iff]

/-- What is left out is there in another spelling. -/
theorem exists_mem_dedup : ∀ {paths : List FilePath} {p : FilePath}, p ∈ paths →
    ∃ q ∈ dedup paths, q.components = p.components
  | p :: rest, r, h => by
    rw [dedup]
    rcases List.mem_cons.mp h with rfl | h
    · exact ⟨r, List.mem_cons_self, rfl⟩
    obtain ⟨q, hq, hsame⟩ := exists_mem_dedup h
    cases hrest : dedup rest with
    | nil =>
      rw [hrest] at hq
      cases hq
    | cons first others =>
      rw [hrest] at hq
      by_cases hp : p.same first
      · simp only [if_pos hp]
        rcases List.mem_cons.mp hq with rfl | hq
        · exact ⟨p, List.mem_cons_self, (same_iff.mp hp).trans hsame⟩
        · exact ⟨q, List.mem_cons_of_mem p hq, hsame⟩
      · simp only [if_neg hp]
        exact ⟨q, List.mem_cons_of_mem p hq, hsame⟩

theorem exists_mem_sorted {paths : List FilePath} {p : FilePath} (h : p ∈ paths) :
    ∃ q ∈ sorted paths, q.components = p.components :=
  exists_mem_dedup (List.mem_mergeSort.mpr h)

theorem mem_components_sorted_iff {paths : List FilePath} {cs : List Component} :
    cs ∈ (sorted paths).map components ↔ ∃ p ∈ paths, p.components = cs := by
  rw [List.mem_map]
  constructor
  · rintro ⟨p, hp, rfl⟩
    exact ⟨p, mem_of_mem_sorted hp, rfl⟩
  · rintro ⟨p, hp, rfl⟩
    exact exists_mem_sorted hp

/-- Which paths there are decides how they are sorted, up to their spelling. -/
theorem components_sorted_congr {paths paths' : List FilePath} (h : ∀ p, p ∈ paths ↔ p ∈ paths') :
    (sorted paths).map components = (sorted paths').map components := by
  have hirrefl : Std.Irrefl fun a b : List Component => compare a b = .lt :=
    ⟨fun a hlt => Std.OrientedCmp.not_lt_of_lt hlt hlt⟩
  have hantisymm : Std.Antisymm fun a b : List Component => compare a b = .lt :=
    ⟨fun a b hab hba => absurd hba (Std.OrientedCmp.not_lt_of_lt hab)⟩
  have hsorted (paths : List FilePath) :
      ((sorted paths).map components).Pairwise fun a b => compare a b = .lt :=
    List.pairwise_map.mpr (pairwise_sorted paths)
  refine (hsorted paths).eq_of_mem_iff (hsorted paths') fun cs => ?_
  rw [mem_components_sorted_iff, mem_components_sorted_iff]
  simp only [h]

end FilePath

namespace FileTree

/-- **What is found is what the inputs cover.**  If an input is missing, the search fails and names
the first one that is.  Otherwise it gives paths in strict order, so no two of them are one path up
to spelling.  Up to spelling they are the paths that the inputs cover: the inputs that are files,
and the interface files at any depth below those that are directories, unless a name on the way is
not text or the path is too long to be followed.  Inputs in another order, or repeated, lead to the
same paths up to spelling. -/
theorem interfaceFiles_exact (t : FileTree) (inputs : List FilePath) :
    (∀ before missing after, inputs = before ++ missing :: after →
      (∀ input ∈ before, t.Exists input) → ¬ t.Exists missing →
      t.interfaceFiles inputs = .error ⟨missing⟩) ∧
    ((∀ input ∈ inputs, t.Exists input) →
      ∃ files, t.interfaceFiles inputs = .ok files ∧
        files.Pairwise (fun p q => compare p q = .lt) ∧
        files.Pairwise (fun p q => ¬ p.same q) ∧
        (∀ p, (∃ q ∈ files, q.same p) ↔
          ∃ input ∈ inputs, ∃ q, t.Covers input q ∧ q.fits ∧ q.same p) ∧
        ∀ inputs', (∀ input, input ∈ inputs' ↔ input ∈ inputs) →
          ∃ files', t.interfaceFiles inputs' = .ok files' ∧
            files'.map FilePath.components = files.map FilePath.components) := by
  constructor
  · rintro before missing after rfl hbefore hmissing
    rw [interfaceFiles, filesOfInputs_of_missing hbefore hmissing]
    rfl
  · intro hexist
    obtain ⟨found, hfound, hmem⟩ := exists_filesOfInputs hexist
    have hsorted := FilePath.pairwise_sorted found
    refine ⟨FilePath.sorted found, by rw [interfaceFiles, hfound]; rfl, hsorted, ?_, ?_, ?_⟩
    · refine hsorted.imp fun hlt hsame => ?_
      rw [FilePath.compare_eq_eq_iff.mpr hsame] at hlt
      cases hlt
    · intro p
      constructor
      · rintro ⟨q, hq, hsame⟩
        obtain ⟨input, hinput, hcovers, hfits⟩ := (hmem q).mp (FilePath.mem_of_mem_sorted hq)
        exact ⟨input, hinput, q, hcovers, hfits, hsame⟩
      · rintro ⟨input, hinput, q, hcovers, hfits, hsame⟩
        have hq : q ∈ found := (hmem q).mpr ⟨input, hinput, hcovers, hfits⟩
        obtain ⟨r, hr, heq⟩ := FilePath.exists_mem_sorted hq
        exact ⟨r, hr, FilePath.same_iff.mpr (heq.trans (FilePath.same_iff.mp hsame))⟩
    · intro inputs' hinputs
      obtain ⟨found', hfound', hmem'⟩ :=
        exists_filesOfInputs (fun input h => hexist input ((hinputs input).mp h))
      refine ⟨FilePath.sorted found', by rw [interfaceFiles, hfound']; rfl, ?_⟩
      refine FilePath.components_sorted_congr fun p => ?_
      rw [hmem, hmem']
      simp only [hinputs]

/-- The ending of an interface file after a byte that no text has. -/
def sampleName : FileName := .binary ⟨#[255, 46, 106, 115, 111, 110]⟩ (by decide)

/-- A file that two inputs cover, each in its own spelling, one that is not called like an interface
file, and two whose paths are not text. -/
def sampleOverlap : FileTree :=
  ⟨["w"], [(["w", "in"], .directory), (["w", "in", "sub"], .directory),
    (["w", "in", "sub", "b.json"], .file (.text "")), (["w", "in", "notes"], .file (.text "")),
    ([.text "w", .text "in", sampleName], .directory),
    ([.text "w", .text "in", sampleName, .text "c.json"], .file (.text "")),
    ([.text "w", .text "in", .text "sub", sampleName], .file (.text ""))]⟩

theorem found_sampleOverlap :
    let inputs : List FilePath := [⟨"in//sub"⟩, ⟨"in/notes"⟩, ⟨"in"⟩, ⟨"in"⟩]
    (∀ input ∈ inputs, sampleOverlap.Exists input) ∧ ¬ sampleOverlap.Exists ⟨"out"⟩ ∧
      sampleOverlap.interfaceFiles (inputs ++ [⟨"out"⟩]) = .error ⟨⟨"out"⟩⟩ ∧
      sampleOverlap.FileBelow ["w", "in"] [sampleName, .text "c.json"] ∧
      sampleOverlap.FileBelow ["w", "in"] [.text "sub", sampleName] ∧
      ∃ files, sampleOverlap.interfaceFiles inputs = .ok files ∧
        files.Pairwise (fun p q => ¬ p.same q) ∧ (∃ q ∈ files, q.same ⟨"in/sub//b.json"⟩) ∧
        (∃ q ∈ files, q.same ⟨"in/notes"⟩) ∧
        ∀ q ∈ files, q.same ⟨"in/sub/b.json"⟩ ∨ q.same ⟨"in/notes"⟩ := by
  intro inputs
  have hexist : ∀ input ∈ inputs, sampleOverlap.Exists input := by decide
  have hmissing : ¬ sampleOverlap.Exists ⟨"out"⟩ := by decide
  obtain ⟨files, hfiles, -, hapart, hfound, -⟩ :=
    (interfaceFiles_exact sampleOverlap inputs).2 hexist
  refine ⟨hexist, hmissing, ?_, mem_filesBelow_iff.mp (by decide),
    mem_filesBelow_iff.mp (by decide), files, hfiles, hapart, ?_, ?_, ?_⟩
  · exact (interfaceFiles_exact sampleOverlap _).1 inputs _ [] rfl hexist hmissing
  · have hbelow : sampleOverlap.FileBelow ["w", "in"] (["sub", "b.json"].map .text) :=
      mem_filesBelow_iff.mp (by decide)
    have hresolve : sampleOverlap.resolve ⟨"in"⟩ = some [.text "w", .text "in"] := by decide
    have hname : InterfaceNamed ["sub", "b.json"] := ⟨"b", by decide, by decide⟩
    have hcovers := Covers.below hresolve rfl hbelow hname
    exact (hfound _).mpr ⟨⟨"in"⟩, by decide, _, hcovers, by decide, by decide⟩
  · have hcovers : sampleOverlap.Covers ⟨"in/notes"⟩ ⟨"in/notes"⟩ := .file rfl
    exact (hfound _).mpr ⟨⟨"in/notes"⟩, by decide, _, hcovers, by decide, by decide⟩
  · obtain ⟨found, hall, rfl⟩ := interfaceFiles_eq_ok hfiles
    obtain rfl : [⟨"in//sub/b.json"⟩, ⟨"in/notes"⟩, ⟨"in/sub/b.json"⟩, ⟨"in/sub/b.json"⟩] = found :=
      Except.ok.inj hall
    have hspelled : ∀ q ∈ [FilePath.mk "in//sub/b.json", ⟨"in/notes"⟩, ⟨"in/sub/b.json"⟩,
        ⟨"in/sub/b.json"⟩], q.same ⟨"in/sub/b.json"⟩ ∨ q.same ⟨"in/notes"⟩ := by decide
    exact fun q hq => hspelled q (FilePath.mem_of_mem_sorted hq)

/-! ## A path that is too long -/

/-- A directory with one interface file in it. -/
def sampleDeep : FileTree :=
  ⟨["w"], [(["w", "d"], .directory), (["w", "d", "a.json"], .file (.text ""))]⟩

/-- That directory, spelled with many dots. -/
def dotted (n : Nat) : FilePath := ⟨descend (List.replicate n ".") ++ "d"⟩

theorem utf8ByteSize_descend_dots (n : Nat) :
    (descend (List.replicate n ".")).utf8ByteSize = 2 * n := by
  induction n with
  | zero => rfl
  | succ n ih =>
    rw [List.replicate_succ, descend, String.utf8ByteSize_append, ih]
    have hdot : ("." ++ "/").utf8ByteSize = 2 := by decide
    omega

theorem utf8ByteSize_dotted (n : Nat) : (dotted n).text.utf8ByteSize = 2 * n + 1 := by
  rw [dotted, String.utf8ByteSize_append, utf8ByteSize_descend_dots]
  rfl

theorem pieces_dotted (n : Nat) : (dotted n).pieces = List.replicate n "." ++ ["d"] := by
  have hdots : ∀ s ∈ List.replicate n ".", '/' ∉ s.toList := by
    intro s hs
    rw [List.eq_of_mem_replicate hs]
    decide
  rw [dotted, pieces_descend hdots, FilePath.pieces_of_slash_notMem (by decide)]

theorem isEmpty_dotted (n : Nat) : (dotted n).text.isEmpty = false := by
  rw [dotted, ← Bool.not_eq_true, String.isEmpty_iff, String.append_eq_empty_iff]
  simp

theorem follow_dots (t : FileTree) {place : Place} (h : t.isDirectoryAt place) (n : Nat) :
    t.follow place (List.replicate n ".") = some place := by
  induction n with
  | zero => rfl
  | succ n ih => rw [List.replicate_succ, follow, if_pos h]; exact ih

theorem resolve_dotted {n : Nat} (h : 2 * n + 1 < FilePath.sizeLimit) :
    sampleDeep.resolve (dotted n) = some [.text "w", .text "d"] := by
  have hfits : (dotted n).fits = true := by
    rw [FilePath.fits, utf8ByteSize_dotted]
    exact decide_eq_true h
  have hrelative : (dotted n).isAbsolute = false := by
    cases n with
    | zero => rfl
    | succ n => simp [dotted, FilePath.isAbsolute, List.replicate_succ, descend]
  have horigin : sampleDeep.origin (dotted n) = ["w"] := by
    rw [origin, hrelative]
    rfl
  rw [resolve, isEmpty_dotted, hfits, horigin, pieces_dotted, follow_append, follow_dots _ rfl]
  rfl

theorem filesBelow_sampleDeep : sampleDeep.filesBelow ["w", "d"] = [[.text "a.json"]] := rfl

theorem covers_dotted {n : Nat} (h : 2 * n + 1 < FilePath.sizeLimit) :
    sampleDeep.Covers (dotted n) ((dotted n).join "a.json") := by
  have hfile : sampleDeep.FileBelow ["w", "d"] (["a.json"].map .text) :=
    mem_filesBelow_iff.mp (by rw [filesBelow_sampleDeep]; exact List.mem_singleton_self _)
  have hname : InterfaceNamed ["a.json"] := ⟨"a", by decide, by decide⟩
  exact .below (resolve_dotted h) rfl hfile hname

/-- The path of the file has seven more characters than that of the directory. -/
theorem fits_dotted_join {n : Nat} (h : FilePath.sizeLimit ≤ 2 * n + 8) :
    ((dotted n).join "a.json").fits = false := by
  have hjoin : (dotted n).join "a.json" = ⟨(dotted n).text ++ "/" ++ "a.json"⟩ := by
    have hrelative : FilePath.isAbsolute ⟨"a.json"⟩ = false := by decide
    have hlast : (dotted n).text.toList.getLast? ≠ some '/' := by simp [dotted]
    rw [FilePath.join, hrelative, isEmpty_dotted, Bool.or_false, if_neg Bool.false_ne_true,
      if_neg hlast]
  have hslash : ("/" : String).utf8ByteSize = 1 := by decide
  have hname : ("a.json" : String).utf8ByteSize = 6 := by decide
  rw [FilePath.fits, hjoin, String.utf8ByteSize_append, String.utf8ByteSize_append,
    utf8ByteSize_dotted, hslash, hname, decide_eq_false_iff_not]
  omega

theorem interfaceFiles_dotted {n : Nat} (h : 2 * n + 1 < FilePath.sizeLimit)
    (hlong : FilePath.sizeLimit ≤ 2 * n + 8) : sampleDeep.interfaceFiles [dotted n] = .ok [] := by
  have hplace : sampleDeep.at? ["w", "d"] = some .directory := rfl
  have hjson : hasInterfaceName ["a.json"] = true := by decide
  have hname : "/".intercalate ["a.json"] = "a.json" := by decide
  have hfiles : sampleDeep.filesOfInput (dotted n) = .ok [] := by
    rw [filesOfInput, resolve_dotted h]
    have hways : [[.text "a.json"]].filterMap Place.texts? = [["a.json"]] := rfl
    simp only [hplace, filesBelow_sampleDeep, hways, List.filter_cons, hjson, if_true,
      List.filter_nil, List.map_cons, List.map_nil, hname, fits_dotted_join hlong]
    rfl
  refine interfaceFiles_of_pairwise ?_ .nil
  rw [filesOfInputs, hfiles]
  rfl

/-- A file whose path is too long for the input it lies below. -/
theorem sampleDeep_passed_over :
    sampleDeep.Exists (dotted 2045) ∧
      sampleDeep.Covers (dotted 2045) ((dotted 2045).join "a.json") ∧
      sampleDeep.interfaceFiles [dotted 2045] = .ok [] := by
  have hlimit : 2 * 2045 + 1 < FilePath.sizeLimit := by decide
  refine ⟨?_, covers_dotted hlimit, interfaceFiles_dotted hlimit (by decide)⟩
  rw [Exists, find?, resolve_dotted hlimit]
  rfl

end FileTree

end DocSite
