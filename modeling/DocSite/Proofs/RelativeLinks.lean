import DocSite.Proofs.Storage
import DocSite.Site.Href
import Mathlib.Data.List.Induction

/-!
# Where relative links lead

A link is made from two page paths: it climbs out of one and descends into the other.  What it means
is decided by whoever follows it, and a browser knows neither path.  It cuts the link at its first
`#`, splits what stands before it at the slashes, and goes from directory to directory.  The last
component names no directory; it is `index.html`, or nothing where addresses name directories.

`Href.resolve` follows a link in that way.  It may fail, since a link could climb above the top of
the site.  The links of a site never do, and every link leads to the page and the anchor that it was
made for.  It does not climb further than it has to, either: the steps up are those that leave what
the two pages have in common.

A step up is a component `..` of its own.  The letters `../` can stand in a link without being a
step, for a module may be called `a..`, and an anchor is any text.  Where neither is the case,
counting letters and counting steps come to the same.
-/

namespace DocSite

/-! ## Following a link -/

namespace Href

/-- A link cut at its first `#`: what stands before it, and what stands behind it. -/
def cut : List Char → List Char × Option (List Char)
  | [] => ([], none)
  | c :: cs => if c = '#' then ([], some cs) else (c :: (cut cs).1, (cut cs).2)

/-- What a link consists of before its `#`, between the slashes. -/
def components (href : String) : List String :=
  FilePath.pieces ⟨String.ofList (cut href.toList).1⟩

/-- The anchor that a link names. -/
def anchor (href : String) : Option String := (cut href.toList).2.map String.ofList

/-- The components that name directories: a last one that is empty or names the file of a page is
left out. -/
def directories (components : List String) : List String :=
  if components.getLast? = some "index.html" ∨ components.getLast? = some "" then
    components.dropLast
  else components

/-- One component further.  There is no way up from the top. -/
def step (dir : PagePath) (component : String) : Option PagePath :=
  if component = "." then some dir
  else if component = ".." then if dir = [] then none else some dir.dropLast
  else some (dir ++ [component])

/-- Where some components lead. -/
def follow (dir : PagePath) : List String → Option PagePath
  | [] => some dir
  | component :: rest => (step dir component).bind fun dir => follow dir rest

/-- The page and the anchor that a link leads to from a page.  The directory of a page has the path
of the page. -/
def resolve (source : PagePath) (href : String) : Option (PagePath × Option String) :=
  (follow source (directories (components href))).map fun page => (page, anchor href)

/-- At how many places of a text the letters `../` begin. -/
def climbs : List Char → Nat
  | [] => 0
  | c :: cs => if ['.', '.', '/'] <+: c :: cs then climbs cs + 1 else climbs cs

/-! ### Cutting -/

theorem cut_of_notMem {path : List Char} (h : '#' ∉ path) : cut path = (path, none) := by
  induction path with
  | nil => rfl
  | cons c path ih =>
    have hc : c ≠ '#' := (List.ne_of_not_mem_cons h).symm
    rw [cut, if_neg hc, ih (List.not_mem_of_not_mem_cons h)]

theorem cut_append {path : List Char} (h : '#' ∉ path) (rest : List Char) :
    cut (path ++ '#' :: rest) = (path, some rest) := by
  induction path with
  | nil => rfl
  | cons c path ih =>
    have hc : c ≠ '#' := (List.ne_of_not_mem_cons h).symm
    rw [List.cons_append, cut, if_neg hc, ih (List.not_mem_of_not_mem_cons h)]

variable {path : String}

theorem cut_fragmentPart (h : '#' ∉ path.toList) (anchor : Option String) :
    cut (path ++ fragmentPart anchor).toList = (path.toList, anchor.map String.toList) := by
  cases anchor with
  | none => rw [fragmentPart, String.append_empty, cut_of_notMem h, Option.map_none]
  | some a =>
    rw [fragmentPart, String.toList_append, String.toList_append, Option.map_some]
    exact cut_append h a.toList

theorem components_fragmentPart (h : '#' ∉ path.toList) (anchor : Option String) :
    components (path ++ fragmentPart anchor) = FilePath.pieces ⟨path⟩ := by
  rw [components, cut_fragmentPart h, String.ofList_toList]

theorem anchor_fragmentPart (h : '#' ∉ path.toList) (anchor : Option String) :
    Href.anchor (path ++ fragmentPart anchor) = anchor := by
  rw [Href.anchor, cut_fragmentPart h]
  cases anchor <;> simp

/-- What stands before the `#` decides about the page, and what stands behind it is the anchor. -/
theorem resolve_fragmentPart (h : '#' ∉ path.toList) (source : PagePath) (anchor : Option String) :
    resolve source (path ++ fragmentPart anchor) =
      (follow source (directories (FilePath.pieces ⟨path⟩))).map fun page => (page, anchor) := by
  rw [resolve, components_fragmentPart h, anchor_fragmentPart h]

/-! ### Following -/

theorem follow_append (dir : PagePath) (a b : List String) :
    follow dir (a ++ b) = (follow dir a).bind fun dir => follow dir b := by
  induction a generalizing dir with
  | nil => rfl
  | cons component a ih =>
    rw [List.cons_append, follow, follow, Option.bind_assoc]
    exact Option.bind_congr fun dir _ => ih dir

/-- Steps up take segments off the end. -/
theorem follow_replicate (dir rest : PagePath) :
    follow (dir ++ rest) (List.replicate rest.length "..") = some dir := by
  induction rest using List.reverseRecOn with
  | nil => rw [List.append_nil]; rfl
  | append_singleton rest segment ih =>
    have hstep : step (dir ++ (rest ++ [segment])) ".." = some (dir ++ rest) := by
      rw [← List.append_assoc]
      simp [step]
    rw [List.length_append, List.length_singleton, List.replicate_succ, follow, hstep]
    exact ih

/-- Names are put at the end. -/
theorem follow_names {names : List String} (h : ∀ s ∈ names, s ≠ "." ∧ s ≠ "..") (dir : PagePath) :
    follow dir names = some (dir ++ names) := by
  induction names generalizing dir with
  | nil => rw [List.append_nil]; rfl
  | cons s names ih =>
    obtain ⟨hdot, hdots⟩ := h s List.mem_cons_self
    rw [follow, step, if_neg hdot, if_neg hdots, Option.bind_some,
      ih fun s hs => h s (List.mem_cons_of_mem _ hs), List.append_assoc, List.singleton_append]

theorem directories_indexFile (components : List String) (semantic : Bool) :
    directories (components ++ [PageKind.indexFile semantic]) = components := by
  rw [directories, List.getLast?_concat, List.dropLast_concat, if_pos]
  cases semantic <;> simp [PageKind.indexFile]

end Href

/-! ## What two paths have in common -/

theorem take_commonLength (a b : PagePath) :
    a.take (commonLength a b) = b.take (commonLength a b) := by
  induction a generalizing b with
  | nil => cases b <;> rfl
  | cons x a ih =>
    cases b with
    | nil => rfl
    | cons y b =>
      rw [commonLength]
      split
      · next h => rw [List.take_succ_cons, List.take_succ_cons, ih b, h]
      · rfl

/-- No path that both paths begin with is longer. -/
theorem length_le_commonLength {common a b : PagePath} (ha : common <+: a) (hb : common <+: b) :
    common.length ≤ commonLength a b := by
  induction common generalizing a b with
  | nil => exact Nat.zero_le _
  | cons x common ih =>
    obtain ⟨a, rfl⟩ := ha
    obtain ⟨b, rfl⟩ := hb
    rw [List.cons_append, List.cons_append, commonLength, if_pos rfl]
    exact Nat.succ_le_succ (ih (List.prefix_append _ _) (List.prefix_append _ _))

theorem commonLength_le_left (a b : PagePath) : commonLength a b ≤ a.length := by
  induction a generalizing b with
  | nil => cases b <;> exact Nat.le_refl 0
  | cons x a ih =>
    cases b with
    | nil => exact Nat.zero_le _
    | cons y b =>
      rw [commonLength]
      split
      · exact Nat.succ_le_succ (ih b)
      · exact Nat.zero_le _

/-- The beginning that two paths share, and what is left of each. -/
theorem exists_common (a b : PagePath) :
    ∃ common up down, a = common ++ up ∧ b = common ++ down ∧ commonLength a b = common.length ∧
      up.length = a.length - commonLength a b ∧ down = b.drop (commonLength a b) := by
  refine ⟨a.take (commonLength a b), a.drop (commonLength a b), b.drop (commonLength a b), ?_, ?_,
    ?_, List.length_drop, rfl⟩
  · rw [List.take_append_drop]
  · rw [take_commonLength, List.take_append_drop]
  · rw [List.length_take, Nat.min_eq_left (commonLength_le_left a b)]

/-! ## The text of a link -/

/-- What a page can be called without getting in the way of links. -/
structure IsSegment (s : String) : Prop where
  ne_empty : s ≠ ""
  slash_notMem : '/' ∉ s.toList
  hash_notMem : '#' ∉ s.toList
  ne_dot : s ≠ "."
  ne_dots : s ≠ ".."

instance (s : String) : Decidable (IsSegment s) :=
  decidable_of_iff (s ≠ "" ∧ '/' ∉ s.toList ∧ '#' ∉ s.toList ∧ s ≠ "." ∧ s ≠ "..")
    ⟨fun ⟨h₁, h₂, h₃, h₄, h₅⟩ => ⟨h₁, h₂, h₃, h₄, h₅⟩,
      fun ⟨h₁, h₂, h₃, h₄, h₅⟩ => ⟨h₁, h₂, h₃, h₄, h₅⟩⟩

theorem pieces_climb (n : Nat) (rest : String) :
    FilePath.pieces ⟨climb n ++ rest⟩ = List.replicate n ".." ++ FilePath.pieces ⟨rest⟩ := by
  induction n with
  | zero => rw [climb, String.empty_append]; rfl
  | succ n ih =>
    have htext : climb (n + 1) ++ rest = ".." ++ "/" ++ (climb n ++ rest) := by
      rw [climb, String.append_assoc]
      rfl
    rw [htext, FilePath.pieces_append_slash, ih, FilePath.pieces_of_slash_notMem (by decide),
      List.replicate_succ, List.cons_append, List.cons_append, List.nil_append]

theorem pieces_descend {page : PagePath} (h : ∀ s ∈ page, '/' ∉ s.toList) (rest : String) :
    FilePath.pieces ⟨descend page ++ rest⟩ = page ++ FilePath.pieces ⟨rest⟩ := by
  induction page with
  | nil => rw [descend, String.empty_append, List.nil_append]
  | cons s page ih =>
    rw [descend, String.append_assoc, FilePath.pieces_append_slash,
      FilePath.pieces_of_slash_notMem (h s List.mem_cons_self),
      ih fun s hs => h s (List.mem_cons_of_mem _ hs), List.singleton_append, List.cons_append]

theorem hash_notMem_climb (n : Nat) : '#' ∉ (climb n).toList := by
  induction n with
  | zero => simp [climb]
  | succ n ih => simp [climb, ih]

theorem hash_notMem_descend {page : PagePath} (h : ∀ s ∈ page, '#' ∉ s.toList) :
    '#' ∉ (descend page).toList := by
  induction page with
  | nil => simp [descend]
  | cons s page ih =>
    have hs := h s List.mem_cons_self
    have hrest := ih fun s hs => h s (List.mem_cons_of_mem _ hs)
    simp [descend, hs, hrest]

theorem hash_notMem_indexFile (semantic : Bool) : '#' ∉ (PageKind.indexFile semantic).toList := by
  cases semantic <;> decide

/-- The part of a link to another page that stands before its anchor. -/
def hrefPath (up : Nat) (down : PagePath) (semantic : Bool) : String :=
  climb up ++ descend down ++ PageKind.indexFile semantic

section

variable {down : PagePath} (up : Nat) (semantic : Bool)

theorem hash_notMem_hrefPath (h : ∀ s ∈ down, IsSegment s) :
    '#' ∉ (hrefPath up down semantic).toList := by
  rw [hrefPath, String.toList_append, String.toList_append, List.mem_append, List.mem_append,
    not_or, not_or]
  exact ⟨⟨hash_notMem_climb up, hash_notMem_descend fun s hs => (h s hs).hash_notMem⟩,
    hash_notMem_indexFile semantic⟩

theorem pieces_hrefPath (h : ∀ s ∈ down, IsSegment s) :
    FilePath.pieces ⟨hrefPath up down semantic⟩ =
      List.replicate up ".." ++ down ++ [PageKind.indexFile semantic] := by
  have hindex : '/' ∉ (PageKind.indexFile semantic).toList := by cases semantic <;> decide
  rw [hrefPath, String.append_assoc, pieces_climb, pieces_descend fun s hs => (h s hs).slash_notMem,
    FilePath.pieces_of_slash_notMem hindex, List.append_assoc]

theorem resolve_hrefPath {common above : PagePath} (h : ∀ s ∈ down, IsSegment s)
    (anchor : Option String) :
    Href.resolve (common ++ above) (hrefPath above.length down semantic ++ fragmentPart anchor) =
      some (common ++ down, anchor) := by
  have hnames : ∀ s ∈ down, s ≠ "." ∧ s ≠ ".." := fun s hs => ⟨(h s hs).ne_dot, (h s hs).ne_dots⟩
  rw [Href.resolve_fragmentPart (hash_notMem_hrefPath _ semantic h), pieces_hrefPath _ semantic h,
    Href.directories_indexFile, Href.follow_append, Href.follow_replicate, Option.bind_some,
    Href.follow_names hnames, Option.map_some]

theorem count_hrefPath (h : ∀ s ∈ down, IsSegment s) (anchor : Option String) :
    (Href.components (hrefPath up down semantic ++ fragmentPart anchor)).count ".." = up := by
  have hdown : down.count ".." = 0 :=
    List.count_eq_zero_of_not_mem fun hmem => (h _ hmem).ne_dots rfl
  have hindex : [PageKind.indexFile semantic].count ".." = 0 := by cases semantic <;> decide
  rw [Href.components_fragmentPart (hash_notMem_hrefPath up semantic h),
    pieces_hrefPath up semantic h, List.count_append, List.count_append, List.count_replicate_self,
    hdown, hindex, Nat.add_zero]

end

/-! ## Letters that look like steps -/

namespace Href

/-- The letters `../` begin in a text followed by a slash only if it ends in two dots. -/
theorem climbs_append_slash {s : List Char} (hslash : '/' ∉ s) (hdots : ¬ ['.', '.'] <:+ s)
    (rest : List Char) : climbs (s ++ '/' :: rest) = climbs rest := by
  induction s with
  | nil =>
    rw [List.nil_append, climbs, if_neg]
    simp
  | cons c s ih =>
    have htail := ih (List.not_mem_of_not_mem_cons hslash)
      fun hsuffix => hdots (hsuffix.trans (List.suffix_cons c s))
    rw [List.cons_append, climbs, if_neg, htail]
    rcases s with _ | ⟨d, _ | ⟨e, s⟩⟩
    · simp
    · -- the text is two letters long
      intro hinitial
      obtain ⟨rfl, rfl⟩ : '.' = c ∧ '.' = d := by simpa using hinitial
      exact hdots List.suffix_rfl
    · intro hinitial
      obtain ⟨-, -, rfl⟩ : '.' = c ∧ '.' = d ∧ '/' = e := by simpa using hinitial
      simp at hslash

theorem climbs_climb (n : Nat) (rest : List Char) :
    climbs ((climb n).toList ++ rest) = n + climbs rest := by
  induction n with
  | zero => simp [climb]
  | succ n ih =>
    have htext :
        (climb (n + 1)).toList ++ rest = '.' :: '.' :: '/' :: ((climb n).toList ++ rest) := by
      simp [climb]
    rw [htext, climbs, climbs, climbs, if_pos (by simp), if_neg (by simp), if_neg (by simp), ih]
    omega

theorem climbs_descend {page : PagePath} (h : ∀ s ∈ page, '/' ∉ s.toList)
    (hdots : ∀ s ∈ page, ¬ ['.', '.'] <:+ s.toList) (rest : List Char) :
    climbs ((descend page).toList ++ rest) = climbs rest := by
  induction page with
  | nil => rfl
  | cons s page ih =>
    have htext : (descend (s :: page)).toList ++ rest =
        s.toList ++ '/' :: ((descend page).toList ++ rest) := by
      simp [descend]
    rw [htext, climbs_append_slash (h s List.mem_cons_self) (hdots s List.mem_cons_self),
      ih (fun s hs => h s (List.mem_cons_of_mem _ hs))
        fun s hs => hdots s (List.mem_cons_of_mem _ hs)]

/-- The end of a link has no step in it, apart from what its anchor holds. -/
theorem climbs_indexFile (semantic : Bool) {anchor : Option String}
    (h : ∀ a ∈ anchor, climbs a.toList = 0) :
    climbs ((PageKind.indexFile semantic).toList ++ (fragmentPart anchor).toList) = 0 := by
  cases anchor with
  | none => cases semantic <;> decide
  | some a =>
    have ha := h a rfl
    cases semantic <;> simp [PageKind.indexFile, fragmentPart, climbs, ha]

end Href

/-! ## Links of a site -/

/-- A path that two paths begin with, and no longer one does. -/
structure IsLongestCommon (common a b : PagePath) : Prop where
  left : common <+: a
  right : common <+: b
  longest : ∀ l, l <+: a → l <+: b → l.length ≤ common.length

namespace IsLongestCommon

variable {common up down : PagePath}

/-- Paths that are equal have all in common. -/
theorem eq_nil (h : IsLongestCommon common (common ++ up) (common ++ down))
    (heq : common ++ up = common ++ down) : up = [] ∧ down = [] := by
  have hlength := h.longest _ List.prefix_rfl (heq ▸ List.prefix_rfl)
  have hup : up = [] := List.length_eq_zero_iff.mp (by rw [List.length_append] at hlength; omega)
  exact ⟨hup, by simpa [hup] using heq⟩

end IsLongestCommon

/-- A link is an anchor alone only if it does not move and names no file. -/
theorem hrefPath_eq_hash_iff {up : Nat} {down : PagePath} (h : ∀ s ∈ down, IsSegment s)
    {semantic : Bool} {anchor : Option String} {a : String} :
    hrefPath up down semantic ++ fragmentPart anchor = "#" ++ a ↔
      up = 0 ∧ down = [] ∧ semantic = true ∧ anchor = some a := by
  constructor
  · intro heq
    have hcut := Href.cut_fragmentPart (hash_notMem_hrefPath up semantic h) anchor
    have hhash : Href.cut ("#" ++ a).toList = ([], some a.toList) := by
      rw [String.toList_append]
      exact Href.cut_append List.not_mem_nil a.toList
    rw [heq, hhash] at hcut
    obtain ⟨hpath, hanchor⟩ := Prod.mk.inj hcut
    have hempty : hrefPath up down semantic = "" := String.toList_inj.mp hpath.symm
    have hpieces := pieces_hrefPath up semantic h
    rw [hempty, FilePath.pieces_of_slash_notMem (by decide)] at hpieces
    have hlength := congrArg List.length hpieces
    rw [List.length_append, List.length_append, List.length_replicate] at hlength
    simp only [List.length_singleton] at hlength
    obtain ⟨rfl, hdown⟩ : up = 0 ∧ down.length = 0 := by omega
    obtain rfl := List.length_eq_zero_iff.mp hdown
    refine ⟨rfl, rfl, ?_, ?_⟩
    · cases semantic with
      | true => rfl
      | false => simp [PageKind.indexFile] at hpieces
    · cases anchor with
      | none => cases hanchor
      | some b => exact congrArg some (String.toList_inj.mp (Option.some.inj hanchor).symm)
  · rintro ⟨rfl, rfl, rfl, rfl⟩
    simp [hrefPath, climb, descend, PageKind.indexFile, fragmentPart]

namespace Location

variable {source : PagePath} {target : Location}

/-- Whether the link to a location ends in a directory: an anchor on the same page needs no file. -/
def linksDirectory (source : PagePath) (semantic : Bool) (target : Location) : Bool :=
  if source = target.page then target.anchor.isSome else semantic

/-- A link is put together from what the paths do not share, unless it has to lead to its own page
and name neither a file nor an anchor. -/
theorem exists_hrefFrom (source : PagePath) (target : Location) (semantic : Bool) :
    (source = target.page ∧ target.anchor = none ∧ target.hrefFrom source semantic = "./") ∨
      ∃ common up down, source = common ++ up ∧ target.page = common ++ down ∧
        IsLongestCommon common source target.page ∧
        target.hrefFrom source semantic =
          hrefPath up.length down (target.linksDirectory source semantic) ++
            fragmentPart target.anchor := by
  obtain ⟨common, up, down, hsource, hpage, hlength, hup, hdown⟩ := exists_common source target.page
  have hcommon : IsLongestCommon common source target.page :=
    ⟨⟨up, hsource.symm⟩, ⟨down, hpage.symm⟩,
      fun l hl hl' => hlength ▸ length_le_commonLength hl hl'⟩
  by_cases hsame : source = target.page
  · obtain ⟨rfl, rfl⟩ : up = [] ∧ down = [] := by
      rw [hsource, hpage] at hcommon hsame
      exact hcommon.eq_nil hsame
    cases hanchor : target.anchor with
    | some a =>
      refine .inr ⟨common, [], [], hsource, hpage, hcommon, ?_⟩
      rw [hrefFrom, if_pos hsame, linksDirectory, if_pos hsame, hanchor]
      exact String.empty_append.symm
    | none =>
      cases semantic with
      | true => exact .inl ⟨hsame, rfl, by rw [hrefFrom, if_pos hsame, hanchor]; rfl⟩
      | false =>
        refine .inr ⟨common, [], [], hsource, hpage, hcommon, ?_⟩
        rw [hrefFrom, if_pos hsame, linksDirectory, if_pos hsame, hanchor]
        rfl
  · refine .inr ⟨common, up, down, hsource, hpage, hcommon, ?_⟩
    rw [hrefFrom, if_neg hsame, linksDirectory, if_neg hsame, hup, hdown]
    rfl

/-- **A link leads to what it was made for, and climbs no further than it has to.**  Followed from
the page that carries it, it ends at the page and the anchor of its target.  It goes up once for
each segment that the two pages do not share; in letters, too, unless a segment that ends in dots or
an anchor brings in more of them.  And it is an anchor alone exactly if it stays on its page and has
an anchor to go to. -/
theorem hrefFrom_leads_to_target (source : PagePath) (target : Location) (semantic : Bool)
    (h : ∀ s ∈ target.page, IsSegment s) :
    Href.resolve source (target.hrefFrom source semantic) = some (target.page, target.anchor) ∧
      (∃ common, IsLongestCommon common source target.page ∧
        (Href.components (target.hrefFrom source semantic)).count ".." =
          source.length - common.length ∧
        ((∀ s ∈ target.page, ¬ ['.', '.'] <:+ s.toList) →
          (∀ a ∈ target.anchor, Href.climbs a.toList = 0) →
          Href.climbs (target.hrefFrom source semantic).toList = source.length - common.length)) ∧
      ∀ a, target.hrefFrom source semantic = "#" ++ a ↔
        source = target.page ∧ target.anchor = some a := by
  rcases exists_hrefFrom source target semantic with
    ⟨rfl, hanchor, hhref⟩ | ⟨common, up, down, rfl, hpage, hcommon, hhref⟩
  · -- the link to the page itself
    rw [hhref, hanchor]
    refine ⟨rfl, ⟨target.page, ⟨List.prefix_rfl, List.prefix_rfl, fun l hl _ => hl.length_le⟩,
      ?_, ?_⟩, fun a => iff_of_false ?_ ?_⟩
    · rw [Nat.sub_self]
      decide
    · rw [Nat.sub_self]
      exact fun _ _ => by decide
    · intro heq
      simpa using congrArg String.toList heq
    · exact fun hnone => by cases hnone.2
  · have hdown : ∀ s ∈ down, IsSegment s := fun s hs =>
      h s (hpage ▸ List.mem_append_right _ hs)
    have hlength : (common ++ up).length - common.length = up.length := by simp
    rw [hhref]
    refine ⟨?_, ⟨common, hcommon, ?_, fun hdots hanchor => ?_⟩, fun a => ?_⟩
    · rw [resolve_hrefPath _ hdown, hpage]
    · rw [count_hrefPath _ _ hdown, hlength]
    · rw [hrefPath, String.toList_append, String.toList_append, String.toList_append,
        List.append_assoc, List.append_assoc, Href.climbs_climb,
        Href.climbs_descend (fun s hs => (hdown s hs).slash_notMem)
          (fun s hs => hdots s (hpage ▸ List.mem_append_right _ hs)),
        Href.climbs_indexFile _ hanchor, hlength, Nat.add_zero]
    · rw [hrefPath_eq_hash_iff hdown]
      constructor
      · rintro ⟨hup, rfl, -, hanchor⟩
        rw [List.length_eq_zero_iff.mp hup, hpage]
        exact ⟨rfl, hanchor⟩
      · rintro ⟨hsame, hanchor⟩
        rw [hpage] at hsame hcommon
        obtain ⟨rfl, rfl⟩ := hcommon.eq_nil hsame
        rw [linksDirectory, if_pos (hsame.trans hpage.symm), hanchor]
        exact ⟨rfl, rfl, rfl, rfl⟩

/-- From a page to one that is called like the file of a page, and to an anchor with a `#` in it. -/
theorem hrefFrom_leads_to_sample :
    let source := ["p", "A", "M", "N"]
    let target : Location := ⟨["p", "A", "a..", "index.html"], some "val-(#)"⟩
    (∀ s ∈ target.page, IsSegment s) ∧
      target.hrefFrom source false = "../../a../index.html/index.html#val-(#)" ∧
      Href.resolve source "../../a../index.html/index.html#val-(#)" =
        some (target.page, target.anchor) := by
  intro source target
  have h : ∀ s ∈ target.page, IsSegment s := by decide
  have hhref : target.hrefFrom source false = "../../a../index.html/index.html#val-(#)" := by decide
  refine ⟨h, hhref, ?_⟩
  rw [← hhref]
  exact (hrefFrom_leads_to_target source target false h).1

/-- Two steps up, and the letters of a third: a segment that ends in dots brings them in. -/
theorem hrefFrom_sample_letters :
    let source := ["p", "A", "M", "N"]
    let target : Location := ⟨["p", "A", "a.."], none⟩
    (∀ s ∈ source, IsSegment s) ∧ (∀ s ∈ target.page, IsSegment s) ∧
      IsLongestCommon ["p", "A"] source target.page ∧
      target.hrefFrom source false = "../../a../index.html" ∧
      (Href.components (target.hrefFrom source false)).count ".." = 2 ∧
      Href.climbs (target.hrefFrom source false).toList = 3 := by
  intro source target
  have hlongest : IsLongestCommon ["p", "A"] source target.page :=
    ⟨by decide, by decide, fun l hl hl' => length_le_commonLength hl hl'⟩
  exact ⟨by decide, by decide, hlongest, by decide, by decide, by decide⟩

end Location

end DocSite
