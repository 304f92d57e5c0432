import DocSite.Proofs.Anchors
import DocSite.Proofs.Segments

/-!
# Locations tell declarations apart

Where a declaration is documented is a page and an anchor on it, both of them texts that are put
together from the kinds and names along the chain of an identifier.  Here they are taken apart
again: from the page follows the innermost thing that owns a page, from the anchor what is left of
the chain below it.  So two declarations that are nested as the language nests them are never
documented at the same place.

A page is read segment by segment from its end, and each segment names one link of the chain.  An
anchor begins with a word for the kind of the item or member that stands on the page.  Operators
have any name they like; but they come last, and nothing follows that would have to be told apart
from them.  Constructors and fields are anchored below what declares them, with a dot before each,
and a constructor is told from a field by its first letter.
-/

namespace DocSite

/-! ## Nesting -/

namespace Kind

/-- What can stand in a signature. -/
def isItem : Kind → Bool
  | «module» | moduleType | argument _ | type | extension | exception | value | «class»
  | classType => true
  | _ => false

/-- What can stand in a class. -/
def isMember : Kind → Bool
  | method | instanceVariable => true
  | _ => false

/-- What can be declared directly in a thing: items in what has a signature, members in a class,
constructors and fields in a type, and fields in all that takes a record. -/
def holds : Kind → Kind → Bool
  | root, inner | «module», inner | moduleType, inner | argument _, inner => inner.isItem
  | «class», inner | classType, inner => inner.isMember
  | type, inner => inner.isRow
  | constructor, inner | extension, inner | exception, inner => decide (inner = field)
  | _, _ => false

/-- What a constructor or field can be declared in, and these themselves. -/
def isDotted : Kind → Bool
  | type | constructor | field | extension | exception => true
  | _ => false

/-- The names of a kind, for any choice of the letters that count as capitals.  What owns a page has
a name without dashes, and what is part of a dotted anchor a name without dots; constructors begin
with a capital and fields do not.  Values, methods and instance variables have any name. -/
structure Admits (capital : Char → Bool) (kind : Kind) (name : String) : Prop where
  noDash : kind.ownsPage = true → '-' ∉ name.toList
  noDot : kind.isDotted = true → '.' ∉ name.toList
  begins : kind = constructor → name.toList.head?.any capital = true
  beginsNot : kind = field → name.toList.head?.any capital = false

instance (capital : Char → Bool) (kind : Kind) (name : String) :
    Decidable (kind.Admits capital name) :=
  decidable_of_iff ((kind.ownsPage = true → '-' ∉ name.toList) ∧
      (kind.isDotted = true → '.' ∉ name.toList) ∧
      (kind = constructor → name.toList.head?.any capital = true) ∧
      (kind = field → name.toList.head?.any capital = false))
    ⟨fun ⟨noDash, noDot, begins, beginsNot⟩ => ⟨noDash, noDot, begins, beginsNot⟩,
      fun h => ⟨h.noDash, h.noDot, h.begins, h.beginsNot⟩⟩

theorem of_isItem {kind : Kind} (h : kind.isItem = true) :
    kind.isTop = false ∧ kind.isCore = false ∧ kind.isRow = false := by
  cases kind <;> cases h <;> exact ⟨rfl, rfl, rfl⟩

theorem of_isMember {kind : Kind} (h : kind.isMember = true) :
    kind.isTop = false ∧ kind.isCore = false ∧ kind.isRow = false := by
  cases kind <;> cases h <;> exact ⟨rfl, rfl, rfl⟩

theorem ownsPage_of_isRow {kind : Kind} (h : kind.isRow = true) : kind.ownsPage = false := by
  cases kind <;> cases h <;> rfl

theorem isDotted_of_isRow {kind : Kind} (h : kind.isRow = true) : kind.isDotted = true := by
  cases kind <;> cases h <;> rfl

/-- What owns a page holds items or members, and all else holds rows. -/
theorem holds_sorts {outer inner : Kind} (h : outer.holds inner = true) :
    (outer.ownsPage = true ∧ (inner.isItem = true ∨ inner.isMember = true)) ∨
      (outer.ownsPage = false ∧ outer.isDotted = true ∧ inner.isRow = true) := by
  cases outer with
  | root | «module» | moduleType | argument => exact .inl ⟨rfl, .inl h⟩
  | «class» | classType => exact .inl ⟨rfl, .inr h⟩
  | type => exact .inr ⟨rfl, rfl, h⟩
  | constructor | extension | exception =>
    obtain rfl : inner = field := of_decide_eq_true h
    exact .inr ⟨rfl, rfl, rfl⟩
  | page | field | coreType | coreException | value | method | instanceVariable => cases h

theorem holds_cases {outer inner : Kind} (h : outer.holds inner = true) :
    (outer.ownsPage = true ∧ inner.isRow = false) ∨
      (outer.ownsPage = false ∧ outer.isDotted = true ∧ inner.isRow = true) := by
  rcases holds_sorts h with ⟨howns, hitem | hmember⟩ | hrow
  · exact .inl ⟨howns, (of_isItem hitem).2.2⟩
  · exact .inl ⟨howns, (of_isMember hmember).2.2⟩
  · exact .inr hrow

theorem isTop_isCore_of_holds {outer inner : Kind} (h : outer.holds inner = true) :
    inner.isTop = false ∧ inner.isCore = false := by
  rcases holds_sorts h with ⟨-, hitem | hmember⟩ | ⟨-, -, hrow⟩
  · exact ⟨(of_isItem hitem).1, (of_isItem hitem).2.1⟩
  · exact ⟨(of_isMember hmember).1, (of_isMember hmember).2.1⟩
  · exact of_isRow hrow

/-! ## What anchors begin with -/

/-- The word that the anchor of an item or member begins with. -/
def anchorWord : Kind → String
  | «module» | moduleType => "module"
  | argument _ => "argument"
  | type => "type"
  | extension => "extension"
  | exception => "exception"
  | value | instanceVariable => "val"
  | «class» | classType => "class"
  | method => "method"
  | _ => ""

/-- What follows the first dash of such an anchor, for what is left of it. -/
def anchorRest (kind : Kind) (rest : String) : String :=
  match kind with
  | moduleType | classType => "type-" ++ rest
  | argument position => toString position.toNat ++ "-" ++ rest
  | _ => rest

theorem anchorHead?_append {kind : Kind} {head : String} (h : kind.anchorHead? = some head)
    (rest : String) : head ++ rest = kind.anchorWord ++ "-" ++ kind.anchorRest rest := by
  rw [← String.toList_inj]
  unfold anchorWord anchorRest
  cases kind <;> cases h <;> simp

theorem dash_notMem_anchorWord (kind : Kind) : '-' ∉ kind.anchorWord.toList := by
  unfold anchorWord
  cases kind <;> simp

/-- Two things that stand on one page are both items or both members. -/
theorem isItem_or_isMember_of_holds {outer kind kind' : Kind} (h : outer.holds kind = true)
    (h' : outer.holds kind' = true) (hrow : kind.isRow = false) :
    (kind.isItem = true ∧ kind'.isItem = true) ∨
      (kind.isMember = true ∧ kind'.isMember = true) := by
  cases outer with
  | root | «module» | moduleType | argument => exact .inl ⟨h, h'⟩
  | «class» | classType => exact .inr ⟨h, h'⟩
  | type => exact absurd (hrow.symm.trans h) Bool.false_ne_true
  | constructor | extension | exception =>
    obtain rfl : kind = field := of_decide_eq_true h
    cases hrow
  | page | field | coreType | coreException | value | method | instanceVariable => cases h

/-- The word tells of which kind an item is, unless it owns a page. -/
theorem eq_of_anchorWord_of_isItem {kind kind' : Kind} (h : kind.isItem = true)
    (h' : kind'.isItem = true) (hword : kind.anchorWord = kind'.anchorWord) :
    kind = kind' ∨ (kind.ownsPage = true ∧ kind'.ownsPage = true) := by
  unfold anchorWord at hword
  -- one kind, two kinds that own pages, or two words
  cases kind <;> cases h <;> cases kind' <;> cases h' <;>
    first | exact .inl rfl | exact .inr ⟨rfl, rfl⟩ | simp at hword

@[inherit_doc eq_of_anchorWord_of_isItem]
theorem eq_of_anchorWord_of_isMember {kind kind' : Kind} (h : kind.isMember = true)
    (h' : kind'.isMember = true) (hword : kind.anchorWord = kind'.anchorWord) : kind = kind' := by
  unfold anchorWord at hword
  cases kind <;> cases h <;> cases kind' <;> cases h' <;>
    first | rfl | simp at hword

/-- Of what owns a page the rest of the anchor tells the kind, since a name without dashes does not
begin with `type-`. -/
theorem eq_of_anchorRest {kind kind' : Kind} {rest rest' : String} (h : kind.isItem = true)
    (h' : kind'.isItem = true) (howns : kind.ownsPage = true) (howns' : kind'.ownsPage = true)
    (hdash : '-' ∉ rest.toList) (hdash' : '-' ∉ rest'.toList)
    (hword : kind.anchorWord = kind'.anchorWord)
    (hrest : kind.anchorRest rest = kind'.anchorRest rest') : kind = kind' ∧ rest = rest' := by
  have hne : ∀ s, rest ≠ "type-" ++ s := by
    rintro s rfl
    simp at hdash
  have hne' : ∀ s, "type-" ++ s ≠ rest' := by
    rintro s rfl
    simp at hdash'
  unfold anchorWord at hword
  cases kind with
  | argument position =>
    cases kind' with
    | argument position' =>
      obtain ⟨hposition, rfl⟩ := numbered_inj hrest
      exact ⟨congrArg argument (UInt64.toNat_inj.mp hposition), rfl⟩
    | «module» | moduleType | «class» | classType => simp at hword
    | root | page => cases h'
    | _ => cases howns'
  | «module» | «class» =>
    cases kind' with
    | «module» | «class» => first | exact ⟨rfl, hrest⟩ | simp at hword
    | moduleType | classType => exact absurd hrest (hne rest')
    | argument => simp at hword
    | root | page => cases h'
    | _ => cases howns'
  | moduleType | classType =>
    cases kind' with
    | «module» | «class» => exact absurd hrest (hne' rest)
    | moduleType | classType =>
      first
      | exact ⟨rfl, (String.append_right_inj "type-").mp hrest⟩
      | simp at hword
    | argument => simp at hword
    | root | page => cases h'
    | _ => cases howns'
  | root | page => cases h
  | _ => cases howns

/-- **Anchors are read back.**  Of what stands on one page, the head of an anchor tells the kind,
and what follows it is all the rest. -/
theorem eq_of_anchorHead?_append {outer kind kind' : Kind} {head head' rest rest' : String}
    (h : outer.holds kind = true) (h' : outer.holds kind' = true)
    (hhead : kind.anchorHead? = some head) (hhead' : kind'.anchorHead? = some head')
    (hdash : kind.ownsPage = true → '-' ∉ rest.toList)
    (hdash' : kind'.ownsPage = true → '-' ∉ rest'.toList)
    (heq : head ++ rest = head' ++ rest') : kind = kind' ∧ rest = rest' := by
  have hrow : kind.isRow = false := by cases kind <;> first | rfl | cases hhead
  have hboth := heq
  rw [anchorHead?_append hhead, anchorHead?_append hhead'] at hboth
  have hlist : kind.anchorWord.toList ++ '-' :: (kind.anchorRest rest).toList =
      kind'.anchorWord.toList ++ '-' :: (kind'.anchorRest rest').toList := by
    simpa using congrArg String.toList hboth
  obtain ⟨hword, hrest⟩ :=
    eq_of_append_first (dash_notMem_anchorWord kind) (dash_notMem_anchorWord kind') hlist
  rw [String.toList_inj] at hword hrest
  have hsame : kind = kind' → kind = kind' ∧ rest = rest' := by
    rintro rfl
    obtain rfl : head = head' := Option.some.inj (hhead.symm.trans hhead')
    exact ⟨rfl, (String.append_right_inj head).mp heq⟩
  rcases isItem_or_isMember_of_holds h h' hrow with ⟨hitem, hitem'⟩ | ⟨hmember, hmember'⟩
  · rcases eq_of_anchorWord_of_isItem hitem hitem' hword with hkind | ⟨howns, howns'⟩
    · exact hsame hkind
    · exact eq_of_anchorRest hitem hitem' howns howns' (hdash howns) (hdash' howns') hword hrest
  · exact hsame (eq_of_anchorWord_of_isMember hmember hmember' hword)

/-! ## What pages are called -/

theorem names_pageName {kind : Kind} {pageKind : PageKind} {name : String}
    (h : kind.pageKind? = some pageKind) (htop : kind.isTop = false) (hdash : '-' ∉ name.toList) :
    pageKind.Names (kind.pageName name) := by
  cases kind with
  | argument position =>
    cases h
    exact ⟨position.toNat, name, rfl, hdash⟩
  | «module» | moduleType | «class» | classType =>
    cases h
    exact hdash
  | root | page => cases htop
  | _ => cases h

/-- A page shows the kind of what owns it, up to the position of an argument. -/
theorem eq_or_argument_of_pageKind? {kind kind' : Kind} (howns : kind.ownsPage = true)
    (h : kind.pageKind? = kind'.pageKind?) :
    kind = kind' ∨ ∃ i j, kind = argument i ∧ kind' = argument j := by
  cases kind with
  | argument i =>
    cases kind' with
    | argument j => exact .inr ⟨i, j, rfl, rfl⟩
    | _ => cases h
  | root | page | «module» | moduleType | «class» | classType =>
    cases kind' <;> first | exact .inl rfl | cases h
  | _ => cases howns

theorem eq_of_pageName {kind kind' : Kind} {name name' : String} (howns : kind.ownsPage = true)
    (h : kind.pageKind? = kind'.pageKind?)
    (heq : kind.pageName name = kind'.pageName name') : kind = kind' ∧ name = name' := by
  rcases eq_or_argument_of_pageKind? howns h with rfl | ⟨i, j, rfl, rfl⟩
  · refine ⟨rfl, ?_⟩
    cases kind with
    | argument i => exact (numbered_inj heq).2
    | _ => exact heq
  · obtain ⟨hposition, hname⟩ := numbered_inj heq
    exact ⟨congrArg argument (UInt64.toNat_inj.mp hposition), hname⟩

end Kind

namespace Identifier

/-- The chain starts at a root, every link of it can be declared in the one before, and all names
are names of their kind. -/
def WellNested (capital : Char → Bool) : Identifier → Prop
  | top kind name => kind = .root ∧ kind.Admits capital name
  | child parent kind name =>
    parent.WellNested capital ∧ parent.kind.holds kind = true ∧ kind.Admits capital name

instance WellNested.decidable (capital : Char → Bool) :
    ∀ id : Identifier, Decidable (id.WellNested capital)
  | top kind name => inferInstanceAs (Decidable (kind = .root ∧ kind.Admits capital name))
  | child parent kind name =>
    have := WellNested.decidable capital parent
    inferInstanceAs (Decidable (parent.WellNested capital ∧ parent.kind.holds kind = true ∧
      kind.Admits capital name))

namespace WellNested

variable {capital : Char → Bool} {packages : Packages}

theorem admits {id : Identifier} (h : id.WellNested capital) : id.kind.Admits capital id.name := by
  cases id with
  | top kind name => exact h.2
  | child parent kind name => exact h.2.2

/-! ## Pages -/

/-- What owns a page has a segment, which tells what it is. -/
theorem segment?_inj {id id' : Identifier} (h : id.WellNested capital) (h' : id'.WellNested capital)
    (howns : id.kind.ownsPage = true) (htop : id.kind.isTop = false)
    (htop' : id'.kind.isTop = false) (heq : id.segment? = id'.segment?) :
    id.kind = id'.kind ∧ id.name = id'.name := by
  obtain ⟨pageKind, hkind⟩ := Option.isSome_iff_exists.mp (id.kind.isSome_pageKind?.trans howns)
  simp only [segment?, hkind, Option.map_some] at heq
  obtain ⟨pageKind', hkind', hsegment⟩ := Option.map_eq_some_iff.mp heq.symm
  have howns' := Kind.ownsPage_of_pageKind? hkind'
  obtain ⟨rfl, hname⟩ := PageKind.segment_inj
    (Kind.names_pageName hkind htop (h.admits.noDash howns))
    (Kind.names_pageName hkind' htop' (h'.admits.noDash howns')) hsegment.symm
  exact Kind.eq_of_pageName howns (hkind.trans hkind'.symm) hname

/-- What owns a page, below a thing that holds it. -/
theorem page_child {parent : Identifier} {kind : Kind} {name : String} {path : PagePath}
    (hholds : parent.kind.holds kind = true) (howns : kind.ownsPage = true)
    (hpath : parent.page packages = .ok path) :
    ∃ segment, (child parent kind name).segment? = some segment ∧
      (child parent kind name).page packages = .ok (path ++ [segment]) := by
  obtain ⟨pageKind, hkind⟩ := Option.isSome_iff_exists.mp (kind.isSome_pageKind?.trans howns)
  have hsegment : (child parent kind name).segment? =
      some (pageKind.segment (kind.pageName name)) := by
    rw [segment?, kind_child, name_child, hkind]
    rfl
  exact ⟨_, hsegment, Identifier.page_child hpath (Kind.isTop_isCore_of_holds hholds).1 hsegment⟩

theorem ownsPage_of_holds {outer inner : Kind} (h : outer.holds inner = true)
    (howns : inner.ownsPage = true) : outer.ownsPage = true := by
  rcases Kind.holds_cases h with ⟨houter, -⟩ | ⟨-, -, hrow⟩
  · exact houter
  · exact absurd (howns.symm.trans (Kind.ownsPage_of_isRow hrow)) Bool.true_eq_false.mp

/-- What owns a page has one, below that of its root. -/
theorem exists_page : ∀ {id : Identifier}, id.WellNested capital → id.kind.ownsPage = true →
    ∃ path, id.page packages = .ok path ∧ 2 ≤ path.length
  | top kind name, h, _ => by
    obtain ⟨rfl, -⟩ := h
    exact ⟨_, rfl, Nat.le_refl 2⟩
  | child parent kind name, ⟨hparent, hholds, _⟩, howns => by
    obtain ⟨path, hpath, hlength⟩ := exists_page hparent (ownsPage_of_holds hholds howns)
    obtain ⟨segment, -, hpage⟩ := page_child hholds howns hpath
    refine ⟨_, hpage, ?_⟩
    rw [List.length_append, List.length_singleton]
    omega

theorem page_top {name : String} {path : PagePath}
    (h : (top .root name).page packages = .ok path) :
    path = [packages.packageOf (top .root name), name] :=
  (Except.ok.inj h).symm

theorem page_child_cases {parent : Identifier} {kind : Kind} {name : String} {path : PagePath}
    (h : (child parent kind name).WellNested capital)
    (hpath : (child parent kind name).page packages = .ok path) :
    ∃ above segment, parent.page packages = .ok above ∧ 2 ≤ above.length ∧
      (child parent kind name).segment? = some segment ∧ path = above ++ [segment] := by
  obtain ⟨hparent, hholds, -⟩ := h
  have howns : kind.ownsPage = true := ownsPage_of_page hpath
  obtain ⟨above, habove, hlength⟩ := hparent.exists_page (ownsPage_of_holds hholds howns)
  obtain ⟨segment, hsegment, hpage⟩ := page_child hholds howns habove
  exact ⟨above, segment, habove, hlength, hsegment, Except.ok.inj (hpath.symm.trans hpage)⟩

theorem page_child_ne_top {parent : Identifier} {kind kind' : Kind} {name name' : String}
    {path : PagePath} (h : (child parent kind name).WellNested capital)
    (hpath : (child parent kind name).page packages = .ok path)
    (h' : (top kind' name').WellNested capital) : (top kind' name').page packages ≠ .ok path := by
  intro hpath'
  obtain ⟨rfl, -⟩ := h'
  obtain ⟨above, segment, -, hlength, -, heq⟩ := page_child_cases h hpath
  have hlengths := congrArg List.length (heq.symm.trans (page_top hpath'))
  simp only [List.length_append, List.length_cons, List.length_nil] at hlengths
  omega

/-- **Pages are read back.**  A page belongs to one thing only. -/
theorem page_inj : ∀ {id id' : Identifier} {path : PagePath}, id.WellNested capital →
    id'.WellNested capital → id.page packages = .ok path → id'.page packages = .ok path → id = id'
  | top kind name, top kind' name', path, h, h', hpage, hpage' => by
    obtain ⟨rfl, -⟩ := h
    obtain ⟨rfl, -⟩ := h'
    obtain ⟨-, hname⟩ := List.cons.inj ((page_top hpage).symm.trans (page_top hpage'))
    exact congrArg (top .root) (List.cons.inj hname).1
  -- the page of a root is at the top of its package, and no other page is
  | top kind name, child parent kind' name', path, h, h', hpage, hpage' =>
    absurd hpage (page_child_ne_top h' hpage' h)
  | child parent kind name, top kind' name', path, h, h', hpage, hpage' =>
    absurd hpage' (page_child_ne_top h hpage h')
  | child parent kind name, child parent' kind' name', path, h, h', hpage, hpage' => by
    obtain ⟨above, segment, habove, -, hsegment, rfl⟩ := page_child_cases h hpage
    obtain ⟨above', segment', habove', -, hsegment', hpath⟩ := page_child_cases h' hpage'
    obtain ⟨rfl, hlast⟩ := List.append_inj' hpath rfl
    obtain rfl : parent = parent' := page_inj h.1 h'.1 habove habove'
    obtain ⟨hkind, hname⟩ := segment?_inj h h' (ownsPage_of_page hpage)
      (Kind.isTop_isCore_of_holds h.2.1).1 (Kind.isTop_isCore_of_holds h'.2.1).1
      (by rw [hsegment, hsegment', (List.cons.inj hlast).1])
    rw [kind_child, kind_child] at hkind
    rw [name_child, name_child] at hname
    rw [hkind, hname]

/-! ## Anchors -/

/-- The thing on whose page a declaration stands. -/
theorem exists_container {parent : Identifier} {kind : Kind} {name : String}
    (h : (child parent kind name).WellNested capital) :
    ∃ container, (child parent kind name).container? = some container ∧
      container.WellNested capital ∧ container.kind.ownsPage = true := by
  induction parent generalizing kind name with
  | top kind' name' =>
    obtain ⟨⟨rfl, hname⟩, -, -⟩ := h
    exact ⟨top .root name', rfl, ⟨rfl, hname⟩, rfl⟩
  | child outer kind' name' ih =>
    obtain ⟨hparent, hholds, -⟩ := h
    rcases Kind.holds_cases hholds with ⟨howns, -⟩ | ⟨hnot, -, -⟩
    · exact ⟨_, by rw [container?, if_pos howns], hparent, howns⟩
    · obtain ⟨container, hcontainer, hrest⟩ := ih hparent
      refine ⟨container, ?_, hrest⟩
      rw [container?, hnot, if_neg Bool.false_ne_true]
      exact hcontainer

/-- What is no constructor and no field is anchored on the page of its parent. -/
theorem item_anchor {parent : Identifier} {kind : Kind} {name : String}
    (h : (child parent kind name).WellNested capital) (hrow : kind.isRow = false) :
    (child parent kind name).container? = some parent ∧
      ∃ head, kind.anchorHead? = some head ∧
        (child parent kind name).anchor = .ok (head ++ name) := by
  obtain ⟨-, hholds, -⟩ := h
  have howns : parent.kind.ownsPage = true := by
    rcases Kind.holds_cases hholds with ⟨howns, -⟩ | ⟨-, -, hrow'⟩
    · exact howns
    · exact absurd (hrow.symm.trans hrow') Bool.false_ne_true
  obtain ⟨htop, hcore⟩ := Kind.isTop_isCore_of_holds hholds
  obtain ⟨head, hhead⟩ : ∃ head, kind.anchorHead? = some head := by
    rw [← Option.isSome_iff_exists, Kind.isSome_anchorHead?, htop, hcore, hrow]
    rfl
  refine ⟨by rw [container?, if_pos howns], head, hhead, ?_⟩
  rw [anchor, hrow, hhead]
  rfl

/-- A constructor or field is anchored where its parent is. -/
theorem row_anchor {parent : Identifier} {kind : Kind} {name : String}
    (h : (child parent kind name).WellNested capital) (hrow : kind.isRow = true) :
    (child parent kind name).container? = parent.container? ∧
      (child parent kind name).anchor = parent.anchor.map fun a => a ++ "." ++ name := by
  obtain ⟨-, hholds, -⟩ := h
  rcases Kind.holds_cases hholds with ⟨-, hrow'⟩ | ⟨hnot, -, -⟩
  · exact absurd (hrow'.symm.trans hrow) Bool.false_ne_true
  · exact ⟨by rw [container?, hnot, if_neg Bool.false_ne_true], by rw [anchor, hrow, if_pos rfl]⟩

theorem row_anchor_cases {parent : Identifier} {kind : Kind} {name anchor : String}
    (h : (child parent kind name).WellNested capital) (hrow : kind.isRow = true)
    (hanchor : (child parent kind name).anchor = .ok anchor) :
    (child parent kind name).container? = parent.container? ∧
      ∃ above, parent.anchor = .ok above ∧ anchor = above ++ "." ++ name := by
  obtain ⟨hsame, hmap⟩ := row_anchor h hrow
  rw [hmap] at hanchor
  cases habove : parent.anchor with
  | error e =>
    rw [habove] at hanchor
    cases hanchor
  | ok above =>
    rw [habove] at hanchor
    exact ⟨hsame, above, rfl, (Except.ok.inj hanchor).symm⟩

/-- The anchor of a constructor or field begins as that of a type, an extension or an exception, and
has a dot after that. -/
theorem row_anchor_head {parent : Identifier} {kind : Kind} {name : String} {container : Identifier}
    (h : (child parent kind name).WellNested capital) (hrow : kind.isRow = true)
    (hcontainer : (child parent kind name).container? = some container) :
    ∃ kind₀ head rest, container.kind.holds kind₀ = true ∧ kind₀.ownsPage = false ∧
      kind₀.isDotted = true ∧ kind₀.anchorHead? = some head ∧
      (child parent kind name).anchor = .ok (head ++ rest) ∧ '.' ∈ rest.toList := by
  induction parent generalizing kind name with
  | top kind' name' =>
    rw [(row_anchor h hrow).1] at hcontainer
    cases hcontainer
  | child outer kind' name' ih =>
    obtain ⟨hsame, hanchor⟩ := row_anchor h hrow
    obtain ⟨hparent, hholds, -⟩ := h
    rw [hsame] at hcontainer
    rw [hanchor]
    cases hrow' : kind'.isRow with
    | true =>
      obtain ⟨kind₀, head, rest, h₁, h₂, h₃, h₄, hrest, -⟩ := ih hparent hrow' hcontainer
      refine ⟨kind₀, head, rest ++ "." ++ name, h₁, h₂, h₃, h₄, ?_, by simp⟩
      rw [hrest, Except.map, String.append_assoc, String.append_assoc, String.append_assoc]
    | false =>
      obtain ⟨hitem, head, hhead, hanchor'⟩ := item_anchor hparent hrow'
      obtain rfl : outer = container := Option.some.inj (hitem.symm.trans hcontainer)
      rcases Kind.holds_cases hholds with ⟨-, hnot⟩ | ⟨hnot, hdotted, -⟩
      · exact absurd (hnot.symm.trans hrow) Bool.false_ne_true
      · refine ⟨kind', head, name' ++ "." ++ name, hparent.2.1, hnot, hdotted, hhead, ?_, by simp⟩
        rw [hanchor', Except.map, String.append_assoc, String.append_assoc, String.append_assoc]

/-- A constructor is told from a field by its name. -/
theorem row_kind {kind kind' : Kind} {name : String} (hrow : kind.isRow = true)
    (hrow' : kind'.isRow = true) (h : kind.Admits capital name) (h' : kind'.Admits capital name) :
    kind = kind' := by
  cases kind <;> try cases hrow
  all_goals cases kind' <;> try cases hrow'
  · rfl
  · exact absurd ((h.begins rfl).symm.trans (h'.beginsNot rfl)) Bool.true_eq_false.mp
  · exact absurd ((h'.begins rfl).symm.trans (h.beginsNot rfl)) Bool.true_eq_false.mp
  · rfl

/-- An item is not anchored like a row: nothing that rows stand in has a dot in its name. -/
theorem item_anchor_ne_row {parent parent' container : Identifier} {kind kind' : Kind}
    {name name' : String} (h : (child parent kind name).WellNested capital)
    (h' : (child parent' kind' name').WellNested capital) (hrow : kind.isRow = true)
    (hrow' : kind'.isRow = false)
    (hcontainer : (child parent kind name).container? = some container)
    (hcontainer' : (child parent' kind' name').container? = some container) :
    (child parent kind name).anchor ≠ (child parent' kind' name').anchor := by
  obtain ⟨kind₀, head, rest, hholds, howns, hdotted, hhead, hanchor, hdot⟩ :=
    row_anchor_head h hrow hcontainer
  obtain ⟨hitem, head', hhead', hanchor'⟩ := item_anchor h' hrow'
  obtain rfl : parent' = container := Option.some.inj (hitem.symm.trans hcontainer')
  intro heq
  rw [hanchor, hanchor'] at heq
  obtain ⟨rfl, rfl⟩ := Kind.eq_of_anchorHead?_append hholds h'.2.1 hhead hhead'
    (fun h => absurd (howns.symm.trans h) Bool.false_ne_true) h'.admits.noDash (Except.ok.inj heq)
  exact h'.admits.noDot hdotted hdot

/-- **Anchors are read back.**  On one page an anchor belongs to one declaration only. -/
theorem anchor_inj : ∀ {id id' container : Identifier} {anchor : String}, id.WellNested capital →
    id'.WellNested capital → id.container? = some container → id'.container? = some container →
    id.anchor = .ok anchor → id'.anchor = .ok anchor → id = id'
  | top _ _, _, _, _, _, _, hcontainer, _, _, _ => by cases hcontainer
  | child _ _ _, top _ _, _, _, _, _, _, hcontainer', _, _ => by cases hcontainer'
  | child parent kind name, child parent' kind' name', container, anchor, h, h', hcontainer,
      hcontainer', hanchor, hanchor' => by
    cases hrow : kind.isRow <;> cases hrow' : kind'.isRow
    case false.false =>
      obtain ⟨hitem, head, hhead, hitemAnchor⟩ := item_anchor h hrow
      obtain ⟨hitem', head', hhead', hitemAnchor'⟩ := item_anchor h' hrow'
      obtain rfl : parent = container := Option.some.inj (hitem.symm.trans hcontainer)
      obtain rfl : parent' = parent := Option.some.inj (hitem'.symm.trans hcontainer')
      have heq : head ++ name = head' ++ name' := Except.ok.inj
        ((hitemAnchor.symm.trans hanchor).trans (hanchor'.symm.trans hitemAnchor'))
      obtain ⟨rfl, rfl⟩ := Kind.eq_of_anchorHead?_append h.2.1 h'.2.1 hhead hhead' h.admits.noDash
        h'.admits.noDash heq
      rfl
    case false.true =>
      exact absurd (hanchor'.trans hanchor.symm)
        (item_anchor_ne_row h' h hrow' hrow hcontainer' hcontainer)
    case true.false =>
      exact absurd (hanchor.trans hanchor'.symm)
        (item_anchor_ne_row h h' hrow hrow' hcontainer hcontainer')
    case true.true =>
      obtain ⟨hsame, above, habove, rfl⟩ := row_anchor_cases h hrow hanchor
      obtain ⟨hsame', above', habove', heq⟩ := row_anchor_cases h' hrow' hanchor'
      rw [hsame] at hcontainer
      rw [hsame'] at hcontainer'
      have hlist : above.toList ++ '.' :: name.toList = above'.toList ++ '.' :: name'.toList := by
        simpa using congrArg String.toList heq
      obtain ⟨hbefore, hafter⟩ := eq_of_append_last (h.2.2.noDot (Kind.isDotted_of_isRow hrow))
        (h'.2.2.noDot (Kind.isDotted_of_isRow hrow')) hlist
      rw [String.toList_inj] at hbefore hafter
      subst hbefore hafter
      obtain rfl : parent = parent' := anchor_inj h.1 h'.1 hcontainer hcontainer' habove habove'
      rw [row_kind hrow hrow' h.2.2 h'.2.2]

theorem exists_anchor {parent : Identifier} {kind : Kind} {name : String}
    (h : (child parent kind name).WellNested capital) :
    ∃ anchor, (child parent kind name).anchor = .ok anchor := by
  cases hrow : kind.isRow with
  | false =>
    obtain ⟨-, head, -, hanchor⟩ := item_anchor h hrow
    exact ⟨_, hanchor⟩
  | true =>
    obtain ⟨container, hcontainer, -⟩ := exists_container h
    obtain ⟨-, head, rest, -, -, -, -, hanchor, -⟩ := row_anchor_head h hrow hcontainer
    exact ⟨_, hanchor⟩

/-! ## Locations -/

theorem location_top (packages : Packages) {kind : Kind} {name : String}
    (h : (top kind name).WellNested capital) :
    (top kind name).location packages true =
      .ok ⟨[packages.packageOf (top kind name), name], none⟩ := by
  obtain ⟨rfl, -⟩ := h
  rfl

/-- All but a root is found on the page of what contains it. -/
theorem location_child (packages : Packages) {parent : Identifier} {kind : Kind} {name : String}
    (h : (child parent kind name).WellNested capital) :
    ∃ container page anchor, (child parent kind name).container? = some container ∧
      container.WellNested capital ∧ container.page packages = .ok page ∧
      (child parent kind name).anchor = .ok anchor ∧
      (child parent kind name).location packages true = .ok ⟨page, some anchor⟩ := by
  obtain ⟨container, hcontainer, hnested, howns⟩ := exists_container h
  obtain ⟨page, hpage, -⟩ : ∃ path, container.page packages = .ok path ∧ 2 ≤ path.length :=
    hnested.exists_page howns
  obtain ⟨anchor, hanchor⟩ := exists_anchor h
  obtain ⟨htop, hcore⟩ := Kind.isTop_isCore_of_holds h.2.1
  refine ⟨container, page, anchor, hcontainer, hnested, hpage, hanchor, ?_⟩
  simp only [location, kind_child, htop, hcore, hcontainer, hpage, hanchor, Bool.not_true,
    Bool.and_false, Bool.or_self, Bool.false_eq_true, if_false]
  rfl

theorem exists_location (packages : Packages) {id : Identifier} (h : id.WellNested capital) :
    ∃ location, id.location packages true = .ok location := by
  cases id with
  | top kind name => exact ⟨_, h.location_top packages⟩
  | child parent kind name =>
    obtain ⟨_, page, anchor, -, -, -, -, hlocation⟩ := h.location_child packages
    exact ⟨⟨page, some anchor⟩, hlocation⟩

/-- Only a root is a page rather than an anchor on one. -/
theorem location_top_ne_child {parent : Identifier} {kind kind' : Kind} {name name' : String}
    (h : (top kind name).WellNested capital) (h' : (child parent kind' name').WellNested capital) :
    (top kind name).location packages true ≠ (child parent kind' name').location packages true := by
  obtain ⟨_, _, _, -, -, -, -, hlocation⟩ := h'.location_child packages
  rw [h.location_top, hlocation]
  intro heq
  cases heq

theorem location_inj {id id' : Identifier} (h : id.WellNested capital) (h' : id'.WellNested capital)
    (heq : id.location packages true = id'.location packages true) : id = id' := by
  cases id with
  | top kind name =>
    cases id' with
    | top kind' name' =>
      rw [h.location_top, h'.location_top] at heq
      obtain ⟨rfl, -⟩ := h
      obtain ⟨rfl, -⟩ := h'
      simp only [Except.ok.injEq, Location.mk.injEq, List.cons.injEq] at heq
      rw [heq.1.2.1]
    | child parent' kind' name' => exact absurd heq (h.location_top_ne_child h')
  | child parent kind name =>
    cases id' with
    | top kind' name' => exact absurd heq.symm (h'.location_top_ne_child h)
    | child parent' kind' name' =>
      obtain ⟨container, page, anchor, hcontainer, hnested, hpage, hanchor, hlocation⟩ :=
        h.location_child packages
      obtain ⟨container', page', anchor', hcontainer', hnested', hpage', hanchor', hlocation'⟩ :=
        h'.location_child packages
      rw [hlocation, hlocation'] at heq
      simp only [Except.ok.injEq, Location.mk.injEq, Option.some.injEq] at heq
      obtain ⟨rfl, rfl⟩ := heq
      obtain rfl : container = container' := hnested.page_inj hnested' hpage hpage'
      exact h.anchor_inj h' hcontainer hcontainer' hanchor hanchor'

end WellNested

/-- **Locations tell declarations apart.**  What is nested as the language nests things is
documented somewhere, and no two such things at the same place.  It does not matter how roots are
spread over packages, nor which letters count as capitals. -/
theorem location_identifies {capital : Char → Bool} {id : Identifier} (packages : Packages)
    (h : id.WellNested capital) :
    (∃ location, id.location packages true = .ok location) ∧
      ∀ id' : Identifier, id'.WellNested capital →
        id.location packages true = id'.location packages true → id = id' :=
  ⟨h.exists_location packages, fun _ h' heq => h.location_inj h' heq⟩

/-- The field of a constructor, and a value that is called like its anchor, both declared by the
second parameter of a functor. -/
def sampleRow : Identifier × Identifier :=
  let owner := ((top .root "Lib").child .module "Make").child (.argument 2) "Elt"
  (((owner.child .type "t").child .constructor "Leaf").child .field "size",
    owner.child .value "type-t.Leaf.size")

theorem locations_sampleRow :
    sampleRow.1.WellNested Char.isUpper ∧ sampleRow.2.WellNested Char.isUpper ∧
      sampleRow.1.location {} true =
        .ok ⟨["Lib", "Lib", "Make", "argument-2-Elt"], some "type-t.Leaf.size"⟩ ∧
      sampleRow.1.location {} true ≠ sampleRow.2.location {} true := by
  have hfield : sampleRow.1.WellNested Char.isUpper := by decide
  have hvalue : sampleRow.2.WellNested Char.isUpper := by decide
  refine ⟨hfield, hvalue, by decide, fun heq => ?_⟩
  obtain ⟨-, hidentifies⟩ := location_identifies {} hfield
  exact absurd (hidentifies _ hvalue heq) (by decide)

end Identifier

end DocSite
