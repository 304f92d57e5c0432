import DocSite.Proofs.Declarations

/-!
# Pages lie where declarations are located

Where a page lies is decided twice.  Rendering follows the pages that are open and adds one segment
for each that it enters; `Identifier.page` follows the parents of an identifier and knows nothing of
pages.  In a well scoped unit both follow the same chain, because what a page declares is a child of
what the page is about.  The same goes for links from a page to the pages below it: rendering writes
down the segment of the page, `Settings.href` compares two paths.

The invariant that passes from a page to the pages below it is that the identifier of its topic is
located at its path.
-/

namespace DocSite

/-! ## Locations of children -/

namespace Kind

theorem isSome_pageKind? (kind : Kind) : kind.pageKind?.isSome = kind.ownsPage := by
  cases kind <;> rfl

/-- All have an anchor of their own but for what is nowhere on another page, what is documented
nowhere, and what is anchored below its parent. -/
theorem isSome_anchorHead? (kind : Kind) :
    kind.anchorHead?.isSome = (!kind.isTop && !kind.isCore && !kind.isRow) := by
  cases kind <;> rfl

theorem ownsPage_of_pageKind? {kind : Kind} {pageKind : PageKind}
    (h : kind.pageKind? = some pageKind) : kind.ownsPage = true := by
  rw [← isSome_pageKind?, h]
  rfl

theorem of_ownsPage : ∀ {kind : Kind}, kind.ownsPage = true →
    kind.isCore = false ∧ kind.isRow = false
  | root, _ | page, _ | «module», _ | argument _, _ | moduleType, _ | «class», _ | classType, _ =>
    ⟨rfl, rfl⟩

end Kind

/-- What is located at a page owns a page. -/
theorem Identifier.ownsPage_of_page {packages : Packages} {id : Identifier} {path : PagePath}
    (h : id.page packages = .ok path) : id.kind.ownsPage = true := by
  cases hkind : id.kind.pageKind? with
  | some kind => exact Kind.ownsPage_of_pageKind? hkind
  | none =>
    have hsegment : id.segment? = none := by rw [Identifier.segment?, hkind]; rfl
    cases id <;> simp [Identifier.page, hsegment] at h

/-- What owns a page in its parent lies one segment below its parent. -/
theorem Identifier.page_child {packages : Packages} {parent : Identifier} {kind : Kind}
    {name segment : String} {path : PagePath} (hparent : parent.page packages = .ok path)
    (htop : kind.isTop = false)
    (hsegment : (Identifier.child parent kind name).segment? = some segment) :
    (Identifier.child parent kind name).page packages = .ok (path ++ [segment]) := by
  rw [Identifier.page, hsegment, htop, hparent]
  rfl

theorem Identifier.anchorOrNote_value {id : Identifier} {anchor : String}
    (h : id.anchor = .ok anchor) : id.anchorOrNote.value = some anchor := by
  rw [Identifier.anchorOrNote, h]
  rfl

theorem commonLength_append (path rest : PagePath) :
    commonLength path (path ++ rest) = path.length := by
  induction path with
  | nil => cases rest <;> rfl
  | cons segment path ih => simp [commonLength, ih]

/-- The link from a page to a page directly below it names the segment of that page. -/
theorem Location.hrefFrom_below (path : PagePath) (segment : String) (semantic : Bool) :
    Location.hrefFrom path semantic ⟨path ++ [segment], none⟩ =
      segment ++ "/" ++ PageKind.indexFile semantic := by
  have hne : path ≠ path ++ [segment] := by
    intro h
    have hlength := congrArg List.length h
    rw [List.length_append, List.length_singleton] at hlength
    omega
  simp only [Location.hrefFrom, if_neg hne, commonLength_append, Nat.sub_self, climb,
    List.drop_left, descend, fragmentPart]
  rw [String.empty_append, String.append_empty, String.append_empty]

/-! ## Topics of declarations -/

/-- Keywords and plain text, which link to nothing. -/
def Node.isWord : Node → Bool
  | .text _ | .keyword _ => true
  | _ => false

/-- The node is a declaration with this anchor, and its name links to `href`: the link is what comes
first after the keywords. -/
def Node.NameLinks (anchor : Option String) (name href : String) (node : Node) : Prop :=
  ∃ cls words rest doc, (∀ word ∈ words, word.isWord) ∧
    node = Markup.declaration cls anchor [.code (words ++ .link href [.text name] :: rest)] doc

namespace Topic

/-- The topic is declared directly in `owner`, and its page is called as a location calls it. -/
structure LiesIn (owner : Identifier) (t : Topic) : Prop where
  child : t.id = .child owner t.id.kind t.id.name
  notTop : t.id.kind.isTop = false
  kind : t.id.kind.pageKind? = some t.kind
  name : t.id.kind.pageName t.id.name = t.name

/-- The node of the topic is on the page, and its name there links to the page of the topic. -/
def LinkedOn (here : Here) (t : Topic) (body : Markup) : Prop :=
  ∃ node ∈ Markup.allNodes body,
    node.NameLinks t.id.anchorOrNote.value t.id.name
      (t.kind.hrefBelow t.name here.settings.semanticUris)

theorem LinkedOn.mono {here : Here} {t : Topic} {body body' : Markup} (h : t.LinkedOn here body)
    (hsub : Markup.allNodes body ⊆ Markup.allNodes body') : t.LinkedOn here body' := by
  obtain ⟨node, hmem, hnode⟩ := h
  exact ⟨node, hsub hmem, hnode⟩

variable {owner : Identifier} {t : Topic} {packages : Packages} {path : PagePath}

theorem LiesIn.page (h : t.LiesIn owner) (howner : owner.page packages = .ok path) :
    t.id.page packages = .ok (path ++ [t.segment]) := by
  have hsegment : t.id.segment? = some t.segment := by
    rw [Identifier.segment?, h.kind, h.name]
    rfl
  rw [h.child] at hsegment ⊢
  exact Identifier.page_child howner h.notTop hsegment

/-- What can have a page below another page can have an anchor on that page. -/
theorem LiesIn.anchor (h : t.LiesIn owner) : ∃ anchor, t.id.anchor = .ok anchor := by
  obtain ⟨hcore, hrow⟩ := Kind.of_ownsPage (Kind.ownsPage_of_pageKind? h.kind)
  have hsome : t.id.kind.anchorHead?.isSome := by
    rw [Kind.isSome_anchorHead?, h.notTop, hcore, hrow]
    rfl
  obtain ⟨head, hhead⟩ := Option.isSome_iff_exists.mp hsome
  refine ⟨head ++ t.id.name, ?_⟩
  rw [h.child, Identifier.anchor, hrow, hhead]
  rfl

theorem LiesIn.location (h : t.LiesIn owner) (howner : owner.page packages = .ok path) :
    t.id.location packages false = .ok ⟨path ++ [t.segment], none⟩ := by
  have howns : t.id.kind.ownsPage = true := Kind.ownsPage_of_pageKind? h.kind
  rw [Identifier.location, howns, h.page howner]
  simp [Except.map]

/-- The link that rendering puts on a page is the link of the resolver. -/
theorem LiesIn.href {cfg : Settings} (h : t.LiesIn owner)
    (howner : owner.page cfg.packages = .ok path) :
    cfg.href path t.id false = .ok (t.kind.hrefBelow t.name cfg.semanticUris) := by
  rw [Settings.href, h.location howner]
  exact congrArg Except.ok (Location.hrefFrom_below path t.segment cfg.semanticUris)

end Topic

theorem ModuleExpansion.topic_of_mem_outlines {topic : Subject → Topic}
    {declared : Option (Subject × List Outline)} {expansion : Option ModuleExpansion} {o : Outline}
    (h : o ∈ ModuleExpansion.outlines topic declared expansion) :
    expansion.isSome ∧ ∃ subject, o.topic = topic subject := by
  cases expansion with
  | none => simp [ModuleExpansion.outlines] at h
  | some expansion =>
    have hsome : (some expansion).isSome := rfl
    obtain ⟨subject, children, heq⟩ := ModuleExpansion.outlines_of_isSome hsome topic declared
    rw [heq, List.mem_singleton] at h
    exact ⟨rfl, subject, by rw [h]⟩

theorem ClassSignature.topic_of_mem_outlines {topic : Subject → Topic}
    {expansion : Option ClassSignature} {o : Outline}
    (h : o ∈ ClassSignature.outlines topic expansion) :
    expansion.isSome ∧ ∃ subject, o.topic = topic subject := by
  cases expansion with
  | none => simp [ClassSignature.outlines] at h
  | some sig =>
    rw [ClassSignature.outlines, List.mem_singleton] at h
    exact ⟨rfl, .members sig.items, by rw [h]⟩

/-! ## Nodes that link to a page -/

/-- An item leaves one node, made from what it is declared as. -/
theorem Checked.gives_item {Declared : Type} {declared : Checked Declared}
    {node : Declared → Bool → Noted Node} {hasPage : Bool} {c : Content} {ns : List Note}
    (h : (Checked.item declared node hasPage).Gives c ns) :
    ∃ d n, declared.Gives d n ∧ c.body = [(node d hasPage).value] := by
  obtain ⟨d, n₁, n₂, hd, hnode, rfl⟩ := Checked.gives_bind.mp h
  rw [Checked.gives_lift_bind] at hnode
  obtain ⟨n, hpure, rfl⟩ := hnode
  obtain ⟨rfl, -⟩ := Checked.gives_pure.mp hpure
  exact ⟨d, n₁, hd, rfl⟩

/-- What differs between the items that can have a page is only what stands around the name. -/
theorem Topic.linkedOn_of_item {Declared : Type} {here : Here} {t : Topic}
    {declared : Checked Declared} {node : Declared → Bool → Noted Node} {hasPage : Bool}
    {c : Content} {ns : List Note} (h : (Checked.item declared node hasPage).Gives c ns)
    (hpage : hasPage = true)
    (hnode : ∀ d, (node d true).value.NameLinks t.id.anchorOrNote.value t.id.name
      (t.kind.hrefBelow t.name here.settings.semanticUris)) :
    t.LinkedOn here c.body := by
  obtain ⟨d, -, -, hbody⟩ := Checked.gives_item h
  refine ⟨(node d true).value, Markup.mem_allNodes_of_mem ?_, hnode d⟩
  rw [hbody, hpage]
  exact List.mem_singleton.mpr rfl

theorem classKeywords_isWord (head : String) (isVirtual : Bool) (parameters : List TypeParameter) :
    ∀ word ∈ classKeywords head isVirtual parameters, word.isWord := by
  cases isVirtual <;> cases parameters <;> simp [classKeywords, keywordIf, Node.isWord]

section Nodes

variable (here : Here) (recursion : Recursion) (id : Identifier) (doc : Docs) (decl : Markup)

theorem moduleNode_nameLinks :
    (moduleNode here recursion id doc decl true).value.NameLinks id.anchorOrNote.value id.name
      (PageKind.module.hrefBelow id.name here.settings.semanticUris) :=
  ⟨"module", [.keyword (moduleHead recursion), .text " "], decl, _, by simp [Node.isWord], rfl⟩

theorem moduleTypeNode_nameLinks :
    (moduleTypeNode here id doc decl true).value.NameLinks id.anchorOrNote.value id.name
      (PageKind.moduleType.hrefBelow id.name here.settings.semanticUris) :=
  ⟨"module-type", [.keyword "module type", .text " "], decl, _, by simp [Node.isWord], rfl⟩

theorem parameterNode_nameLinks (position : Nat) :
    (parameterNode here position id decl true).value.NameLinks id.anchorOrNote.value id.name
      (PageKind.argument.hrefBelow (parameterPageName position id) here.settings.semanticUris) :=
  ⟨"argument", [], .text " : " :: decl, [], by simp, rfl⟩

theorem Class.node_nameLinks (c : Class) :
    (c.node here recursion decl true).value.NameLinks c.id.anchorOrNote.value c.id.name
      (PageKind.class.hrefBelow c.id.name here.settings.semanticUris) := by
  refine ⟨"class", classKeywords (if recursion = .and then "and" else "class") c.isVirtual
    c.parameters, .text " : " :: decl, (c.doc.renderSynopsis here).value,
    classKeywords_isWord _ _ _, ?_⟩
  simp [Class.node, Here.heading, Here.linkBelow]

theorem ClassType.node_nameLinks (c : ClassType) :
    (c.node here recursion decl true).value.NameLinks c.id.anchorOrNote.value c.id.name
      (PageKind.classType.hrefBelow c.id.name here.settings.semanticUris) := by
  refine ⟨"class-type", classKeywords (if recursion = .and then "and" else "class type")
    c.isVirtual c.parameters, .text " = " :: decl, (c.doc.renderSynopsis here).value,
    classKeywords_isWord _ _ _, ?_⟩
  simp [ClassType.node, Here.heading, Here.linkBelow]

end Nodes

/-! ## Pages below a page -/

/-- The page of an item is about something declared in `owner`, and the item links to it. -/
theorem SignatureItem.topic_of_mem_outlines {here : Here} {owner : Identifier}
    {visibility : Visibility} {c : Content} {ns : List Note} {o : Outline} {item : SignatureItem}
    (hitem : ∀ parent doc decl expansion, item ≠ .include parent doc decl expansion)
    (hproper : ∀ d ∈ item.declarations owner, d.Proper)
    (hshown : (item.shown here visibility).Gives c ns) (ho : o ∈ item.outlines) :
    o.topic.LiesIn owner ∧ o.topic.LinkedOn here c.body := by
  cases item with
  | module recursion id doc decl expansion =>
    rw [SignatureItem.outlines] at ho
    obtain ⟨hsome, subject, htopic⟩ := ModuleExpansion.topic_of_mem_outlines ho
    have hid : id = .child owner .module id.name := hproper _ (List.mem_singleton.mpr rfl)
    rw [htopic]
    refine ⟨?_, Topic.linkedOn_of_item hshown hsome fun d => moduleNode_nameLinks here _ id doc d⟩
    rw [hid]
    exact ⟨rfl, rfl, rfl, rfl⟩
  | moduleType id doc expr expansion =>
    rw [SignatureItem.outlines] at ho
    obtain ⟨hsome, subject, htopic⟩ := ModuleExpansion.topic_of_mem_outlines ho
    have hid : id = .child owner .moduleType id.name := hproper _ (List.mem_singleton.mpr rfl)
    rw [htopic]
    refine ⟨?_, Topic.linkedOn_of_item hshown hsome fun d => moduleTypeNode_nameLinks here id doc d⟩
    rw [hid]
    exact ⟨rfl, rfl, rfl, rfl⟩
  | «class» recursion decl =>
    rw [SignatureItem.outlines] at ho
    obtain ⟨hsome, subject, htopic⟩ := ClassSignature.topic_of_mem_outlines ho
    have hid : decl.id = .child owner .class decl.id.name :=
      hproper _ (List.mem_singleton.mpr rfl)
    rw [htopic]
    refine ⟨?_, Topic.linkedOn_of_item hshown hsome fun d => decl.node_nameLinks here _ d⟩
    rw [hid]
    exact ⟨rfl, rfl, rfl, rfl⟩
  | classType recursion decl =>
    rw [SignatureItem.outlines] at ho
    obtain ⟨hsome, subject, htopic⟩ := ClassSignature.topic_of_mem_outlines ho
    have hid : decl.id = .child owner .classType decl.id.name :=
      hproper _ (List.mem_singleton.mpr rfl)
    rw [htopic]
    refine ⟨?_, Topic.linkedOn_of_item hshown hsome fun d => decl.node_nameLinks here _ d⟩
    rw [hid]
    exact ⟨rfl, rfl, rfl, rfl⟩
  | «include» parent doc decl expansion => exact absurd rfl (hitem parent doc decl expansion)
  | moduleSubstitution | type | typeSubstitution | extension | exception | value | external
  | comment => simp [SignatureItem.outlines] at ho

@[inherit_doc SignatureItem.topic_of_mem_outlines]
theorem SignatureItem.topic_of_mem_outlinesAll {here : Here} {owner : Identifier}
    {visibility : Visibility} {c : Content} {ns : List Note} {o : Outline}
    {items : List SignatureItem}
    (hproper : ∀ d ∈ (SignatureItem.standingAll items).flatMap (SignatureItem.declarations owner),
      d.Proper)
    (hshown : (SignatureItem.shownAll here visibility items).Gives c ns)
    (ho : o ∈ SignatureItem.outlinesAll items) :
    o.topic.LiesIn owner ∧ o.topic.LinkedOn here c.body := by
  rw [SignatureItem.outlinesAll_eq_flatMap] at ho
  obtain ⟨item, hitem, ho⟩ := List.mem_flatMap.mp ho
  obtain ⟨v, c', ns', hshown', hsub⟩ := SignatureItem.shown_of_standingAll hitem hshown
  obtain ⟨hlies, hlinked⟩ := SignatureItem.topic_of_mem_outlines
    (SignatureItem.ne_include_of_standingAll hitem)
    (fun d hd => hproper d (List.mem_flatMap.mpr ⟨item, hitem, hd⟩)) hshown' ho
  exact ⟨hlies, hlinked.mono hsub⟩

/-- An argument that is shown stands where its identifier says. -/
theorem checkArgument_gives {position : Nat} {id : Identifier} {a : Unit} {ns : List Note}
    (h : (checkArgument position id).Gives a ns) :
    ∃ claimed, id.kind = .argument claimed ∧ claimed.toNat = position := by
  rw [checkArgument] at h
  split at h
  · rename_i claimed hkind
    split at h
    · rename_i hposition
      exact ⟨claimed, hkind, hposition⟩
    · exact absurd h Checked.not_gives_throw
  · exact absurd h Checked.not_gives_throw

/-- The page of a parameter is about the parameter, at the position that its identifier gives. -/
theorem FunctorParameter.topic_of_mem_outlinesAll {here : Here} {owner : Identifier} {o : Outline} :
    ∀ {parameters : List FunctorParameter} {position : Nat} {c : Content} {ns : List Note},
      (∀ d ∈ FunctorParameter.declarationsAll owner position parameters, d.Proper) →
      (FunctorParameter.shownAll here position parameters).Gives c ns →
      o ∈ FunctorParameter.outlinesAll position parameters →
      o.topic.LiesIn owner ∧ o.topic.LinkedOn here c.body
  | [], _, _, _, _, _, ho => by simp [FunctorParameter.outlinesAll] at ho
  | .unit :: parameters, position, c, ns, hproper, hshown, ho => by
    rw [FunctorParameter.declarationsAll] at hproper
    rw [FunctorParameter.shownAll] at hshown
    rw [FunctorParameter.outlinesAll] at ho
    exact FunctorParameter.topic_of_mem_outlinesAll hproper hshown ho
  | .named id expr expansion :: parameters, position, c, ns, hproper, hshown, ho => by
    obtain ⟨first, n₁, n₂, hfirst, htail, rfl⟩ := Checked.gives_bind.mp hshown
    obtain ⟨rest, hrest, rfl⟩ := Checked.gives_map.mp htail
    rw [FunctorParameter.outlinesAll, List.mem_append] at ho
    rcases ho with ho | ho
    · obtain ⟨hsome, subject, htopic⟩ := ModuleExpansion.topic_of_mem_outlines ho
      have hid : id = .child owner (.argument (.ofNat position)) id.name :=
        hproper _ List.mem_cons_self
      rw [htopic]
      constructor
      · obtain ⟨d, n, hd, -⟩ := Checked.gives_item hfirst
        obtain ⟨a, m₁, m₂, hcheck, -, -⟩ := Checked.gives_bind.mp hd
        obtain ⟨claimed, hkind, hposition⟩ := checkArgument_gives hcheck
        refine ⟨?_, ?_, ?_, ?_⟩
        · rw [hid]
          rfl
        · rw [hkind]
          rfl
        · rw [hkind]
          rfl
        · rw [hkind, ← hposition]
          rfl
      · refine Topic.LinkedOn.mono (Topic.linkedOn_of_item hfirst hsome fun d => ?_) (by simp)
        exact parameterNode_nameLinks here id d position
    · obtain ⟨hlies, hlinked⟩ := FunctorParameter.topic_of_mem_outlinesAll
        (fun d hd => hproper d (List.mem_cons_of_mem _ hd)) hrest ho
      exact ⟨hlies, hlinked.mono (by simp)⟩

/-- **Pages below a page.**  Each is about something that the page declares, and is linked from the
declaration. -/
theorem Subject.topic_of_mem_outlines {here : Here} {owner : Identifier} {subject : Subject}
    {c : Content} {ns : List Note} {o : Outline}
    (hproper : ∀ d ∈ subject.declarations owner, d.Proper)
    (hshown : (subject.shown here).Gives c ns) (ho : o ∈ subject.outlines) :
    o.topic.LiesIn owner ∧ o.topic.LinkedOn here c.body := by
  cases subject with
  | signature items => exact SignatureItem.topic_of_mem_outlinesAll hproper hshown ho
  | functor parameters result =>
    obtain ⟨a, n₁, n₂, hparameters, hrest, rfl⟩ := Checked.gives_bind.mp hshown
    obtain ⟨b, hresult, rfl⟩ := Checked.gives_map.mp hrest
    rw [Subject.declarations, List.forall_mem_append] at hproper
    rcases List.mem_append.mp ho with ho | ho
    · obtain ⟨hlies, hlinked⟩ :=
        FunctorParameter.topic_of_mem_outlinesAll hproper.1 hparameters ho
      exact ⟨hlies, hlinked.mono (functorBody_parameters_subset a b)⟩
    · obtain ⟨hlies, hlinked⟩ := SignatureItem.topic_of_mem_outlinesAll hproper.2 hresult ho
      exact ⟨hlies, hlinked.mono (functorBody_result_subset a b)⟩
  | members _ | pack _ | text _ => simp [Subject.outlines] at ho

/-! ## Pages of a unit -/

/-- What is known of a page when it is entered: its topic is located where the page is, and all that
is declared from here on is declared properly. -/
structure Outline.Placed (packages : Packages) (above : PagePath) (o : Outline) : Prop where
  located : o.topic.id.page packages = .ok (above ++ [o.topic.segment])
  grown : o.Grown
  proper : ∀ n ∈ o.nodes, ∀ d ∈ n.topic.declarations, d.Proper

theorem CompilationUnit.WellScoped.placed {u : CompilationUnit} (hu : u.WellScoped)
    (packages : Packages) :
    (Root.unit u).outline.Placed packages [packages.packageOf u.id] := by
  refine ⟨?_, Root.grown_outline _, hu.proper⟩
  have hkind := hu.root
  show u.id.page packages = .ok [packages.packageOf u.id, u.id.name]
  generalize u.id = id at hkind
  cases id with
  | top kind name =>
    obtain rfl : kind = .root := hkind
    rfl
  | child parent kind name =>
    obtain rfl : kind = .root := hkind
    rfl

/-- **One page.**  From the place of a page follow the places of the pages below it, and that the
page links to them. -/
theorem Outline.Placed.children {cfg : Settings} {above : PagePath} {o child : Outline}
    {page : Page} (hplaced : o.Placed cfg.packages above) (hd : o.Describes cfg above page)
    (hchild : child ∈ o.children) :
    child.topic.LiesIn o.topic.id ∧ child.topic.LinkedOn ⟨cfg, page.path⟩ page.body ∧
      child.Placed cfg.packages page.path := by
  obtain ⟨c, ns, hshown, hbody, -⟩ := hd.fits.content
  have hbelow : child ∈ o.topic.subject.outlines := by
    rw [← hplaced.grown o o.mem_nodes_self]
    exact hchild
  obtain ⟨hlies, hlinked⟩ :=
    Subject.topic_of_mem_outlines (hplaced.proper o o.mem_nodes_self) hshown hbelow
  refine ⟨hlies, ?_, ?_, hplaced.grown.of_mem_children hchild, ?_⟩
  · rw [hbody]
    exact hlinked
  · rw [hd.path]
    exact hlies.page hplaced.located
  · intro n hn
    exact hplaced.proper n (Outline.mem_nodes_of_mem_children hchild hn)

/-- **Pages lie where declarations are located.**  In a well scoped unit the page of a declaration
has the path that its identifier is located at, and the page above it shows the name of the
declaration as a link, the same that a reference to the declaration from there would be. -/
theorem CompilationUnit.pages_at_locations {cfg : Settings} {u : CompilationUnit}
    {out : Root.Rendered} (hu : u.WellScoped) (h : (Root.unit u).render cfg = .ok out) :
    List.Forall₂
      (fun o page => o.topic.Fits ⟨cfg, page.path⟩ page ∧
        o.topic.id.page cfg.packages = .ok page.path ∧
        ∀ child ∈ o.children, ∃ anchor href, child.topic.id.anchor = .ok anchor ∧
          cfg.href page.path child.topic.id false = .ok href ∧
          ∃ node ∈ Markup.allNodes page.body,
            node.NameLinks (some anchor) child.topic.id.name href)
      (Root.unit u).outline.nodes out.page.pages := by
  obtain ⟨hd, -⟩ := Root.render_eq_ok h
  refine hd.forall_nodes ?_ (hu.placed cfg.packages)
  intro above o page hd hplaced
  have hlocated : o.topic.id.page cfg.packages = .ok page.path := by
    rw [hplaced.located, hd.path]
  refine ⟨⟨hd.fits, hlocated, ?_⟩, fun child hchild => (hplaced.children hd hchild).2.2⟩
  intro child hchild
  obtain ⟨hlies, ⟨node, hmem, hnode⟩, -⟩ := hplaced.children hd hchild
  obtain ⟨anchor, hanchor⟩ := hlies.anchor
  rw [Identifier.anchorOrNote_value hanchor] at hnode
  exact ⟨anchor, _, hanchor, hlies.href hlocated, node, hmem, hnode⟩

theorem wellScoped_sampleUnit : sampleUnit.WellScoped := ⟨rfl, by decide⟩

theorem locations_sampleUnit : sampleUnit.WellScoped ∧
    ∃ out, (Root.unit sampleUnit).render {} = .ok out ∧
      out.page.pages.map Page.path =
        [["Lib", "Lib"], ["Lib", "Lib", "Make"], ["Lib", "Lib", "Make", "argument-2-Elt"],
          ["Lib", "Lib", "class-c"], ["Lib", "Lib", "module-type-S"]] ∧
      List.Forall₂ (fun o page => o.topic.id.page {} = .ok page.path)
        (Root.unit sampleUnit).outline.nodes out.page.pages := by
  refine ⟨wellScoped_sampleUnit, _, rfl, rfl, ?_⟩
  have hrender : (Root.unit sampleUnit).render {} = .ok _ := rfl
  have hpages := CompilationUnit.pages_at_locations wellScoped_sampleUnit hrender
  exact hpages.imp fun _ _ h => h.2.1

end DocSite
