import DocSite.Proofs.Anchors
import DocSite.Proofs.Identification
import DocSite.Proofs.MentionedDocs
import DocSite.Proofs.PageFiles
import DocSite.Proofs.RelativeLinks

/-!
# References between declarations of a unit

A reference in documentation becomes a link to the location of its target, whatever page it stands
on.  What a unit declares always has a location, so every reference to it is a link.  Whether the
link leads anywhere depends on the target.

* What owns no page is located at its anchor, and the anchor is on the page that shows it.
* What owns a page is located at that page.  The page is made if the declaration carries an
  expansion, and only then: a module that is declared without one is shown, with an anchor, on the
  page around it, but a reference to it leads to a page that is never made.

So a reference leads to a page of the unit exactly if its target owns no page or has been expanded
(`CompilationUnit.Places`).  The second half needs names that keep the paths of different pages
apart.
-/

namespace DocSite

/-! ## Targets of references -/

namespace CompilationUnit

/-- The unit declares the target, or it is the unit itself. -/
def Declares (u : CompilationUnit) (target : Identifier) : Prop :=
  target = u.id ∨ ∃ o ∈ (Root.unit u).outline.nodes,
    ∃ d ∈ o.topic.declarations ++ o.topic.subject.rowDeclarations, d.id = target

/-- The unit declares the target, and with an expansion if it owns a page. -/
def Places (u : CompilationUnit) (target : Identifier) : Prop :=
  target = u.id ∨ ∃ o ∈ (Root.unit u).outline.nodes,
    ∃ d ∈ o.topic.declarations ++ o.topic.subject.rowDeclarations,
      d.id = target ∧ (d.kind.ownsPage = true → d.hasPage = true)

end CompilationUnit

/-- The location is a page of the tree, and if it has an anchor this is an id on the page. -/
def Page.Has (root : Page) (location : Location) : Prop :=
  ∃ page ∈ root.pages, page.path = location.page ∧
    ∀ anchor ∈ location.anchor, anchor ∈ Markup.ids page.body

instance (u : CompilationUnit) (target : Identifier) : Decidable (u.Declares target) :=
  inferInstanceAs (Decidable (_ ∨ _))

instance (u : CompilationUnit) (target : Identifier) : Decidable (u.Places target) :=
  inferInstanceAs (Decidable (_ ∨ _))

instance (root : Page) (location : Location) : Decidable (root.Has location) :=
  inferInstanceAs (Decidable (∃ page ∈ root.pages, _ ∧ _))

/-- The piece of text stands on the page as a link to the location, and following the link from this
page leads there. -/
def Page.Links (cfg : Settings) (page : Page) (x : Inline) (location : Location) : Prop :=
  ∃ href children, (x.render ⟨cfg, page.path⟩).value = .link href children ∧
    .link href children ∈ Markup.allNodes (page.header ++ page.body) ∧
    ((∀ s ∈ location.page, IsSegment s) →
      Href.resolve page.path href = some (location.page, location.anchor))

/-! ## References as links -/

theorem Location.resolve_hrefFrom (source : PagePath) (target : Location) (semantic : Bool)
    (h : ∀ s ∈ target.page, IsSegment s) :
    Href.resolve source (target.hrefFrom source semantic) = some (target.page, target.anchor) := by
  rcases exists_hrefFrom source target semantic with
    ⟨rfl, hanchor, hhref⟩ | ⟨common, up, down, rfl, hpage, -, hhref⟩
  · rw [hhref, hanchor]
    rfl
  · have hdown : ∀ s ∈ down, IsSegment s := fun s hs =>
      h s (hpage ▸ List.mem_append_right _ hs)
    rw [hhref, resolve_hrefPath _ hdown, hpage]

/-- A reference to what has a location is a link to it. -/
theorem Inline.render_reference (here : Here) {target : Identifier} {location : Location}
    (h : target.location here.settings.packages false = .ok location) (content : List Inline) :
    ∃ children, ((Inline.reference target content).render here).value =
      .link (location.hrefFrom here.page here.settings.semanticUris) children := by
  have hhref : here.settings.href here.page target false =
      .ok (location.hrefFrom here.page here.settings.semanticUris) := by
    rw [Settings.href, h]
    rfl
  cases content with
  | nil =>
    refine ⟨[.code [.text target.name]], ?_⟩
    simp [Inline.render, hhref, Noted.orElse, Except.map]
  | cons x xs =>
    refine ⟨(Inline.renderAll here (x :: xs)).value, ?_⟩
    simp [Inline.render, hhref, Noted.orElse, Except.map]

/-! ## Declarations and pages -/

/-- The page of an item is about what the item declares, with an expansion. -/
theorem SignatureItem.exists_declaration (owner : Identifier) {item : SignatureItem} {o : Outline}
    (hitem : ∀ parent doc decl expansion, item ≠ .include parent doc decl expansion)
    (h : o ∈ item.outlines) :
    ∃ d ∈ item.declarations owner, d.id = o.topic.id ∧ d.hasPage = true := by
  cases item with
  | «module» | moduleType =>
    rw [SignatureItem.outlines] at h
    obtain ⟨hsome, subject, htopic⟩ := ModuleExpansion.topic_of_mem_outlines h
    exact ⟨_, List.mem_singleton.mpr rfl, by rw [htopic], hsome⟩
  | «class» | classType =>
    rw [SignatureItem.outlines] at h
    obtain ⟨hsome, subject, htopic⟩ := ClassSignature.topic_of_mem_outlines h
    exact ⟨_, List.mem_singleton.mpr rfl, by rw [htopic], hsome⟩
  | «include» parent doc decl expansion => exact absurd rfl (hitem parent doc decl expansion)
  | moduleSubstitution | type | typeSubstitution | extension | exception | value | external
  | comment => simp [SignatureItem.outlines] at h

theorem FunctorParameter.exists_declaration (owner : Identifier) {o : Outline} :
    ∀ {parameters : List FunctorParameter} {position : Nat},
      o ∈ FunctorParameter.outlinesAll position parameters →
      ∃ d ∈ FunctorParameter.declarationsAll owner position parameters,
        d.id = o.topic.id ∧ d.hasPage = true
  | [], _, h => by simp [FunctorParameter.outlinesAll] at h
  | .unit :: parameters, position, h => by
    rw [FunctorParameter.outlinesAll] at h
    rw [FunctorParameter.declarationsAll]
    exact FunctorParameter.exists_declaration owner h
  | .named id expr expansion :: parameters, position, h => by
    rw [FunctorParameter.outlinesAll, List.mem_append] at h
    rcases h with h | h
    · obtain ⟨hsome, subject, htopic⟩ := ModuleExpansion.topic_of_mem_outlines h
      exact ⟨_, List.mem_cons_self, by rw [htopic], hsome⟩
    · obtain ⟨d, hd, hid, hpage⟩ := FunctorParameter.exists_declaration owner h
      exact ⟨d, List.mem_cons_of_mem _ hd, hid, hpage⟩

/-- **Declarations of pages.**  Each page below a page is about something that the page declares
with an expansion. -/
theorem Subject.exists_declaration (owner : Identifier) {subject : Subject} {o : Outline}
    (h : o ∈ subject.outlines) :
    ∃ d ∈ subject.declarations owner, d.id = o.topic.id ∧ d.hasPage = true := by
  have hitems : ∀ items : List SignatureItem, o ∈ SignatureItem.outlinesAll items →
      ∃ d ∈ (SignatureItem.standingAll items).flatMap (SignatureItem.declarations owner),
        d.id = o.topic.id ∧ d.hasPage = true := by
    intro items h
    rw [SignatureItem.outlinesAll_eq_flatMap] at h
    obtain ⟨item, hitem, ho⟩ := List.mem_flatMap.mp h
    obtain ⟨d, hd, hid, hpage⟩ := SignatureItem.exists_declaration owner
      (SignatureItem.ne_include_of_standingAll hitem) ho
    exact ⟨d, List.mem_flatMap.mpr ⟨item, hitem, hd⟩, hid, hpage⟩
  cases subject with
  | signature items => exact hitems items h
  | functor parameters result =>
    rcases List.mem_append.mp h with h | h
    · obtain ⟨d, hd, hid, hpage⟩ := FunctorParameter.exists_declaration owner h
      exact ⟨d, List.mem_append_left _ hd, hid, hpage⟩
    · obtain ⟨d, hd, hid, hpage⟩ := hitems result h
      exact ⟨d, List.mem_append_right _ hd, hid, hpage⟩
  | members _ | pack _ | text _ => simp [Subject.outlines] at h

/-- Rows own no pages. -/
theorem Subject.ownsPage_of_mem_rowDeclarations {subject : Subject} {d : Declaration}
    (h : d ∈ subject.rowDeclarations) : d.kind.ownsPage = false := by
  have hfields {owner : Identifier} {fields : List Field}
      (h : d ∈ Field.declarations owner fields) : d.kind.ownsPage = false := by
    obtain ⟨f, -, rfl⟩ := List.mem_map.mp h
    rfl
  have hconstructor {c : Constructor} (h : d ∈ c.fieldDeclarations) :
      d.kind.ownsPage = false := by
    rw [Constructor.fieldDeclarations] at h
    split at h
    · cases h
    · exact hfields h
  have hdecl {decl : TypeDecl} (h : d ∈ decl.rowDeclarations) : d.kind.ownsPage = false := by
    rw [TypeDecl.rowDeclarations] at h
    split at h
    · obtain ⟨c, -, h⟩ := List.mem_flatMap.mp h
      rcases List.mem_cons.mp h with rfl | h
      · rfl
      · exact hconstructor h
    · exact hfields h
    · cases h
    · cases h
  have hitems {items : List SignatureItem}
      (h : d ∈ (SignatureItem.standingAll items).flatMap SignatureItem.rowDeclarations) :
      d.kind.ownsPage = false := by
    obtain ⟨item, -, h⟩ := List.mem_flatMap.mp h
    cases item with
    | type _ decl | typeSubstitution decl => exact hdecl h
    | extension e =>
      obtain ⟨c, -, h⟩ := List.mem_flatMap.mp h
      exact hconstructor h
    | exception e => exact hconstructor h
    | _ => cases h
  cases subject with
  | signature items => exact hitems h
  | functor _ items => exact hitems h
  | members _ | pack _ | text _ => cases h

/-- What owns a page is declared by an item and not by a row. -/
theorem Topic.mem_declarations_of_ownsPage {t : Topic} {d : Declaration}
    (h : d ∈ t.declarations ++ t.subject.rowDeclarations) (howns : d.kind.ownsPage = true) :
    d ∈ t.declarations := by
  rcases List.mem_append.mp h with h | h
  · exact h
  · rw [Subject.ownsPage_of_mem_rowDeclarations h] at howns
    cases howns

/-- The nodes of an outline are the outline itself and the children of its nodes. -/
theorem Outline.mem_nodes_iff {o n : Outline} :
    n ∈ o.nodes ↔ n = o ∨ ∃ parent ∈ o.nodes, n ∈ parent.children := by
  rw [← mem_nodesAll_children]
  obtain ⟨topic, children⟩ := o
  exact List.mem_cons

/-! ## Pages of a unit -/

/-- What owns a page is located there. -/
theorem Identifier.location_of_page {packages : Packages} {id : Identifier} {path : PagePath}
    (h : id.page packages = .ok path) : id.location packages false = .ok ⟨path, none⟩ := by
  rw [Identifier.location, Identifier.ownsPage_of_page h, h]
  simp [Except.map]

/-- A declaration of a kind that owns pages has a page in its place, made or not. -/
theorem Declaration.Proper.exists_page {packages : Packages} {d : Declaration} {above : PagePath}
    (h : d.Proper) (howner : d.owner.page packages = .ok above) (hkind : d.kind.anchorHead?.isSome)
    (howns : d.kind.ownsPage = true) : ∃ path, d.id.page packages = .ok path := by
  obtain ⟨pageKind, hpageKind⟩ :=
    Option.isSome_iff_exists.mp (d.kind.isSome_pageKind?.trans howns)
  have hsegment : (Identifier.child d.owner d.kind d.id.name).segment? =
      some (pageKind.segment (d.kind.pageName d.id.name)) := by
    rw [Identifier.segment?, Identifier.kind_child, hpageKind]
    rfl
  rw [h]
  exact ⟨_, Identifier.page_child howner (Kind.of_anchorHead? hkind).1 hsegment⟩

/-- What is known of a page of a unit: it lies at the page of its topic, and all that is declared on
it has a location, on this page unless it owns another. -/
structure Outline.Settles (cfg : Settings) (o : Outline) (page : Page) : Prop where
  fits : o.topic.Fits ⟨cfg, page.path⟩ page
  located : o.topic.id.page cfg.packages = .ok page.path
  owners : ∀ d ∈ o.topic.declarations, d.kind.ownsPage = true →
    ∃ path, d.id.page cfg.packages = .ok path
  others : ∀ d ∈ o.topic.declarations ++ o.topic.subject.rowDeclarations, d.kind.ownsPage = false →
    ∃ anchor ∈ Markup.ids page.body,
      d.id.location cfg.packages false = .ok ⟨page.path, some anchor⟩

namespace CompilationUnit

variable {cfg : Settings} {u : CompilationUnit} {out : Root.Rendered}

theorem settles (hu : u.FullyScoped) (h : (Root.unit u).render cfg = .ok out) :
    List.Forall₂ (Outline.Settles cfg) (Root.unit u).outline.nodes out.page.pages := by
  obtain ⟨hd, -⟩ := Root.render_eq_ok h
  have hplaced : (Root.unit u).outline.FullyPlaced cfg.packages [cfg.packages.packageOf u.id] :=
    ⟨hu.placed cfg.packages, hu.rows⟩
  refine hd.forall_nodes ?_ hplaced
  intro above o page hd hplaced
  have hlocated : o.topic.id.page cfg.packages = .ok page.path := by
    rw [hplaced.located, hd.path]
  refine ⟨⟨hd.fits, hlocated, ?_, ?_⟩, fun child hchild => ⟨?_, ?_⟩⟩
  · intro d hmem howns
    obtain ⟨howner, hkind⟩ := Subject.kind_of_mem_declarations hmem
    have hproper := hplaced.proper o o.mem_nodes_self d hmem
    exact hproper.exists_page (howner ▸ hlocated) hkind howns
  · intro d hmem howns
    obtain ⟨anchor, hid, -, hlocation⟩ := hplaced.anchored hd hmem
    exact ⟨anchor, hid, hlocation howns⟩
  · exact (hplaced.children hd hchild).2.2
  · intro n hn
    exact hplaced.rows n (Outline.mem_nodes_of_mem_children hchild hn)

end CompilationUnit

/-! ## Targets on settled pages -/

namespace CompilationUnit

variable {cfg : Settings} {u : CompilationUnit} {root : Page} {target : Identifier}

section Settled

variable (h : List.Forall₂ (Outline.Settles cfg) (Root.unit u).outline.nodes root.pages)

include h

/-- The page of every topic is there, and the topic is located at it. -/
theorem has_of_mem_nodes {o : Outline} (ho : o ∈ (Root.unit u).outline.nodes) {location : Location}
    (hlocation : o.topic.id.location cfg.packages false = .ok location) : root.Has location := by
  obtain ⟨page, hpage, hsettles⟩ := exists_of_forall₂ h ho
  rw [Identifier.location_of_page hsettles.located] at hlocation
  obtain rfl := Except.ok.inj hlocation
  exact ⟨page, hpage, rfl, by simp⟩

/-- What a unit declares has a location. -/
theorem Declares.exists_location (htarget : u.Declares target) :
    ∃ location, target.location cfg.packages false = .ok location := by
  rcases htarget with rfl | ⟨o, ho, d, hd, rfl⟩
  · obtain ⟨page, -, hsettles⟩ := exists_of_forall₂ h (Outline.mem_nodes_self _)
    exact ⟨_, Identifier.location_of_page hsettles.located⟩
  · obtain ⟨page, -, hsettles⟩ := exists_of_forall₂ h ho
    cases howns : d.kind.ownsPage with
    | false =>
      obtain ⟨anchor, -, hlocation⟩ := hsettles.others d hd howns
      exact ⟨_, hlocation⟩
    | true =>
      obtain ⟨path, hpath⟩ := hsettles.owners d (Topic.mem_declarations_of_ownsPage hd howns) howns
      exact ⟨_, Identifier.location_of_page hpath⟩

/-- **References that lead somewhere.**  What owns no page is anchored on a page of the unit, and
what carries an expansion has a page. -/
theorem Places.has (htarget : u.Places target) {location : Location}
    (hlocation : target.location cfg.packages false = .ok location) : root.Has location := by
  rcases htarget with rfl | ⟨o, ho, d, hd, rfl, hexpanded⟩
  · exact has_of_mem_nodes h (Outline.mem_nodes_self (Root.unit u).outline) hlocation
  cases howns : d.kind.ownsPage with
  | false =>
    obtain ⟨page, hpage, hsettles⟩ := exists_of_forall₂ h ho
    obtain ⟨anchor, hid, hanchored⟩ := hsettles.others d hd howns
    obtain rfl := Except.ok.inj (hanchored.symm.trans hlocation)
    exact ⟨page, hpage, rfl, by simpa using hid⟩
  | true =>
    obtain ⟨child, hchild, hid⟩ := Subject.exists_outline
      (Topic.mem_declarations_of_ownsPage hd howns) (hexpanded howns)
    rw [← Root.grown_outline _ o ho] at hchild
    rw [← hid] at hlocation
    exact has_of_mem_nodes h (Outline.mem_nodes_iff.mpr (.inr ⟨o, ho, hchild⟩)) hlocation

/-- **References that lead nowhere.**  If names keep pages apart, a location on a page of the unit
is that of something that owns no page or carries an expansion. -/
theorem Declares.places_of_has (htarget : u.Declares target) {location : Location}
    (hlocation : target.location cfg.packages false = .ok location) (hhas : root.Has location)
    {capital : Char → Bool} (hnested : target.WellNested capital)
    (hnodes : ∀ o ∈ (Root.unit u).outline.nodes, o.topic.id.WellNested capital) :
    u.Places target := by
  rcases htarget with rfl | ⟨o, ho, d, hd, rfl⟩
  · exact .inl rfl
  cases howns : d.kind.ownsPage with
  | false => exact .inr ⟨o, ho, d, hd, rfl, by simp [howns]⟩
  | true =>
    obtain ⟨page, -, hsettles⟩ := exists_of_forall₂ h ho
    obtain ⟨path, hpath⟩ := hsettles.owners d (Topic.mem_declarations_of_ownsPage hd howns) howns
    rw [Identifier.location_of_page hpath] at hlocation
    obtain rfl := Except.ok.inj hlocation
    -- the page at this path is about the target, so the page above it declares the target
    obtain ⟨goal, hgoal, rfl, -⟩ := hhas
    have hflip : List.Forall₂ (flip (Outline.Settles cfg)) root.pages _ := h.flip
    obtain ⟨n, hn, hsettled⟩ := exists_of_forall₂ hflip hgoal
    have hid : n.topic.id = d.id := (hnodes n hn).page_inj hnested hsettled.located hpath
    rcases Outline.mem_nodes_iff.mp hn with rfl | ⟨parent, hparent, hchild⟩
    · exact .inl hid.symm
    · rw [Root.grown_outline _ parent hparent] at hchild
      obtain ⟨d', hd', hid', hpage⟩ := Subject.exists_declaration parent.topic.id hchild
      exact .inr ⟨parent, hparent, d', List.mem_append_left _ hd', hid'.trans hid, fun _ => hpage⟩

end Settled

end CompilationUnit

/-- **Where references lead.**  In a unit that is well scoped throughout, every reference to
something that the unit declares becomes a link to the location of its target, on every page that
shows the documentation it stands in; and all references that a page mentions stand in its
documentation.  The location is on a page of the unit, at an id of this page if it has an anchor, if
the target owns no page or carries an expansion.  If names keep pages apart it is so for no other
target. -/
theorem CompilationUnit.references_lead_to_declarations {cfg : Settings} {u : CompilationUnit}
    {out : Root.Rendered} (hu : u.FullyScoped) (h : (Root.unit u).render cfg = .ok out) :
    List.Forall₂
      (fun o page => o.topic.Fits ⟨cfg, page.path⟩ page ∧
        (∀ target, .reference target ∈ o.topic.mentions →
          ∃ content, .reference target content ∈ o.topic.docs.pieces) ∧
        ∀ target content, .reference target content ∈ o.topic.docs.pieces → u.Declares target →
          ∃ location, target.location cfg.packages false = .ok location ∧
            page.Links cfg (.reference target content) location ∧
            (u.Places target → out.page.Has location) ∧
            ∀ capital, target.WellNested capital →
              (∀ n ∈ (Root.unit u).outline.nodes, n.topic.id.WellNested capital) →
              out.page.Has location → u.Places target)
      (Root.unit u).outline.nodes out.page.pages := by
  have hpages := CompilationUnit.settles hu h
  refine hpages.imp fun o page hsettles => ⟨hsettles.fits, ?_, ?_⟩
  · intro target hmention
    exact o.topic.covers_mentions _ hmention
  intro target content hmem htarget
  obtain ⟨location, hlocation⟩ := htarget.exists_location hpages
  obtain ⟨children, hlink⟩ := Inline.render_reference ⟨cfg, page.path⟩ hlocation content
  have hshown := hsettles.fits.mem_allNodes hmem
  rw [hlink] at hshown
  refine ⟨location, hlocation, ⟨_, children, hlink, hshown, ?_⟩, ?_, ?_⟩
  · exact Location.resolve_hrefFrom page.path location cfg.semanticUris
  · exact fun hplaces => hplaces.has hpages hlocation
  · exact fun capital hnested hnodes hhas =>
      htarget.places_of_has hpages hlocation hhas hnested hnodes

/-- A unit with references from both of its pages: down to a value of a module, up to a constructor
and to the unit itself, and to a module that is not expanded. -/
def sampleReferences : CompilationUnit :=
  let lib := Identifier.top .root "Lib"
  let inner := lib.child .module "Inner"
  let t := lib.child .type "t"
  let up : Docs := [.paragraph [.reference (t.child .constructor "A") [], .reference lib []]]
  let down : Docs :=
    [.paragraph [.reference (inner.child .value "x") [], .reference (lib.child .module "N") []]]
  ⟨lib, down, .module [
    .type .ordinary
      { id := t, representation := some (.variant [{ id := t.child .constructor "A" }]) },
    .module .ordinary inner []
      (.moduleType (.signature [.value { id := inner.child .value "x", type := .any, doc := up }]))
      (some .asDeclared),
    .module .ordinary (lib.child .module "N") [] (.alias (.root "Other")) none]⟩

theorem references_sampleReferences : sampleReferences.FullyScoped ∧
    ∃ out, (Root.unit sampleReferences).render {} = .ok out ∧ out.warnings = [] ∧
      (∃ children, .link "Inner/index.html#val-x" children ∈ Markup.allNodes out.page.header) ∧
      sampleReferences.Places (.child (.child (.top .root "Lib") .module "Inner") .value "x") ∧
      ¬ sampleReferences.Places (.child (.top .root "Lib") .module "N") ∧
      List.Forall₂
        (fun o page => ∀ target content, .reference target content ∈ o.topic.docs.pieces →
          sampleReferences.Declares target →
            ∃ location, target.location {} false = .ok location ∧
              page.Links {} (.reference target content) location ∧
              (target.WellNested Char.isUpper →
                (out.page.Has location ↔ sampleReferences.Places target)))
        (Root.unit sampleReferences).outline.nodes out.page.pages := by
  have hscoped : sampleReferences.FullyScoped := ⟨⟨rfl, by decide⟩, by decide⟩
  have hrender : (Root.unit sampleReferences).render {} = .ok _ := rfl
  have hnodes : ∀ n ∈ (Root.unit sampleReferences).outline.nodes,
      n.topic.id.WellNested Char.isUpper := by decide
  refine ⟨hscoped, _, hrender, rfl, ⟨_, .tail _ (.head _)⟩, by decide, by decide, ?_⟩
  have hpages := CompilationUnit.references_lead_to_declarations hscoped hrender
  refine hpages.imp fun o page hpage target content hmem htarget => ?_
  obtain ⟨location, hlocation, hlinks, hhas, hplaces⟩ := hpage.2.2 target content hmem htarget
  exact ⟨location, hlocation, hlinks, fun hnested => ⟨hplaces _ hnested hnodes, hhas⟩⟩

/-- A unit that declares a module without an expansion and refers to it. -/
def sampleUnexpanded : CompilationUnit :=
  ⟨.top .root "A", [.paragraph [.reference (.child (.top .root "A") .module "M") []]], .module [
    .module .ordinary (.child (.top .root "A") .module "M") [] (.alias (.root "N")) none]⟩

/-- **A reference that leads nowhere.**  The module stands on the page of its unit, with an anchor,
but the reference to it is a link to a page that is never made, and there is no warning. -/
theorem sampleUnexpanded_leads_nowhere : sampleUnexpanded.FullyScoped ∧
    sampleUnexpanded.Declares (.child (.top .root "A") .module "M") ∧
    ∃ out, (Root.unit sampleUnexpanded).render {} = .ok out ∧ out.warnings = [] ∧
      out.page.path = ["A", "A"] ∧
      out.page.header = [.paragraph [.link "M/index.html" [.code [.text "M"]]]] ∧
      Href.resolve ["A", "A"] "M/index.html" = some (["A", "A", "M"], none) ∧
      ¬ out.page.Has ⟨["A", "A", "M"], none⟩ ∧
      Markup.ids out.page.body = ["module-M"] := by
  have hscoped : sampleUnexpanded.FullyScoped := ⟨⟨rfl, by decide⟩, by decide⟩
  exact ⟨hscoped, by decide, _, rfl, rfl, rfl, rfl, by decide, by decide, rfl⟩

end DocSite
