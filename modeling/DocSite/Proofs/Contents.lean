import DocSite.Proofs.PageTree
import DocSite.Proofs.TextLogic

/-!
# The table of contents of a page

The table of contents and the headings of a page are made by different hands.  The table is read off
the comments, before anything is rendered: it lists the headings that stand directly in a comment,
with their text as it was written.  The headings are nodes of the rendered page, and there are more
of them: those inside lists, those in the documentation of single declarations, and the two that
every functor page has.

What is shown here is that the table is made from headings of the page, in the order in which they
stand there.  Two things have to agree for that.  The text of a heading must survive rendering, and
it does whether or not the references inside it can be linked, since a reference that cannot keeps
its text.  And whatever hides a comment must hide its headings from the table as well; so
`SignatureItem.contents` says which headings a signature lists, and the content of a page is shown
to list exactly these.
-/

namespace DocSite

/-! ## Headings on a page -/

/-- A heading as it stands on a page: its level, its id and its text. -/
abbrev HeadingLine := UInt8 × Option String × String

def Node.headingLine? : Node → Option HeadingLine
  | .heading level id children => some (level, id, Markup.plainText children)
  | _ => none

def Node.headings (n : Node) : List HeadingLine := n.allNodes.filterMap Node.headingLine?

/-- The heading that an entry of the table of contents points at. -/
def ContentsEntry.line (e : ContentsEntry) : HeadingLine := (e.level, some e.anchor, e.text)

namespace Markup

/-- The headings of some markup, in the order in which they are met. -/
def headings (ns : Markup) : List HeadingLine := (allNodes ns).filterMap Node.headingLine?

@[simp] theorem headings_nil : headings [] = [] := rfl

@[simp] theorem headings_cons (n : Node) (ns : Markup) :
    headings (n :: ns) = n.headings ++ headings ns := by
  simp [headings, Node.headings, allNodes]

@[simp] theorem headings_append (a b : Markup) : headings (a ++ b) = headings a ++ headings b := by
  simp [headings]

end Markup

namespace Node

@[simp] theorem headings_heading (level : UInt8) (id : Option String) (children : Markup) :
    (Node.heading level id children).headings =
      (level, id, Markup.plainText children) :: Markup.headings children := rfl

@[simp] theorem headings_block (cls : String) (children : Markup) :
    (Markup.block cls children).headings = Markup.headings children := rfl

@[simp] theorem headings_details (isOpen : Bool) (summary body : Markup) :
    (Node.details isOpen summary body).headings =
      Markup.headings summary ++ Markup.headings body :=
  List.filterMap_append

end Node

/-! ## The text of a heading -/

mutual

/-- Running text keeps its text when it is rendered, with or without its links. -/
theorem Inline.plainText_render (here : Here) :
    ∀ x : Inline, (x.render here).value.plainText = x.plainText
  | .text s => rfl
  | .code s => by
    change s ++ "" = s
    exact String.append_empty
  | .emphasis xs => Inline.plainText_renderAll here xs
  | .bold xs => Inline.plainText_renderAll here xs
  | .link target [] => by
    change target ++ "" = target
    exact String.append_empty
  | .link target (x :: xs) => Inline.plainText_renderAll here (x :: xs)
  | .reference target xs => by
    -- linked or not, the node has the same children
    have hnode (children : Markup) :
        (Noted.orElse
          ((here.settings.href here.page target false).map fun href => Node.link href children)
          (.reference target) (.span "xref-unresolved" children)).value.plainText =
            Markup.plainText children := by
      cases here.settings.href here.page target false <;> rfl
    cases xs with
    | nil =>
      refine (hnode _).trans ?_
      change target.name ++ "" ++ "" = target.name
      rw [String.append_empty, String.append_empty]
    | cons x xs => exact (hnode _).trans (Inline.plainText_renderAll here (x :: xs))

@[inherit_doc Inline.plainText_render]
theorem Inline.plainText_renderAll (here : Here) :
    ∀ xs : List Inline, Markup.plainText (Inline.renderAll here xs).value = Inline.plainTexts xs
  | [] => rfl
  | x :: xs => by
    have hfirst := Inline.plainText_render here x
    have hrest := Inline.plainText_renderAll here xs
    simp only [Inline.renderAll, Noted.value_bind, Noted.value_pure, Markup.plainText,
      Inline.plainTexts, hfirst, hrest]

end

/-- The headings that stand directly in a comment are headings of the rendered comment. -/
theorem Docs.headings_sublist (here : Here) (docs : Docs) :
    (docs.headings.map ContentsEntry.line).Sublist (Markup.headings (docs.render here).value) := by
  induction docs with
  | nil => exact List.nil_sublist _
  | cons b docs ih =>
    have hrender : (Docs.render here (b :: docs)).value =
        (b.render here).value ++ (Docs.render here docs).value := rfl
    rw [hrender, Markup.headings_append]
    cases b with
    | heading level label content =>
      have hblock : (Block.render here (.heading level label content)).value =
          [.heading level (some (headingId label content)) (Inline.renderAll here content).value] :=
        rfl
      rw [hblock, Markup.headings_cons, Node.headings_heading, Inline.plainText_renderAll,
        List.cons_append, List.cons_append]
      exact (ih.trans (List.sublist_append_right _ _)).cons_cons _
    | _ => exact ih.trans (List.sublist_append_right _ _)

/-! ## What a page lists -/

/-- The entries that a comment between items makes, if comments are shown. -/
def Docs.commentContents (visibility : Visibility) (docs : Docs) : List ContentsEntry :=
  match visibility with
  | .visible => docs.headings
  | .hidden => []

mutual

/-- The entries that items make on the page they stand on.  Only comments make any, and those of an
include count where the include stands. -/
def SignatureItem.contentsAll (visibility : Visibility) : List SignatureItem → List ContentsEntry
  | [] => []
  | item :: items =>
    item.contents visibility ++ SignatureItem.contentsAll (item.visibilityAfter visibility) items

@[inherit_doc SignatureItem.contentsAll]
def SignatureItem.contents (visibility : Visibility) : SignatureItem → List ContentsEntry
  | .include _ doc _ expansion =>
    if doc.hasTag .inline then SignatureItem.contentsAll visibility expansion
    else SignatureItem.contentsAll .visible expansion
  | .comment (.docs docs) => docs.commentContents visibility
  | _ => []

end

/-- The entries that the members of a class make. -/
def ClassItem.contentsAll : Visibility → List ClassItem → List ContentsEntry
  | _, [] => []
  | visibility, .comment .stop :: items => ClassItem.contentsAll visibility.toggle items
  | visibility, .comment (.docs docs) :: items =>
    docs.commentContents visibility ++ ClassItem.contentsAll visibility items
  | visibility, _ :: items => ClassItem.contentsAll visibility items

/-- The entries that a subject makes on its page.  The parameters of a functor make none. -/
def Subject.contents : Subject → List ContentsEntry
  | .signature items => SignatureItem.contentsAll .visible items
  | .functor _ result => SignatureItem.contentsAll .visible result
  | .members items => ClassItem.contentsAll .visible items
  | .pack _ => []
  | .text docs => docs.headings

/-- The table of contents of the page about a topic. -/
def Topic.contents (t : Topic) : List ContentsEntry := t.doc.headings ++ t.subject.contents

/-! ## Content that lists its headings -/

/-- The content lists these entries, and each is a heading of its body, in the order in which the
headings stand there. -/
structure Content.Lists (entries : List ContentsEntry) (c : Content) : Prop where
  toc : c.toc = entries
  headings : (entries.map ContentsEntry.line).Sublist (Markup.headings c.body)

namespace Content.Lists

theorem empty : Content.Lists [] {} := ⟨rfl, List.nil_sublist _⟩

theorem ofNode (node : Node) : Content.Lists [] (.ofNode node) := ⟨rfl, List.nil_sublist _⟩

theorem append {es fs : List ContentsEntry} {a b : Content} (ha : a.Lists es) (hb : b.Lists fs) :
    (a ++ b).Lists (es ++ fs) where
  toc := by
    change a.toc ++ b.toc = es ++ fs
    rw [ha.toc, hb.toc]
  headings := by
    change ((es ++ fs).map ContentsEntry.line).Sublist (Markup.headings (a.body ++ b.body))
    rw [List.map_append, Markup.headings_append]
    exact ha.headings.append hb.headings

/-- The headings inside an include are inside its details. -/
theorem includeBody {es : List ContentsEntry} {inner : Content} (cfg : Settings) (doc : Docs)
    (head : Markup × Markup) (h : inner.Lists es) :
    (includeBody cfg doc head inner).Lists es where
  toc := h.toc
  headings := by
    refine h.headings.trans ?_
    simp only [DocSite.includeBody, Markup.headings_cons, Markup.headings_nil, Node.headings_block,
      Markup.headings_append, Node.headings_details, List.append_nil]
    exact (List.sublist_append_right _ _).trans (List.sublist_append_right _ _)

/-- A functor page lists what its result lists; its own two headings are not listed. -/
theorem functorBody {es : List ContentsEntry} {result : Content} (parameters : Content)
    (h : result.Lists es) : (functorBody parameters result).Lists es where
  toc := h.toc
  headings := by
    change List.Sublist _ (Markup.headings (_ ++ result.body))
    rw [Markup.headings_append]
    exact h.headings.trans (List.sublist_append_right _ _)

end Content.Lists

theorem Docs.lists_comment (here : Here) (visibility : Visibility) (docs : Docs) :
    (docs.comment here visibility).value.Lists (docs.commentContents visibility) := by
  cases visibility with
  | hidden => exact .empty
  | visible =>
    refine ⟨rfl, ?_⟩
    have hbody : ∀ body : Markup,
        Markup.headings (if body.isEmpty then [] else [Markup.block "odoc-comment" body]) =
          Markup.headings body := by
      intro body
      cases body with
      | nil => rfl
      | cons n ns =>
        change Markup.headings [Markup.block "odoc-comment" (n :: ns)] = _
        rw [Markup.headings_cons, Node.headings_block, Markup.headings_nil, List.append_nil]
    change List.Sublist _ (Markup.headings (if _ then [] else [Markup.block "odoc-comment" _]))
    rw [hbody]
    exact docs.headings_sublist here

/-! ## Texts -/

/-- The text lists these entries, if it comes out. -/
def Checked.Lists (entries : List ContentsEntry) (x : Checked Content) : Prop :=
  x.Ensures (fun _ => True) (Content.Lists entries)

namespace Checked.Lists

variable {α : Type} {es fs : List ContentsEntry}

theorem ofNoted {x : Noted Content} (h : x.value.Lists es) : Checked.Lists es (liftM x) :=
  Checked.Ensures.lift ⟨h, fun _ _ => trivial⟩

/-- Whatever comes before a text, the text lists what it lists. -/
theorem after {x : Checked α} {f : α → Checked Content} (h : ∀ a, Checked.Lists es (f a)) :
    Checked.Lists es (x >>= f) :=
  Checked.Ensures.bind (Q := fun _ => True) ⟨fun _ _ _ => trivial, fun _ _ => trivial⟩
    fun a _ => h a

theorem append {x y : Checked Content} (hx : Checked.Lists es x) (hy : Checked.Lists fs y) :
    Checked.Lists (es ++ fs) (do let a ← x; let b ← y; return a ++ b) := by
  refine Checked.Ensures.bind hx fun a ha => ?_
  exact Checked.Ensures.bind hy fun b hb => .pure (ha.append hb)

/-- A node makes no entry. -/
theorem ofNode (node : Noted Node) : Checked.Lists [] (do return .ofNode (← node)) :=
  .after fun n => .pure (.ofNode n)

theorem item {Declared : Type} (declared : Checked Declared)
    (node : Declared → Bool → Noted Node) (hasPage : Bool) :
    Checked.Lists [] (Checked.item declared node hasPage) :=
  .after fun d => .ofNode (node d hasPage)

/-- A node in front of other content makes no entry. -/
theorem node_append {node : Noted Node} {y : Checked Content} (hy : Checked.Lists es y) :
    Checked.Lists es (do let n ← node; return .ofNode n ++ (← y)) :=
  .after fun n => Checked.Ensures.bind hy fun _ hb => .pure ((Content.Lists.ofNode n).append hb)

end Checked.Lists

mutual

/-- The text of items lists their entries. -/
theorem SignatureItem.lists_shownAll (here : Here) :
    ∀ (items : List SignatureItem) (visibility : Visibility),
      Checked.Lists (SignatureItem.contentsAll visibility items)
        (SignatureItem.shownAll here visibility items)
  | [], _ => .pure .empty
  | item :: items, visibility =>
    .append (SignatureItem.lists_shown here item visibility)
      (SignatureItem.lists_shownAll here items (item.visibilityAfter visibility))

@[inherit_doc SignatureItem.lists_shownAll]
theorem SignatureItem.lists_shown (here : Here) :
    ∀ (item : SignatureItem) (visibility : Visibility),
      Checked.Lists (item.contents visibility) (item.shown here visibility)
  | .module .., _ | .moduleType .., _ | .class .., _ | .classType .., _ => .item _ _ _
  | .moduleSubstitution .., _ | .type .., _ | .typeSubstitution .., _ | .extension .., _
  | .exception .., _ | .value .., _ | .external .., _ => .ofNode _
  | .include parent doc decl expansion, visibility => by
    rw [SignatureItem.contents, SignatureItem.shown]
    split
    · exact SignatureItem.lists_shownAll here expansion visibility
    · refine .after fun head => ?_
      have hinner := SignatureItem.lists_shownAll here expansion .visible
      exact Checked.Ensures.bind hinner fun inner h => .pure (h.includeBody _ _ _)
  | .comment .stop, _ => .pure .empty
  | .comment (.docs docs), visibility => .ofNoted (docs.lists_comment here visibility)

end

/-- The members of a class list their entries. -/
theorem ClassItem.lists_renderAll (here : Here) (visibility : Visibility) (items : List ClassItem) :
    Checked.Lists (ClassItem.contentsAll visibility items)
      (ClassItem.renderAll here visibility items) := by
  induction items generalizing visibility with
  | nil =>
    rw [ClassItem.contentsAll, ClassItem.renderAll]
    exact .pure .empty
  | cons item items ih =>
    cases item with
    | comment c =>
      cases c with
      | stop =>
        rw [ClassItem.contentsAll, ClassItem.renderAll]
        exact ih visibility.toggle
      | docs docs =>
        rw [ClassItem.contentsAll, ClassItem.renderAll]
        exact .append (.ofNoted (docs.lists_comment here visibility)) (ih visibility)
    | «inherit» type =>
      cases type with
      | signature self members =>
        rw [ClassItem.renderAll]
        exact .throw _
      | constr path arguments =>
        rw [ClassItem.contentsAll, ClassItem.renderAll]
        · exact .node_append (ih visibility)
        all_goals exact nofun
    | method _ | instanceVariable _ | constraint _ _ =>
      rw [ClassItem.contentsAll, ClassItem.renderAll]
      · exact .node_append (ih visibility)
      all_goals exact nofun

theorem PackedModule.lists_renderAll (here : Here) (modules : List PackedModule) :
    (PackedModule.renderAll here modules).value.Lists [] := by
  induction modules with
  | nil => exact .empty
  | cons m modules ih => exact (Content.Lists.ofNode _).append ih

/-- What is shown of a subject lists its entries. -/
theorem Subject.lists_shown (here : Here) (subject : Subject) :
    Checked.Lists subject.contents (subject.shown here) := by
  cases subject with
  | signature items => exact SignatureItem.lists_shownAll here items .visible
  | functor parameters result =>
    refine .after fun parameters => ?_
    have hresult := SignatureItem.lists_shownAll here result .visible
    exact Checked.Ensures.bind hresult fun _ h => .pure (h.functorBody parameters)
  | members items => exact ClassItem.lists_renderAll here .visible items
  | pack modules => exact .ofNoted (PackedModule.lists_renderAll here modules)
  | text docs => exact .ofNoted ⟨rfl, docs.headings_sublist here⟩

/-! ## Pages -/

/-- The table of contents of a page is that of its topic, and its entries are headings of the
page. -/
theorem Topic.Fits.contents {here : Here} {t : Topic} {page : Page} (h : t.Fits here page) :
    page.toc = t.contents ∧
      (page.toc.map ContentsEntry.line).Sublist (Markup.headings (page.header ++ page.body)) := by
  obtain ⟨c, ns, hshown, hbody, htoc⟩ := h.content
  have hlists : c.Lists t.subject.contents := (t.subject.lists_shown here).value c ns hshown
  have htable : page.toc = t.contents := by
    rw [htoc, hlists.toc]
    rfl
  refine ⟨htable, ?_⟩
  rw [htable, h.header, hbody, Topic.contents, List.map_append, Markup.headings_append]
  exact (t.doc.headings_sublist here).append hlists.headings

/-- An entry of a table of contents stands for a heading on its page, with its level, its id and
its text. -/
theorem Markup.exists_heading_of_sublist {toc : List ContentsEntry} {ns : Markup}
    (h : (toc.map ContentsEntry.line).Sublist (headings ns)) {e : ContentsEntry} (he : e ∈ toc) :
    ∃ children, Node.heading e.level (some e.anchor) children ∈ allNodes ns ∧
      plainText children = e.text := by
  have hline : e.line ∈ headings ns := h.subset (List.mem_map_of_mem he)
  obtain ⟨node, hnode, hsome⟩ := List.mem_filterMap.mp hline
  cases node with
  | heading level id children =>
    obtain ⟨rfl, rfl, htext⟩ : level = e.level ∧ id = some e.anchor ∧
        plainText children = e.text := by
      simpa [Node.headingLine?, ContentsEntry.line] using hsome
    exact ⟨children, hnode, htext⟩
  | _ => cases hsome

/-- **The table of contents matches the headings on the page.**  Page by page, the table lists the
headings of the documentation of its topic and of the comments that are shown on it, and nothing
else.  These are headings of that page, in the order in which they stand there, and the text of each
entry is the text of its heading as it was rendered. -/
theorem Root.contents_match_headings {cfg : Settings} {r : Root} {out : Root.Rendered}
    (h : r.render cfg = .ok out) :
    List.Forall₂
      (fun o page => page.toc = o.topic.contents ∧
        (page.toc.map ContentsEntry.line).Sublist (Markup.headings (page.header ++ page.body)) ∧
        ∀ e ∈ page.toc, ∃ children,
          Node.heading e.level (some e.anchor) children ∈
            Markup.allNodes (page.header ++ page.body) ∧ Markup.plainText children = e.text)
      r.outline.nodes out.page.pages := by
  obtain ⟨hd, -⟩ := Root.render_eq_ok h
  refine Outline.Describes.forall_nodes (P := fun _ _ => True) ?_ hd trivial
  intro above o page hd _
  obtain ⟨htable, hsublist⟩ := hd.fits.contents
  refine ⟨⟨htable, hsublist, fun e he => ?_⟩, fun _ _ => trivial⟩
  exact Markup.exists_heading_of_sublist hsublist he

/-- A unit with headings that are listed and headings that are not: one with a reference that leads
nowhere, one inside a list, one behind a stop marker, one in an include behind that marker, and two
on the page of a module. -/
def sampleHeadings : Root :=
  let lib := Identifier.top .root "Lib"
  let inner := lib.child .module "Inner"
  let titled (label : String) : Block := .heading 2 (some label) [.text label]
  .unit ⟨lib, [.heading 1 (some "top") [.text "See ", .reference (.top .value "lost") []]],
    .module [
    .comment (.docs [titled "first", .list false [[titled "listed"]]]),
    .comment .stop,
    .comment (.docs [titled "hidden"]),
    .include lib [] (.alias (.root "Other")) [.comment (.docs [titled "included"])],
    .module .ordinary inner [titled "inner"]
      (.moduleType (.signature [.comment (.docs [titled "within"])])) (some .asDeclared)]⟩

theorem contents_sampleHeadings : ∃ out, sampleHeadings.render {} = .ok out ∧
    out.page.toc = [⟨1, "top", "See lost"⟩, ⟨2, "first", "first"⟩, ⟨2, "included", "included"⟩] ∧
    Markup.headings (out.page.header ++ out.page.body) =
      [(1, some "top", "See lost"), (2, some "first", "first"), (2, some "listed", "listed"),
        (2, some "included", "included")] ∧
    out.page.children.map Page.toc = [[⟨2, "inner", "inner"⟩, ⟨2, "within", "within"⟩]] ∧
    List.Forall₂
      (fun o page => page.toc = o.topic.contents ∧
        (page.toc.map ContentsEntry.line).Sublist (Markup.headings (page.header ++ page.body)))
      sampleHeadings.outline.nodes out.page.pages := by
  refine ⟨_, rfl, rfl, rfl, rfl, ?_⟩
  have hrender : sampleHeadings.render {} = .ok _ := rfl
  exact (Root.contents_match_headings hrender).imp fun o page hpage => ⟨hpage.1, hpage.2.1⟩

end DocSite
