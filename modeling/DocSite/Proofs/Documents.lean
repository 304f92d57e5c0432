import DocSite.Document.Basic
import DocSite.Proofs.DocumentText

/-!
# What a document says

A document is made by filling the gaps of a skeleton, without regard to what is a tag and what is
not.  `Page.documentItems` says what it should be read as: the elements of the skeleton, one link
for each page above, one item for each heading in the contents, and the elements of header and body
in their places.  It is given as a tree, so every string of the page stands where a text or a value
can stand, and `Page.readDocument_document` says that the document is read as this tree.

What can be seen in a document is found in the tree: its title, the links of its navigation and of
its table of contents, its stylesheets, and the headings of the markup, which stand in the document
with the identifiers that the table of contents links to.
-/

namespace DocSite

open Html Document

/-! ## The tree of a document -/

/-- The end of a line, and the blanks that the next one begins with. -/
def Html.Item.line (indent : Nat) : List Item :=
  Item.ofText (String.ofList ('\n' :: List.replicate indent ' '))

open Item (line ofText)

/-- The link to a page above. -/
def Crumb.items (c : Crumb) : List Item :=
  .element "a" [⟨"href", some c.href⟩] (ofText c.name) :: ofText " » "

namespace ContentsEntry

/-- An entry of the table of contents. -/
def items (e : ContentsEntry) : List Item :=
  line 6 ++
    .element "li" [⟨"class", some ("toc-level-" ++ toString e.level.toNat)⟩]
      [.element "a" [⟨"href", some ("#" ++ e.anchor)⟩] (ofText e.text)] :: line 4

/-- The table of contents, if there are entries. -/
def block (toc : List ContentsEntry) : List Item :=
  if toc = [] then []
  else
    line 2 ++
      .element "nav" [⟨"class", some "odoc-toc"⟩]
        (line 4 ++ .element "ul" [] (line 4 ++ toc.flatMap items ++ line 4) :: line 2) :: line 2

end ContentsEntry

namespace Page

def headItems (p : Page) : List Item :=
  line 2 ++ .element "meta" [⟨"charset", some "utf-8"⟩] [] ::
    line 2 ++
      .element "meta" [⟨"name", some "viewport"⟩,
        ⟨"content", some "width=device-width, initial-scale=1"⟩] [] ::
    line 2 ++ .element "title" [] (ofText p.title) ::
    line 2 ++
      .element "link" [⟨"rel", some "stylesheet"⟩,
        ⟨"href", some (climb p.path.length ++ "odoc.css")⟩] [] ::
    line 0

def bodyItems (p : Page) : List Item :=
  line 2 ++
    .element "nav" [⟨"class", some "odoc-nav"⟩]
      (line 4 ++ p.path.crumbs.flatMap Crumb.items ++ ofText p.name ++ line 2) ::
    line 2 ++
    .element "header" [⟨"class", some "odoc-preamble"⟩]
      (line 4 ++ .element "h1" [] (ofText p.title) :: line 4 ++ Markup.items p.header ++ line 2) ::
    line 2 ++ ContentsEntry.block p.toc ++ line 2 ++
    .element "div" [⟨"class", some "odoc-content"⟩] (line 4 ++ Markup.items p.body ++ line 2) ::
    line 0

/-- What the document of a page is read as. -/
def documentItems (p : Page) : List Item :=
  line 0 ++
    .element "html" [⟨"lang", some "en"⟩]
      (line 0 ++ .element "head" [] p.headItems ::
        line 0 ++ .element "body" [⟨"class", some "odoc"⟩] p.bodyItems :: line 0) :: line 0

end Page

/-! ## The text of a document -/

theorem Html.Spelling.line (indent : Nat) :
    Spelling (Item.line indent) ('\n' :: List.replicate indent ' ') := by
  have hplain : ∀ c ∈ '\n' :: List.replicate indent ' ', Escape.entity? c = none := by
    intro c hc
    rcases List.mem_cons.mp hc with rfl | hc
    · rfl
    · rw [List.eq_of_mem_replicate hc]
      rfl
  have htext : Escape.Encodes (String.ofList ('\n' :: List.replicate indent ' ')).toList
      (String.ofList ('\n' :: List.replicate indent ' ')).toList := by
    rw [String.toList_ofList]
    exact .self hplain
  have hspelling := Spelling.ofText htext
  rwa [String.toList_ofList] at hspelling

theorem all_climb {p : Char → Bool} (hdot : p '.' = true) (hslash : p '/' = true) (n : Nat) :
    (climb n).toList.all p = true := by
  induction n with
  | zero => rfl
  | succ n ih => simp [climb, hdot, hslash, ih]

theorem PagePath.href_of_mem_crumbs {path : PagePath} {c : Crumb} (h : c ∈ path.crumbs) :
    ∃ n, c.href = climb n ++ "index.html" := by
  obtain ⟨segment, -, rfl⟩ := List.mem_map.mp h
  exact ⟨_, rfl⟩

theorem Crumb.spelling {c : Crumb} (h : ∃ n, c.href = climb n ++ "index.html") :
    Spelling c.items ((crumbParts c).flatMap Part.write) := by
  obtain ⟨n, hhref⟩ := h
  have hplain : c.href.toList.all fun c => (Escape.entity? c).isNone := by
    rw [hhref, String.toList_append, List.all_append, all_climb rfl rfl n]
    rfl
  have hlink : Spelling [.element "a" [⟨"href", some c.href⟩] (ofText c.name)] _ :=
    .element (by decide) (by decide) (.cons (.fixed (by decide) hplain) .nil)
      (.ofText (.slot c.name))
  have hdelimiters : " &#x00BB; ".toList.all (fun c => decide (c ∉ Escape.delimiters)) = true := by
    decide
  have hmark : Spelling (ofText " » ") " &#x00BB; ".toList :=
    .ofText ⟨fun _ => rfl, fun c hc => of_decide_eq_true (List.all_eq_true.mp hdelimiters c hc)⟩
  refine (hlink.cons hmark).of_eq ?_
  simp [crumbParts, Part.write, Attribute.spell]

theorem ContentsEntry.spelling (e : ContentsEntry) :
    Spelling e.items ((entryParts e).flatMap Part.write) := by
  have hclass : Attribute.Encodes
      ⟨"class", some ("toc-level-" ++ Escape.slot (toString e.level.toNat))⟩
      ⟨"class", some ("toc-level-" ++ toString e.level.toNat)⟩ :=
    .gap (by decide) rfl _
  have hhref : Attribute.Encodes ⟨"href", some ("#" ++ Escape.slot e.anchor)⟩
      ⟨"href", some ("#" ++ e.anchor)⟩ :=
    .gap (by decide) rfl _
  have hlink : Spelling [.element "a" [⟨"href", some ("#" ++ e.anchor)⟩] (ofText e.text)] _ :=
    .element (by decide) (by decide) (.cons hhref .nil) (.ofText (.slot e.text))
  have hentry : Spelling e.items _ :=
    (Spelling.line 6).append
      ((Spelling.element (by decide) (by decide) (.cons hclass .nil) hlink).cons (.line 4))
  refine hentry.of_eq ?_
  simp [entryParts, Part.write, Attribute.spell, List.replicate]

theorem ContentsEntry.spelling_block (toc : List ContentsEntry) :
    Spelling (block toc) ((tocParts toc).flatMap Part.write) := by
  cases toc with
  | nil => exact .nil
  | cons e toc =>
    have hentries := Spelling.flatMap fun f (_ : f ∈ e :: toc) => ContentsEntry.spelling f
    have hlist := ((Spelling.line 4).append hentries).append (.line 4)
    have hul := Spelling.element (by decide : IsName "ul") (by decide) .nil hlist
    have hclass : List.Forall₂ Attribute.Encodes [⟨"class", some "odoc-toc"⟩]
        [⟨"class", some "odoc-toc"⟩] := .cons (.fixed (by decide) rfl) .nil
    have hnav := Spelling.element (by decide : IsName "nav") (by decide) hclass
      ((Spelling.line 4).append (hul.cons (.line 2)))
    refine ((Spelling.line 2).append (hnav.cons (.line 2))).of_eq ?_
    simp [tocParts, Part.write, Attribute.spell, List.replicate,
      List.flatMap_append, List.flatMap_assoc]

namespace Page

/-- The parts of the document between the tags of its head. -/
def headParts (p : Page) : List Part :=
  [.fixed "\n  <meta charset=\"utf-8\">\n",
    .fixed "  <meta name=\"viewport\" content=\"width=device-width, initial-scale=1\">\n  <title>",
    .text p.title, .fixed "</title>\n  <link rel=\"stylesheet\" href=\"",
    .html (climb p.path.length), .fixed "odoc.css\">\n"]

/-- The parts of the body before the header, from the navigation on. -/
def openingParts (p : Page) : List Part :=
  .fixed "\n  <nav class=\"odoc-nav\">\n    " :: p.path.crumbs.flatMap crumbParts ++
    [.text p.name, .fixed "\n  </nav>\n  <header class=\"odoc-preamble\">\n    <h1>",
      .text p.title, .fixed "</h1>\n    "]

/-- The parts between header and content, with the table of contents. -/
def middleParts (p : Page) : List Part :=
  .fixed "\n  </header>\n  " :: tocParts p.toc ++
    [.fixed "\n  <div class=\"odoc-content\">\n    "]

/-- The parts of the document between the tags of its body. -/
def bodyParts (p : Page) : List Part :=
  p.openingParts ++ .html (Markup.toHtml p.header) :: p.middleParts ++
    [.html (Markup.toHtml p.body), .fixed "\n  </div>\n"]

theorem toList_document (p : Page) :
    p.document.toList =
      doctype ++ ("\n<html lang=\"en\">\n<head>".toList ++ p.headParts.flatMap Part.write ++
        "</head>\n<body class=\"odoc\">".toList ++ p.bodyParts.flatMap Part.write ++
        "</body>\n</html>\n".toList) := by
  have hdoctype : doctype = "<!DOCTYPE html>".toList := rfl
  have hopen : "<!DOCTYPE html>\n<html lang=\"en\">\n<head>\n  <meta charset=\"utf-8\">\n".toList =
      doctype ++ ("\n<html lang=\"en\">\n<head>".toList ++
        "\n  <meta charset=\"utf-8\">\n".toList) := by
    rw [hdoctype]
    simp
  have hbetween :
      "odoc.css\">\n</head>\n<body class=\"odoc\">\n  <nav class=\"odoc-nav\">\n    ".toList =
      "odoc.css\">\n".toList ++ ("</head>\n<body class=\"odoc\">".toList ++
        "\n  <nav class=\"odoc-nav\">\n    ".toList) := by
    simp
  have hclose : "\n  </div>\n</body>\n</html>\n".toList =
      "\n  </div>\n".toList ++ "</body>\n</html>\n".toList := by
    simp
  rw [Page.document, String.toList_ofList]
  simp only [parts, headParts, bodyParts, openingParts, middleParts, Part.write, List.cons_append,
    List.flatMap_append, List.flatMap_cons, List.flatMap_nil, List.append_nil, List.nil_append,
    List.append_assoc, hopen, hbetween, hclose]

theorem spelling_head (p : Page) : Spelling p.headItems (p.headParts.flatMap Part.write) := by
  have hsheet : (climb p.path.length ++ "odoc.css").toList.all
      fun c => (Escape.entity? c).isNone := by
    rw [String.toList_append, List.all_append, all_climb rfl rfl]
    rfl
  have hcharset : Spelling [.element "meta" [⟨"charset", some "utf-8"⟩] []] _ :=
    .void (by decide) (by decide) (.cons (.fixed (by decide) rfl) .nil)
  have hviewport : Spelling [.element "meta" [⟨"name", some "viewport"⟩,
      ⟨"content", some "width=device-width, initial-scale=1"⟩] []] _ :=
    .void (by decide) (by decide)
      (.cons (.fixed (by decide) rfl) (.cons (.fixed (by decide) rfl) .nil))
  have htitle : Spelling [.element "title" [] (ofText p.title)] _ :=
    .element (by decide) (by decide) .nil (.ofText (.slot p.title))
  have hlink : Spelling [.element "link" [⟨"rel", some "stylesheet"⟩,
      ⟨"href", some (climb p.path.length ++ "odoc.css")⟩] []] _ :=
    .void (by decide) (by decide)
      (.cons (.fixed (by decide) rfl) (.cons (.fixed (by decide) hsheet) .nil))
  have hhead : Spelling p.headItems _ :=
    ((((Spelling.line 2).append (hcharset.cons (.line 2))).append (hviewport.cons (.line 2))).append
      (htitle.cons (.line 2))).append (hlink.cons (.line 0))
  refine hhead.of_eq ?_
  simp [headParts, Part.write, Attribute.spell, List.replicate]

theorem spelling_body (p : Page) : Spelling p.bodyItems (p.bodyParts.flatMap Part.write) := by
  have hcrumbs := Spelling.flatMap fun c (hc : c ∈ p.path.crumbs) =>
    Crumb.spelling (PagePath.href_of_mem_crumbs hc)
  have hnav : Spelling [.element "nav" [⟨"class", some "odoc-nav"⟩] _] _ :=
    .element (by decide) (by decide) (.cons (.fixed (by decide) rfl) .nil)
      ((((Spelling.line 4).append hcrumbs).append (.ofText (.slot p.name))).append (.line 2))
  have htitle : Spelling [.element "h1" [] (ofText p.title)] _ :=
    .element (by decide) (by decide) .nil (.ofText (.slot p.title))
  have hheader : Spelling [.element "header" [⟨"class", some "odoc-preamble"⟩] _] _ :=
    .element (by decide) (by decide) (.cons (.fixed (by decide) rfl) .nil)
      ((((Spelling.line 4).append (htitle.cons (.line 4))).append (Markup.spelling p.header)).append
        (.line 2))
  have hcontent : Spelling [.element "div" [⟨"class", some "odoc-content"⟩] _] _ :=
    .element (by decide) (by decide) (.cons (.fixed (by decide) rfl) .nil)
      (((Spelling.line 4).append (Markup.spelling p.body)).append (.line 2))
  have hbody : Spelling p.bodyItems _ :=
    (((((Spelling.line 2).append (hnav.cons (.line 2))).append (hheader.cons (.line 2))).append
      (ContentsEntry.spelling_block p.toc)).append (.line 2)).append (hcontent.cons (.line 0))
  refine hbody.of_eq ?_
  simp [bodyParts, openingParts, middleParts, Part.write, Attribute.spell, List.replicate,
    List.flatMap_assoc]

/-- **What a document is read as.** -/
theorem readDocument_document (p : Page) : readDocument p.document = some p.documentItems := by
  have hhead : Spelling [.element "head" [] p.headItems] _ :=
    .element (by decide) (by decide) .nil p.spelling_head
  have hbody : Spelling [.element "body" [⟨"class", some "odoc"⟩] p.bodyItems] _ :=
    .element (by decide) (by decide) (.cons (.fixed (by decide) rfl) .nil) p.spelling_body
  have hhtml : Spelling [.element "html" [⟨"lang", some "en"⟩] _] _ :=
    .element (by decide) (by decide) (.cons (.fixed (by decide) rfl) .nil)
      (((Spelling.line 0).append (hhead.cons (.line 0))).append (hbody.cons (.line 0)))
  have hdocument : Spelling p.documentItems _ := (Spelling.line 0).append (hhtml.cons (.line 0))
  rw [← String.ofList_toList (s := p.document), toList_document]
  refine (hdocument.of_eq ?_).readDocument
  simp [Attribute.spell, List.replicate]

end Page

/-! ## The shape of a document -/

/-- The page with every string in it left empty. -/
def Page.blank (p : Page) : Page :=
  { p with
    name := "", title := "", path := p.path.map fun _ => "",
    toc := p.toc.map fun e => ⟨e.level, "", ""⟩,
    header := Markup.blank p.header, body := Markup.blank p.body }

section Shape

open Html.Item

@[simp] theorem Html.Item.skeletonAll_line (indent : Nat) : skeletonAll (line indent) = [] :=
  skeletonAll_ofText _

theorem Crumb.skeleton_items (c : Crumb) :
    skeletonAll c.items = [.element "a" [⟨"href", some ""⟩] []] := by
  simp [Crumb.items, skeleton, Attribute.blank]

/-- The shape of some crumbs is known from their number. -/
theorem Crumb.skeleton_flatMap (crumbs : List Crumb) :
    skeletonAll (crumbs.flatMap items) =
      List.replicate crumbs.length (.element "a" [⟨"href", some ""⟩] []) := by
  induction crumbs with
  | nil => rfl
  | cons c crumbs ih =>
    rw [List.flatMap_cons, skeletonAll_append, skeleton_items, ih]
    rfl

theorem PagePath.length_crumbs (path : PagePath) : path.crumbs.length = path.length - 1 - 1 := by
  simp [crumbs]

theorem ContentsEntry.skeleton_block {toc toc' : List ContentsEntry}
    (h : toc.length = toc'.length) : skeletonAll (block toc) = skeletonAll (block toc') := by
  have hentries (es : List ContentsEntry) : skeletonAll (es.flatMap items) =
      List.replicate es.length
        (.element "li" [⟨"class", some ""⟩] [.element "a" [⟨"href", some ""⟩] []]) := by
    induction es with
    | nil => rfl
    | cons e es ih => simp [List.flatMap_cons, items, ih, skeleton, Attribute.blank, List.replicate]
  have hempty : toc = [] ↔ toc' = [] := by
    rw [← List.length_eq_zero_iff, ← List.length_eq_zero_iff, h]
  simp [block, hempty, apply_ite skeletonAll, skeleton, hentries, h]

/-- The strings of a page have no part in the shape of its document. -/
theorem Page.skeleton_blank (p : Page) :
    skeletonAll p.blank.documentItems = skeletonAll p.documentItems := by
  have hcrumbs : p.blank.path.crumbs.length = p.path.crumbs.length := by
    simp [PagePath.length_crumbs, Page.blank]
  have htoc : skeletonAll (ContentsEntry.block p.blank.toc) =
      skeletonAll (ContentsEntry.block p.toc) :=
    ContentsEntry.skeleton_block (List.length_map _)
  have hheader : skeletonAll (Markup.items p.blank.header) = skeletonAll (Markup.items p.header) :=
    Markup.skeleton_blank p.header
  have hbody : skeletonAll (Markup.items p.blank.body) = skeletonAll (Markup.items p.body) :=
    Markup.skeleton_blank p.body
  simp [Page.documentItems, Page.headItems, Page.bodyItems, skeleton, Attribute.blank,
    Crumb.skeleton_flatMap, hcrumbs, htoc, hheader, hbody]

end Shape

/-! ## Finding elements -/

namespace Html

/-- The value that an attribute has. -/
def value? (name : String) (attributes : List Attribute) : Option String :=
  (attributes.find? fun a => a.name = name).bind Attribute.value

namespace Item

/-- The attributes and the content of the elements of a name, and of a class if one is given. -/
def select (name : String) (cls : Option String) : List Item → List (List Attribute × List Item)
  | [] => []
  | .element n attributes children :: items =>
    if n = name ∧ (cls = none ∨ value? "class" attributes = cls) then
      (attributes, children) :: select name cls items
    else select name cls items
  | .char _ :: items => select name cls items

/-- What stands inside of elements that are inside of each other. -/
def inside : List (String × Option String) → List Item → List Item
  | [], items => items
  | (name, cls) :: steps, items => (select name cls items).flatMap fun e => inside steps e.2

/-- The address and the text of a link. -/
def link (e : List Attribute × List Item) : Option String × String :=
  (value? "href" e.1, String.ofList (charsAll e.2))

@[simp] theorem select_nil (name : String) (cls : Option String) : select name cls [] = [] := rfl

@[simp] theorem select_append (name : String) (cls : Option String) (a b : List Item) :
    select name cls (a ++ b) = select name cls a ++ select name cls b := by
  induction a with
  | nil => rfl
  | cons item a ih =>
    cases item with
    | char c => exact ih
    | element n attributes children =>
      rw [List.cons_append, select, select, ih]
      split <;> rfl

@[simp] theorem select_ofText (name : String) (cls : Option String) (s : String) :
    select name cls (ofText s) = [] := by
  rw [ofText]
  induction s.toList with
  | nil => rfl
  | cons c cs ih => exact ih

@[simp] theorem select_line (name : String) (cls : Option String) (indent : Nat) :
    select name cls (line indent) = [] :=
  select_ofText name cls _

theorem select_flatMap {α : Type} {name : String} {cls : Option String} {f : α → List Item}
    {g : α → List Attribute × List Item} (h : ∀ a, select name cls (f a) = [g a]) (as : List α) :
    select name cls (as.flatMap f) = as.map g := by
  induction as with
  | nil => rfl
  | cons a as ih =>
    rw [List.flatMap_cons, select_append, h, ih, List.singleton_append, List.map_cons]

end Item

/-- The titles that a document gives itself. -/
def titles (items : List Item) : List String :=
  (Item.select "title" none (Item.inside [("html", none), ("head", none)] items)).map fun e =>
    String.ofList (Item.charsAll e.2)

/-- The addresses of the stylesheets of a document. -/
def stylesheets (items : List Item) : List (Option String) :=
  ((Item.select "link" none (Item.inside [("html", none), ("head", none)] items)).filter fun e =>
    value? "rel" e.1 = some "stylesheet").map fun e => value? "href" e.1

/-- The links in the navigation of a document. -/
def navigation (items : List Item) : List (Option String × String) :=
  (Item.select "a" none
    (Item.inside [("html", none), ("body", none), ("nav", some "odoc-nav")] items)).map Item.link

/-- The tables of contents of a document: of each, the items, and of each item the links. -/
def contents (items : List Item) : List (List (List (Option String × String))) :=
  (Item.select "nav" (some "odoc-toc")
    (Item.inside [("html", none), ("body", none)] items)).map fun nav =>
      (Item.select "li" none (Item.inside [("ul", none)] nav.2)).map fun entry =>
        (Item.select "a" none entry.2).map Item.link

end Html

namespace Page

theorem inside_head (p : Page) :
    Item.inside [("html", none), ("head", none)] p.documentItems = p.headItems := by
  simp [Item.inside, documentItems, Item.select]

theorem inside_body (p : Page) (steps : List (String × Option String)) :
    Item.inside (("html", none) :: ("body", none) :: steps) p.documentItems =
      Item.inside steps p.bodyItems := by
  simp [Item.inside, documentItems, Item.select]

theorem titles_document (p : Page) : titles p.documentItems = [p.title] := by
  rw [titles, inside_head]
  simp [headItems, Item.select]

theorem stylesheets_document (p : Page) :
    stylesheets p.documentItems = [some (climb p.path.length ++ "odoc.css")] := by
  rw [stylesheets, inside_head]
  simp [headItems, Item.select, value?]

theorem navigation_document (p : Page) :
    navigation p.documentItems = p.path.crumbs.map fun c => (some c.href, c.name) := by
  have hblock : Item.select "nav" (some "odoc-nav") (ContentsEntry.block p.toc) = [] := by
    rw [ContentsEntry.block]
    split <;> simp [Item.select, value?]
  have hcrumb (c : Crumb) : Item.select "a" none c.items =
      [([⟨"href", some c.href⟩], ofText c.name)] := by
    simp [Crumb.items, Item.select]
  have hnav : Item.inside [("nav", some "odoc-nav")] p.bodyItems =
      line 4 ++ p.path.crumbs.flatMap Crumb.items ++ ofText p.name ++ line 2 := by
    simp [Item.inside, bodyItems, Item.select, value?, hblock]
  rw [navigation, inside_body, hnav]
  simp [Item.select_flatMap hcrumb, Item.link, value?]

theorem contents_document (p : Page) :
    contents p.documentItems =
      if p.toc = [] then [] else [p.toc.map fun e => [(some ("#" ++ e.anchor), e.text)]] := by
  have hentry (e : ContentsEntry) : Item.select "li" none e.items =
      [([⟨"class", some ("toc-level-" ++ toString e.level.toNat)⟩],
        [.element "a" [⟨"href", some ("#" ++ e.anchor)⟩] (ofText e.text)])] := by
    simp [ContentsEntry.items, Item.select]
  have hbody : Item.select "nav" (some "odoc-toc") p.bodyItems =
      Item.select "nav" (some "odoc-toc") (ContentsEntry.block p.toc) := by
    simp [bodyItems, Item.select, value?]
  rw [contents, inside_body, Item.inside, hbody, ContentsEntry.block]
  split
  · rfl
  · simp [Item.select, Item.inside, value?, Item.select_flatMap hentry, Item.link]

end Page

/-! ## Headings in documents -/

/-- The item stands among the items or somewhere below. -/
inductive Html.Item.Within (item : Item) : List Item → Prop
  | here {items : List Item} : item ∈ items → Within item items
  | inside {name : String} {attributes : List Attribute} {children items : List Item} :
    .element name attributes children ∈ items → Within item children → Within item items

namespace Html.Item.Within

variable {item : Item} {items items' : List Item}

theorem mono (h : Within item items) (hsub : items ⊆ items') : Within item items' := by
  cases h with
  | here hmem => exact .here (hsub hmem)
  | inside hmem hchildren => exact .inside (hsub hmem) hchildren

theorem cons (first : Item) (h : Within item items) : Within item (first :: items) :=
  h.mono (List.subset_cons_self _ _)

/-- Of an element with other elements in it, one that stands among those stands below. -/
theorem head {name : String} {attributes : List Attribute} (h : Within item items) :
    Within item (.element name attributes items :: items') :=
  .inside List.mem_cons_self h

end Html.Item.Within

section Headings

open Item (Within)

/-- A node whose items are one element, and the nodes in it. -/
theorem Node.within_cons {n m : Node} {rest : List Node} {name : String}
    {attributes : List Attribute} {children : List Item}
    (hitems : m.items = [.element name attributes children])
    (hrest : n ∈ rest → ∀ item ∈ n.items, Within item children) (h : n ∈ m :: rest) :
    ∀ item ∈ n.items, Within item m.items := by
  intro item hitem
  rcases List.mem_cons.mp h with rfl | h
  · exact .here hitem
  · rw [hitems]
    exact .head (hrest h item hitem)

mutual

/-- The element of a node of a page stands in the page. -/
theorem Node.within_items {n : Node} :
    ∀ {m : Node}, n ∈ m.allNodes → ∀ item ∈ n.items, Within item m.items
  | .text _, h | .keyword _, h | .pre _, h | .anchor _, h => by
    obtain rfl := List.mem_singleton.mp h
    exact fun item hitem => .here hitem
  | .link _ ns, h | .span _ ns, h | .code ns, h | .emphasis ns, h | .bold ns, h
  | .paragraph ns, h | .heading _ _ ns, h | .div _ _ ns, h =>
    Node.within_cons rfl (fun h => Markup.within_items h) h
  | .list _ items, h => Node.within_cons rfl (fun h => Node.within_itemsOfItems h) h
  | .table _ rows, h => Node.within_cons rfl (fun h => Row.within_items h) h
  | .details _ summary body, h => by
    refine Node.within_cons rfl (fun h item hitem => ?_) h
    rcases List.mem_append.mp h with h | h
    · exact .head (Markup.within_items h item hitem)
    · exact .cons _ (Markup.within_items h item hitem)

@[inherit_doc Node.within_items]
theorem Markup.within_items {n : Node} :
    ∀ {ns : List Node}, n ∈ Markup.allNodes ns → ∀ item ∈ n.items, Within item (Markup.items ns)
  | [], h => by cases h
  | m :: ns, h => by
    intro item hitem
    rcases List.mem_append.mp h with h | h
    · exact (Node.within_items h item hitem).mono (List.subset_append_left _ _)
    · exact (Markup.within_items h item hitem).mono (List.subset_append_right _ _)

@[inherit_doc Node.within_items]
theorem Node.within_itemsOfItems {n : Node} :
    ∀ {items : List (List Node)}, n ∈ Node.allNodesOfItems items →
      ∀ item ∈ n.items, Within item (Node.itemsOfItems items)
  | [], h => by cases h
  | ns :: items, h => by
    intro item hitem
    rcases List.mem_append.mp h with h | h
    · exact .head (Markup.within_items h item hitem)
    · exact .cons _ (Node.within_itemsOfItems h item hitem)

@[inherit_doc Node.within_items]
theorem Row.within_items {n : Node} :
    ∀ {rows : List Row}, n ∈ Row.allNodes rows → ∀ item ∈ n.items, Within item (Row.items rows)
  | [], h => by cases h
  | .mk none cells :: rows, h | .mk (some _) cells :: rows, h => by
    intro item hitem
    rcases List.mem_append.mp h with h | h
    · exact .head (Cell.within_items h item hitem)
    · exact .cons _ (Row.within_items h item hitem)

@[inherit_doc Node.within_items]
theorem Cell.within_items {n : Node} :
    ∀ {cells : List Cell}, n ∈ Cell.allNodes cells →
      ∀ item ∈ n.items, Within item (Cell.items cells)
  | [], h => by cases h
  | .mk _ ns :: cells, h => by
    intro item hitem
    rcases List.mem_append.mp h with h | h
    · exact .head (Markup.within_items h item hitem)
    · exact .cons _ (Cell.within_items h item hitem)

end

/-- The elements of header and body stand in the document. -/
theorem Page.within_document (p : Page) {n : Node}
    (h : n ∈ Markup.allNodes p.header ∨ n ∈ Markup.allNodes p.body) :
    ∀ item ∈ n.items, Within item p.documentItems := by
  intro item hitem
  have hbody : Within item p.bodyItems := by
    rcases h with h | h
    · have hmarkup := Markup.within_items h item hitem
      have hheader : Item.element "header" [⟨"class", some "odoc-preamble"⟩]
          (line 4 ++ .element "h1" [] (ofText p.title) :: line 4 ++ Markup.items p.header ++
            line 2) ∈ p.bodyItems := by
        simp [bodyItems]
      exact .inside hheader (hmarkup.mono fun x hx => by simp [hx])
    · have hmarkup := Markup.within_items h item hitem
      have hcontent : Item.element "div" [⟨"class", some "odoc-content"⟩]
          (line 4 ++ Markup.items p.body ++ line 2) ∈ p.bodyItems := by
        simp [bodyItems]
      exact .inside hcontent (hmarkup.mono fun x hx => by simp [hx])
  have hhtml : Item.element "html" [⟨"lang", some "en"⟩]
      (line 0 ++ .element "head" [] p.headItems ::
        line 0 ++ .element "body" [⟨"class", some "odoc"⟩] p.bodyItems :: line 0) ∈
      p.documentItems := by
    simp [documentItems]
  exact .inside hhtml (.inside (List.mem_append_right _ List.mem_cons_self) hbody)

end Headings

/-! ## Documents are safe -/

theorem Page.exists_document_eq (p : Page) :
    ∃ before between after : String, ∀ header body : Markup,
      ({ p with header := header, body := body } : Page).document =
        before ++ Markup.toHtml header ++ between ++ Markup.toHtml body ++ after := by
  refine ⟨String.ofList (doctype ++ "\n<html lang=\"en\">\n<head>".toList ++
      p.headParts.flatMap Part.write ++ "</head>\n<body class=\"odoc\">".toList ++
      p.openingParts.flatMap Part.write),
    String.ofList (p.middleParts.flatMap Part.write),
    "\n  </div>\n" ++ "</body>\n</html>\n", fun header body => String.toList_inj.mp ?_⟩
  -- The parts around header and body do not depend on them.
  have hhead : ({ p with header := header, body := body } : Page).headParts = p.headParts := rfl
  have hopening : ({ p with header := header, body := body } : Page).openingParts =
      p.openingParts := rfl
  have hmiddle : ({ p with header := header, body := body } : Page).middleParts =
      p.middleParts := rfl
  rw [toList_document, bodyParts, hhead, hopening, hmiddle]
  simp only [Part.write, String.toList_append, String.toList_ofList, List.cons_append,
    List.flatMap_append, List.flatMap_cons, List.flatMap_nil, List.append_nil, List.append_assoc]

/-- **Documents have the shape of the skeleton, whatever stands in them.**  The document of any page
is read as its skeleton, with one link for each page above, one item for each heading in the
contents, and the elements of header and body in their places; title, names and texts are read back
as they are.  Leaving out all strings of the page changes no element, no attribute and no nesting.
The HTML of header and body stands in the document as it is.  There is a table of contents exactly
if it has entries.  A link of it is read as `#` and the very identifier that the heading of the
entry is read with, for the two ways of escaping that a document has are undone alike. -/
theorem Page.document_faithful (p : Page) :
    readDocument p.document = some p.documentItems ∧
      (readDocument p.document).map Item.skeletonAll =
        (readDocument p.blank.document).map Item.skeletonAll ∧
      (∃ before between after : String, ∀ header body : Markup,
        ({ p with header := header, body := body } : Page).document =
          before ++ Markup.toHtml header ++ between ++ Markup.toHtml body ++ after) ∧
      titles p.documentItems = [p.title] ∧
      navigation p.documentItems = p.path.crumbs.map (fun c => (some c.href, c.name)) ∧
      contents p.documentItems =
        (if p.toc = [] then [] else [p.toc.map fun e => [(some ("#" ++ e.anchor), e.text)]]) ∧
      (∀ e ∈ p.toc, ∀ level children,
        .heading level (some e.anchor) children ∈
          Markup.allNodes p.header ++ Markup.allNodes p.body →
        ∃ id, Item.Within
            (.element (headingElement level) [⟨"id", some id⟩] (Markup.items children))
            p.documentItems ∧
          ∃ table ∈ contents p.documentItems, [(some ("#" ++ id), e.text)] ∈ table) ∧
      ∀ s : String, Escape.decode Escape.reference? (Escape.slot s).toList = s.toList ∧
        Escape.decode Escape.reference? (Escape.html s).toList = s.toList := by
  refine ⟨p.readDocument_document, ?_, p.exists_document_eq, p.titles_document,
    p.navigation_document, p.contents_document, ?_, ?_⟩
  · rw [readDocument_document, readDocument_document, Option.map_some, Option.map_some,
      skeleton_blank]
  · intro e he level children hheading
    refine ⟨e.anchor, p.within_document (List.mem_append.mp hheading) _ List.mem_cons_self, ?_⟩
    rw [contents_document, if_neg (List.ne_nil_of_mem he)]
    exact ⟨_, List.mem_cons_self, List.mem_map.mpr ⟨e, he, rfl⟩⟩
  · intro s
    exact ⟨(Escape.Encodes.slot s).decode_eq, (Escape.Encodes.html s).decode_eq⟩

/-- A page all of whose strings have special characters in them. -/
def samplePage : Page :=
  ⟨"a<b", .module, ["p&q", "a<b", "a<b"], "\"</title>", [.paragraph [.text "<!--"]],
    [⟨2, "x/\"y", "x & y"⟩], [.div "c" none [.heading 2 (some "x/\"y") [.text "x & y"]]], []⟩

theorem document_samplePage :
    readDocument samplePage.document = some samplePage.documentItems ∧
      titles samplePage.documentItems = ["\"</title>"] ∧
      navigation samplePage.documentItems = [(some "../index.html", "a<b")] ∧
      contents samplePage.documentItems = [[[(some "#x/\"y", "x & y")]]] ∧
      ∃ id, Item.Within (.element "h2" [⟨"id", some id⟩] (ofText "x & y"))
          samplePage.documentItems ∧
        ∃ table ∈ contents samplePage.documentItems, [(some ("#" ++ id), "x & y")] ∈ table := by
  obtain ⟨hread, -, -, htitles, hnavigation, hcontents, hheadings, -⟩ :=
    samplePage.document_faithful
  have hheading : .heading 2 (some "x/\"y") [.text "x & y"] ∈
      Markup.allNodes samplePage.header ++ Markup.allNodes samplePage.body := by
    simp [samplePage, Markup.allNodes, Node.allNodes]
  exact ⟨hread, htitles, hnavigation, hcontents,
    hheadings ⟨2, "x/\"y", "x & y"⟩ List.mem_cons_self 2 [.text "x & y"] hheading⟩

end DocSite
