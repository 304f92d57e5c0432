import DocSite.Proofs.HtmlText
import DocSite.Proofs.Nodes

/-!
# The tree that HTML spells

`Html.read` reads a text as HTML and puts its tags together: every closing tag closes the element
that was opened last, by its own name, and nothing is left open.  It fails on anything else.

The HTML of markup is read back as `Markup.items`, the elements that the nodes stand for with the
strings of the nodes in them.  So no string can become a tag, an attribute or a level of nesting,
and none is lost.  Two consequences are spelled out: the elements, their attributes and their
nesting are those of the markup with all its strings left out, `Markup.blank`; and what is between
the tags is the text of the page, `Markup.textWith`, which for a page without tables of several rows
is its plain text.
-/

namespace DocSite

namespace Html

/-! ## Elements -/

/-- An element, or a character between tags. -/
inductive Item where
  | element (name : String) (attributes : List Attribute) (children : List Item)
  | char (c : Char)

/-- An element that is not closed yet, with the items before it, the last one first. -/
structure Frame where
  name : String
  attributes : List Attribute
  before : List Item

/-- The items that tags and characters make, if the tags match.  The innermost open element comes
first, and of the items read in it the last one. -/
def assemble : List Frame → List Item → List Lexeme → Option (List Item)
  | [], items, [] => some items.reverse
  | _ :: _, _, [] => none
  | opened, items, .char c :: ls => assemble opened (.char c :: items) ls
  | opened, items, .opening name attributes :: ls =>
    assemble (⟨name, attributes, items⟩ :: opened) [] ls
  | [], _, .closing _ :: _ => none
  | frame :: opened, items, .closing name :: ls =>
    if name = frame.name then
      assemble opened (.element name frame.attributes items.reverse :: frame.before) ls
    else none

/-- The elements and characters of an HTML text. -/
def read (text : String) : Option (List Item) := do
  assemble [] [] (← lexemes (.data []) text.toList)

mutual

/-- The characters in an item. -/
def Item.chars : Item → List Char
  | .element _ _ children => Item.charsAll children
  | .char c => [c]

@[inherit_doc Item.chars]
def Item.charsAll : List Item → List Char
  | [] => []
  | item :: items => item.chars ++ Item.charsAll items

end

/-- The attribute with its value, if it has one, left empty. -/
def Attribute.blank (a : Attribute) : Attribute := ⟨a.name, a.value.map fun _ => ""⟩

mutual

/-- The element without its text and the values of its attributes. -/
def Item.skeleton : Item → List Item
  | .element name attributes children =>
    [.element name (attributes.map Attribute.blank) (Item.skeletonAll children)]
  | .char _ => []

@[inherit_doc Item.skeleton]
def Item.skeletonAll : List Item → List Item
  | [] => []
  | item :: items => item.skeleton ++ Item.skeletonAll items

end

namespace Item

def ofText (s : String) : List Item := s.toList.map Item.char

@[simp] theorem charsAll_nil : charsAll [] = [] := rfl

@[simp] theorem charsAll_cons (item : Item) (items : List Item) :
    charsAll (item :: items) = item.chars ++ charsAll items := rfl

@[simp] theorem chars_element (name : String) (attributes : List Attribute) (children : List Item) :
    (element name attributes children).chars = charsAll children := rfl

@[simp] theorem charsAll_append (a b : List Item) :
    charsAll (a ++ b) = charsAll a ++ charsAll b := by
  induction a with
  | nil => rfl
  | cons item a ih => rw [List.cons_append, charsAll_cons, charsAll_cons, ih, List.append_assoc]

@[simp] theorem charsAll_ofText (s : String) : charsAll (ofText s) = s.toList := by
  rw [ofText]
  induction s.toList with
  | nil => rfl
  | cons c cs ih =>
    rw [List.map_cons, charsAll_cons, ih]
    rfl

@[simp] theorem skeletonAll_nil : skeletonAll [] = [] := rfl

@[simp] theorem skeletonAll_cons (item : Item) (items : List Item) :
    skeletonAll (item :: items) = item.skeleton ++ skeletonAll items := rfl

@[simp] theorem skeletonAll_append (a b : List Item) :
    skeletonAll (a ++ b) = skeletonAll a ++ skeletonAll b := by
  induction a with
  | nil => rfl
  | cons item a ih =>
    rw [List.cons_append, skeletonAll_cons, skeletonAll_cons, ih, List.append_assoc]

/-- Text has no elements. -/
@[simp] theorem skeletonAll_ofText (s : String) : skeletonAll (ofText s) = [] := by
  rw [ofText]
  induction s.toList with
  | nil => rfl
  | cons c cs ih => exact ih

end Item

/-! ## Pieces that spell items -/

/-- The pieces spell the items: their names are names, they are put together as these items wherever
they stand, and their texts are those of the items. -/
structure Spells (items : List Item) (pieces : List Piece) : Prop where
  clean : ∀ p ∈ pieces, p.Clean
  assemble : ∀ opened before lexemes,
    assemble opened before (pieces.flatMap Piece.lexemes ++ lexemes) =
      assemble opened (items.reverse ++ before) lexemes
  chars : pieces.flatMap Piece.chars = Item.charsAll items

namespace Spells

theorem nil : Spells [] [] := ⟨by simp, fun _ _ _ => rfl, rfl⟩

theorem append {a b : List Item} {p q : List Piece} (hp : Spells a p) (hq : Spells b q) :
    Spells (a ++ b) (p ++ q) where
  clean := List.forall_mem_append.mpr ⟨hp.clean, hq.clean⟩
  assemble := by
    intro opened before lexemes
    rw [List.flatMap_append, List.append_assoc, hp.assemble, hq.assemble, List.reverse_append,
      List.append_assoc]
  chars := by rw [List.flatMap_append, hp.chars, hq.chars, Item.charsAll_append]

theorem text (s : String) : Spells (Item.ofText s) [.text s] where
  clean := by simp [Piece.Clean]
  assemble := by
    intro opened before lexemes
    rw [List.flatMap_singleton, Piece.lexemes, Item.ofText]
    induction s.toList generalizing before with
    | nil => rfl
    | cons c cs ih =>
      have hstep := ih (.char c :: before)
      rw [List.map_cons, List.map_cons, List.cons_append, List.reverse_cons, List.append_assoc,
        List.singleton_append, ← hstep]
      cases opened <;> rfl
  chars := by rw [List.flatMap_singleton, Piece.chars, Item.charsAll_ofText]

/-- The tags of an element match, whatever is open around it. -/
theorem element {name : String} {attributes : List Attribute} {items : List Item}
    {pieces : List Piece} (hname : IsName name) (hattributes : Named attributes)
    (h : Spells items pieces) :
    Spells [.element name attributes items] (element name attributes pieces) where
  clean := by
    intro p hp
    rw [Html.element, List.cons_append, List.mem_cons, List.mem_append, List.mem_singleton] at hp
    rcases hp with rfl | hp | rfl
    · exact ⟨hname, hattributes⟩
    · exact h.clean p hp
    · exact hname
  assemble := by
    intro opened before lexemes
    have hopen : Html.assemble opened before
          (.opening name attributes ::
            (pieces.flatMap Piece.lexemes ++ .closing name :: lexemes)) =
        Html.assemble (⟨name, attributes, before⟩ :: opened) []
          (pieces.flatMap Piece.lexemes ++ .closing name :: lexemes) := by
      cases opened <;> rfl
    have hclose : Html.assemble (⟨name, attributes, before⟩ :: opened) items.reverse
          (.closing name :: lexemes) =
        Html.assemble opened (.element name attributes items :: before) lexemes := by
      rw [Html.assemble, if_pos rfl, List.reverse_reverse]
    have hlexemes : (Html.element name attributes pieces).flatMap Piece.lexemes ++ lexemes =
        .opening name attributes ::
          (pieces.flatMap Piece.lexemes ++ .closing name :: lexemes) := by
      simp [Html.element, Piece.lexemes]
    rw [hlexemes, hopen, h.assemble, List.append_nil, hclose]
    rfl
  chars := by
    rw [Item.charsAll_cons, Item.chars_element, Item.charsAll_nil, List.append_nil, ← h.chars]
    simp [Html.element, Piece.chars]

/-- Pieces that spell items are read back as these items. -/
theorem read {items : List Item} {pieces : List Piece} (h : Spells items pieces) :
    Html.read (String.ofList (write pieces)) = some items := by
  have hassemble := h.assemble [] [] []
  rw [List.append_nil, List.append_nil] at hassemble
  rw [Html.read, String.toList_ofList, lexemes_write h.clean]
  refine hassemble.trans ?_
  rw [Html.assemble, List.reverse_reverse]

example : Html.read "<b>1 &lt; 2</b>" = some [.element "b" [] (Item.ofText "1 < 2")] ∧
    Html.read "<b>1 < 2</b>" = none ∧ Html.read "<b><i>2</b></i>" = none := ⟨rfl, rfl, rfl⟩

/-- Without its tags, and with its entities replaced, a text is that of the items. -/
theorem decode_withoutTags {items : List Item} {pieces : List Piece} (h : Spells items pieces) :
    Escape.decode Escape.named? (withoutTags false (write pieces)) = Item.charsAll items := by
  rw [withoutTags_write h.clean, Escape.decode_escaped, h.chars]

end Spells

/-! ## The elements of markup -/

/-- The elements of headings, by level; all levels above six are written as six, and level zero as
one. -/
def headingElement (level : UInt8) : String :=
  ["h1", "h1", "h2", "h3", "h4", "h5"].getD level.toNat "h6"

theorem headingElement_of_le {level : UInt8} (h : 6 ≤ level.toNat) :
    headingElement level = "h6" := by
  rw [headingElement, List.getD_eq_getElem?_getD, List.getElem?_eq_none h]
  rfl

theorem headingName_eq (level : UInt8) : headingName level = headingElement level := by
  rcases Nat.lt_or_ge level.toNat 6 with h | h
  · have hsmall : ∀ n < 6, "h" ++ toString (max 1 (min 6 n)) =
        ["h1", "h1", "h2", "h3", "h4", "h5"].getD n "h6" := by
      decide
    exact hsmall level.toNat h
  · rw [headingElement_of_le h, headingName, Nat.min_eq_left h]
    rfl

theorem isName_headingElement (level : UInt8) : IsName (headingElement level) := by
  rcases Nat.lt_or_ge level.toNat 6 with h | h
  · have hsmall : ∀ n < 6, IsName (["h1", "h1", "h2", "h3", "h4", "h5"].getD n "h6") := by
      decide
    exact hsmall level.toNat h
  · rw [headingElement_of_le h]
    decide

end Html

open Html

mutual

/-- What a node is read back as: the element it stands for, with its strings as they are. -/
def Node.items : Node → List Item
  | .text s => Item.ofText s
  | .keyword s => [.element "span" [⟨"class", some "keyword"⟩] (Item.ofText s)]
  | .link href ns => [.element "a" [⟨"href", some href⟩] (Markup.items ns)]
  | .anchor id => [.element "a" [⟨"href", some ("#" ++ id)⟩, ⟨"class", some "anchor"⟩] []]
  | .span c ns => [.element "span" [⟨"class", some c⟩] (Markup.items ns)]
  | .code ns => [.element "code" [] (Markup.items ns)]
  | .emphasis ns => [.element "em" [] (Markup.items ns)]
  | .bold ns => [.element "b" [] (Markup.items ns)]
  | .paragraph ns => [.element "p" [] (Markup.items ns)]
  | .heading level id ns => [.element (headingElement level) (id? id) (Markup.items ns)]
  | .pre s => [.element "pre" [] (Item.ofText s)]
  | .list ordered items => [.element (if ordered then "ol" else "ul") [] (Node.itemsOfItems items)]
  | .div c id ns => [.element "div" (⟨"class", some c⟩ :: id? id) (Markup.items ns)]
  | .table c rows => [.element "table" [⟨"class", some c⟩] (Row.items rows)]
  | .details isOpen summary body =>
    [.element "details" (if isOpen then [⟨"open", none⟩] else [])
      (.element "summary" [] (Markup.items summary) :: Markup.items body)]

@[inherit_doc Node.items]
def Markup.items : List Node → List Item
  | [] => []
  | n :: ns => n.items ++ Markup.items ns

@[inherit_doc Node.items]
def Node.itemsOfItems : List (List Node) → List Item
  | [] => []
  | ns :: items => .element "li" [] (Markup.items ns) :: Node.itemsOfItems items

@[inherit_doc Node.items]
def Row.items : List Row → List Item
  | [] => []
  | .mk none cells :: rows => .element "tr" [] (Cell.items cells) :: Row.items rows
  | .mk (some id) cells :: rows =>
    .element "tr" [⟨"class", some "anchored"⟩, ⟨"id", some id⟩] (Cell.items cells) ::
      Row.items rows

@[inherit_doc Node.items]
def Cell.items : List Cell → List Item
  | [] => []
  | .mk c ns :: cells => .element "td" [⟨"class", some c⟩] (Markup.items ns) :: Cell.items cells

end

theorem Html.named_id? (id : Option String) : Named (id? id) := by
  cases id with
  | none => exact .nil
  | some value => exact .cons (by decide) .nil

theorem Html.named_class (c : String) : Named [⟨"class", some c⟩] := .cons (by decide) .nil

mutual

/-- The pieces of a node spell its element. -/
theorem Node.spells : ∀ n : Node, Spells n.items n.pieces
  | .text s => .text s
  | .keyword s => .element (by decide) (named_class _) (.text s)
  | .link href ns => .element (by decide) (.cons (by decide) .nil) (Markup.spells ns)
  | .anchor id => .element (by decide) (.cons (by decide) (named_class _)) .nil
  | .span c ns => .element (by decide) (named_class c) (Markup.spells ns)
  | .code ns | .emphasis ns | .bold ns | .paragraph ns =>
    .element (by decide) .nil (Markup.spells ns)
  | .heading level id ns => by
    rw [Node.items, Node.pieces, headingName_eq]
    exact .element (isName_headingElement level) (named_id? id) (Markup.spells ns)
  | .pre s => .element (by decide) .nil (.text s)
  | .list ordered items => by
    have hname : IsName (if ordered then "ol" else "ul") := by
      cases ordered <;> decide
    exact .element hname .nil (Node.spells_items items)
  | .div c id ns => .element (by decide) (.cons (by decide) (named_id? id)) (Markup.spells ns)
  | .table c rows => .element (by decide) (named_class c) (Row.spells rows)
  | .details isOpen summary body => by
    have hopen : Named (if isOpen then [⟨"open", none⟩] else []) := by
      cases isOpen with
      | false => exact .nil
      | true => exact .cons (by decide) .nil
    have hsummary : Spells [.element "summary" [] (Markup.items summary)]
        (element "summary" [] (Markup.pieces summary)) :=
      .element (by decide) .nil (Markup.spells summary)
    exact .element (by decide) hopen (hsummary.append (Markup.spells body))

@[inherit_doc Node.spells]
theorem Markup.spells : ∀ ns : List Node, Spells (Markup.items ns) (Markup.pieces ns)
  | [] => .nil
  | n :: ns => .append (Node.spells n) (Markup.spells ns)

@[inherit_doc Node.spells]
theorem Node.spells_items : ∀ items : List (List Node),
    Spells (Node.itemsOfItems items) (Node.piecesOfItems items)
  | [] => .nil
  | ns :: items => .append (.element (by decide) .nil (Markup.spells ns)) (Node.spells_items items)

@[inherit_doc Node.spells]
theorem Row.spells : ∀ rows : List Row, Spells (Row.items rows) (Row.pieces rows)
  | [] => .nil
  | .mk none cells :: rows =>
    .append (.element (by decide) .nil (Cell.spells cells)) (Row.spells rows)
  | .mk (some id) cells :: rows =>
    .append (.element (by decide) (.cons (by decide) (named_id? (some id))) (Cell.spells cells))
      (Row.spells rows)

@[inherit_doc Node.spells]
theorem Cell.spells : ∀ cells : List Cell, Spells (Cell.items cells) (Cell.pieces cells)
  | [] => .nil
  | .mk c ns :: cells =>
    .append (.element (by decide) (named_class c) (Markup.spells ns)) (Cell.spells cells)

end

/-! ## The shape of markup -/

mutual

/-- The node with every string in it left empty. -/
def Node.blank : Node → Node
  | .text _ => .text ""
  | .keyword _ => .keyword ""
  | .link _ ns => .link "" (Markup.blank ns)
  | .anchor _ => .anchor ""
  | .span _ ns => .span "" (Markup.blank ns)
  | .code ns => .code (Markup.blank ns)
  | .emphasis ns => .emphasis (Markup.blank ns)
  | .bold ns => .bold (Markup.blank ns)
  | .paragraph ns => .paragraph (Markup.blank ns)
  | .heading level id ns => .heading level (id.map fun _ => "") (Markup.blank ns)
  | .pre _ => .pre ""
  | .list ordered items => .list ordered (Node.blankItems items)
  | .div _ id ns => .div "" (id.map fun _ => "") (Markup.blank ns)
  | .table _ rows => .table "" (Row.blankAll rows)
  | .details isOpen summary body => .details isOpen (Markup.blank summary) (Markup.blank body)

@[inherit_doc Node.blank]
def Markup.blank : List Node → List Node
  | [] => []
  | n :: ns => n.blank :: Markup.blank ns

@[inherit_doc Node.blank]
def Node.blankItems : List (List Node) → List (List Node)
  | [] => []
  | ns :: items => Markup.blank ns :: Node.blankItems items

@[inherit_doc Node.blank]
def Row.blankAll : List Row → List Row
  | [] => []
  | .mk id cells :: rows => .mk (id.map fun _ => "") (Cell.blankAll cells) :: Row.blankAll rows

@[inherit_doc Node.blank]
def Cell.blankAll : List Cell → List Cell
  | [] => []
  | .mk _ ns :: cells => .mk "" (Markup.blank ns) :: Cell.blankAll cells

end

/-- One element has the skeleton of another if it has the same name, its attributes have the same
names and its children the same skeletons. -/
theorem Html.Item.skeletonAll_element {name : String} {as bs : List Attribute}
    {children others items rest : List Item}
    (hattributes : as.map Attribute.blank = bs.map Attribute.blank)
    (hchildren : skeletonAll children = skeletonAll others)
    (hrest : skeletonAll items = skeletonAll rest) :
    skeletonAll (.element name as children :: items) =
      skeletonAll (.element name bs others :: rest) := by
  simp only [skeletonAll_cons, skeleton, hattributes, hchildren, hrest]

theorem Html.blank_id? (id : Option String) :
    (id? (id.map fun _ => "")).map Attribute.blank = (id? id).map Attribute.blank := by
  cases id <;> rfl

section Skeletons

open Html.Item

mutual

/-- The strings of a node have no part in its skeleton. -/
theorem Node.skeleton_blank : ∀ n : Node, skeletonAll n.blank.items = skeletonAll n.items
  | .text s | .keyword s | .pre s => by simp [Node.blank, Node.items, skeleton]
  | .anchor _ => rfl
  | .link _ ns | .span _ ns | .code ns | .emphasis ns | .bold ns | .paragraph ns =>
    skeletonAll_element rfl (Markup.skeleton_blank ns) rfl
  | .heading _ id ns => skeletonAll_element (blank_id? id) (Markup.skeleton_blank ns) rfl
  | .list _ items => skeletonAll_element rfl (Node.skeleton_blankItems items) rfl
  | .div _ id ns =>
    skeletonAll_element (congrArg (_ :: ·) (blank_id? id)) (Markup.skeleton_blank ns) rfl
  | .table _ rows => skeletonAll_element rfl (Row.skeleton_blankAll rows) rfl
  | .details _ summary body => by
    have hsummary := Markup.skeleton_blank summary
    have hbody := Markup.skeleton_blank body
    exact skeletonAll_element rfl (skeletonAll_element rfl hsummary hbody) rfl

@[inherit_doc Node.skeleton_blank]
theorem Markup.skeleton_blank : ∀ ns : List Node,
    skeletonAll (Markup.items (Markup.blank ns)) = skeletonAll (Markup.items ns)
  | [] => rfl
  | n :: ns => by
    have hn := Node.skeleton_blank n
    have hns := Markup.skeleton_blank ns
    rw [Markup.blank, Markup.items, Markup.items, skeletonAll_append, skeletonAll_append, hn, hns]

@[inherit_doc Node.skeleton_blank]
theorem Node.skeleton_blankItems : ∀ items : List (List Node),
    skeletonAll (Node.itemsOfItems (Node.blankItems items)) = skeletonAll (Node.itemsOfItems items)
  | [] => rfl
  | ns :: items =>
    skeletonAll_element rfl (Markup.skeleton_blank ns) (Node.skeleton_blankItems items)

@[inherit_doc Node.skeleton_blank]
theorem Row.skeleton_blankAll : ∀ rows : List Row,
    skeletonAll (Row.items (Row.blankAll rows)) = skeletonAll (Row.items rows)
  | [] => rfl
  | .mk none cells :: rows | .mk (some _) cells :: rows =>
    skeletonAll_element rfl (Cell.skeleton_blankAll cells) (Row.skeleton_blankAll rows)

@[inherit_doc Node.skeleton_blank]
theorem Cell.skeleton_blankAll : ∀ cells : List Cell,
    skeletonAll (Cell.items (Cell.blankAll cells)) = skeletonAll (Cell.items cells)
  | [] => rfl
  | .mk _ ns :: cells =>
    skeletonAll_element rfl (Markup.skeleton_blank ns) (Cell.skeleton_blankAll cells)

end

end Skeletons

/-! ## The text of markup -/

/-- The string that a node adds to the text of a page by itself. -/
def Node.ownText : Node → String
  | .text s | .keyword s | .pre s => s
  | _ => ""

mutual

/-- The text of a node, with some text between any two rows of a table. -/
def Node.textWith (sep : String) : Node → String
  | .text s | .keyword s | .pre s => s
  | .anchor _ => ""
  | .link _ ns | .span _ ns | .code ns | .emphasis ns | .bold ns | .paragraph ns
  | .heading _ _ ns | .div _ _ ns => Markup.textWith sep ns
  | .list _ items => Node.textOfItems sep items
  | .table _ [] => ""
  | .table _ (r :: rs) => Row.textWith sep r ++ Row.textOfRest sep rs
  | .details _ summary body => Markup.textWith sep summary ++ Markup.textWith sep body

@[inherit_doc Node.textWith]
def Markup.textWith (sep : String) : List Node → String
  | [] => ""
  | n :: ns => n.textWith sep ++ Markup.textWith sep ns

@[inherit_doc Node.textWith]
def Node.textOfItems (sep : String) : List (List Node) → String
  | [] => ""
  | ns :: items => Markup.textWith sep ns ++ Node.textOfItems sep items

@[inherit_doc Node.textWith]
def Row.textWith (sep : String) : Row → String
  | .mk _ cells => Cell.textWith sep cells

/-- The text of the rows after the first. -/
def Row.textOfRest (sep : String) : List Row → String
  | [] => ""
  | r :: rs => sep ++ Row.textWith sep r ++ Row.textOfRest sep rs

@[inherit_doc Node.textWith]
def Cell.textWith (sep : String) : List Cell → String
  | [] => ""
  | .mk _ ns :: cells => Markup.textWith sep ns ++ Cell.textWith sep cells

end

mutual

/-- With a blank between rows, the text of a node is its plain text. -/
theorem Node.textWith_space : ∀ n : Node, n.textWith " " = n.plainText
  | .text _ | .keyword _ | .pre _ | .anchor _ => rfl
  | .link _ ns | .span _ ns | .code ns | .emphasis ns | .bold ns | .paragraph ns
  | .heading _ _ ns | .div _ _ ns => Markup.textWith_space ns
  | .list _ items => Node.textOfItems_space items
  | .table _ [] => rfl
  | .table _ (r :: rs) => by
    rw [Node.textWith, Row.textWith_space r, Row.textOfRest_space rs, Node.plainText]
  | .details _ summary body => by
    rw [Node.textWith, Markup.textWith_space summary, Markup.textWith_space body, Node.plainText]

@[inherit_doc Node.textWith_space]
theorem Markup.textWith_space : ∀ ns : List Node, Markup.textWith " " ns = Markup.plainText ns
  | [] => rfl
  | n :: ns => by
    rw [Markup.textWith, Node.textWith_space n, Markup.textWith_space ns, Markup.plainText]

@[inherit_doc Node.textWith_space]
theorem Node.textOfItems_space : ∀ items : List (List Node),
    Node.textOfItems " " items = Node.plainTextItems items
  | [] => rfl
  | ns :: items => by
    rw [Node.textOfItems, Markup.textWith_space ns, Node.textOfItems_space items,
      Node.plainTextItems]

@[inherit_doc Node.textWith_space]
theorem Row.textWith_space : ∀ r : Row, r.textWith " " = r.plainText
  | .mk _ cells => Cell.textWith_space cells

@[inherit_doc Node.textWith_space]
theorem Row.textOfRest_space : ∀ rows : List Row, Row.textOfRest " " rows = Row.plainTextRest rows
  | [] => rfl
  | r :: rs => by
    rw [Row.textOfRest, Row.textWith_space r, Row.textOfRest_space rs, Row.plainTextRest]

@[inherit_doc Node.textWith_space]
theorem Cell.textWith_space : ∀ cells : List Cell, Cell.textWith " " cells = Cell.plainTexts cells
  | [] => rfl
  | .mk _ ns :: cells => by
    rw [Cell.textWith, Markup.textWith_space ns, Cell.textWith_space cells, Cell.plainTexts]

end

/-- The characters that some nodes add to the text of a page. -/
def Node.ownChars (ns : List Node) : List Char := ns.flatMap fun n => n.ownText.toList

@[simp] theorem Node.ownChars_append (a b : List Node) :
    Node.ownChars (a ++ b) = Node.ownChars a ++ Node.ownChars b :=
  List.flatMap_append

/-- A node that holds others adds nothing of its own. -/
theorem Node.ownChars_cons {n : Node} (h : n.ownText = "") (ns : List Node) :
    Node.ownChars (n :: ns) = Node.ownChars ns := by
  change n.ownText.toList ++ _ = _
  rw [h]
  rfl

theorem Html.Item.charsAll_singleton (name : String) (attributes : List Attribute)
    (children : List Item) :
    charsAll [.element name attributes children] = charsAll children := by
  rw [charsAll_cons, chars_element, charsAll_nil, List.append_nil]

mutual

/-- With nothing between rows, the text of a node is its own text and that of all nodes below it,
each before what it contains. -/
theorem Node.toList_textWith : ∀ n : Node, (n.textWith "").toList = Node.ownChars n.allNodes
  | .text s | .keyword s | .pre s => (List.append_nil s.toList).symm
  | .anchor _ => rfl
  | .link _ ns | .span _ ns | .code ns | .emphasis ns | .bold ns | .paragraph ns
  | .heading _ _ ns | .div _ _ ns => by
    rw [Node.textWith, Markup.toList_textWith ns, Node.allNodes, Node.ownChars_cons rfl]
  | .list _ items => by
    rw [Node.textWith, Node.toList_textOfItems items, Node.allNodes, Node.ownChars_cons rfl]
  | .table _ [] => rfl
  | .table _ (.mk _ cells :: rs) => by
    rw [Node.textWith, String.toList_append, Row.textWith, Cell.toList_textWith cells,
      Row.toList_textOfRest rs, Node.allNodes, Node.ownChars_cons rfl, Row.allNodes,
      Node.ownChars_append]
  | .details _ summary body => by
    rw [Node.textWith, String.toList_append, Markup.toList_textWith summary,
      Markup.toList_textWith body, Node.allNodes, Node.ownChars_cons rfl, Node.ownChars_append]

@[inherit_doc Node.toList_textWith]
theorem Markup.toList_textWith : ∀ ns : List Node,
    (Markup.textWith "" ns).toList = Node.ownChars (Markup.allNodes ns)
  | [] => rfl
  | n :: ns => by
    rw [Markup.textWith, String.toList_append, Node.toList_textWith n, Markup.toList_textWith ns,
      Markup.allNodes, Node.ownChars_append]

@[inherit_doc Node.toList_textWith]
theorem Node.toList_textOfItems : ∀ items : List (List Node),
    (Node.textOfItems "" items).toList = Node.ownChars (Node.allNodesOfItems items)
  | [] => rfl
  | ns :: items => by
    rw [Node.textOfItems, String.toList_append, Markup.toList_textWith ns,
      Node.toList_textOfItems items, Node.allNodesOfItems, Node.ownChars_append]

@[inherit_doc Node.toList_textWith]
theorem Row.toList_textOfRest : ∀ rows : List Row,
    (Row.textOfRest "" rows).toList = Node.ownChars (Row.allNodes rows)
  | [] => rfl
  | .mk _ cells :: rs => by
    rw [Row.textOfRest, String.empty_append, String.toList_append, Row.textWith,
      Cell.toList_textWith cells, Row.toList_textOfRest rs, Row.allNodes, Node.ownChars_append]

@[inherit_doc Node.toList_textWith]
theorem Cell.toList_textWith : ∀ cells : List Cell,
    (Cell.textWith "" cells).toList = Node.ownChars (Cell.allNodes cells)
  | [] => rfl
  | .mk _ ns :: cells => by
    rw [Cell.textWith, String.toList_append, Markup.toList_textWith ns, Cell.toList_textWith cells,
      Cell.allNodes, Node.ownChars_append]

end

section Texts

open Html.Item

mutual

/-- The characters of the items of a node are its own text and that of all nodes below it, each
before what it contains. -/
theorem Node.charsAll_items : ∀ n : Node, charsAll n.items = Node.ownChars n.allNodes
  | .text s | .keyword s | .pre s => by
    simp [Node.items, Node.ownChars, Node.allNodes, Node.ownText]
  | .anchor _ => rfl
  | .link _ ns | .span _ ns | .code ns | .emphasis ns | .bold ns | .paragraph ns
  | .heading _ _ ns | .div _ _ ns => by
    have hns := Markup.charsAll_items ns
    rw [Node.items, charsAll_singleton, hns, Node.allNodes, Node.ownChars_cons rfl]
  | .list _ items => by
    have hitems := Node.charsAll_itemsOfItems items
    rw [Node.items, charsAll_singleton, hitems, Node.allNodes, Node.ownChars_cons rfl]
  | .table _ rows => by
    have hrows := Row.charsAll_items rows
    rw [Node.items, charsAll_singleton, hrows, Node.allNodes, Node.ownChars_cons rfl]
  | .details _ summary body => by
    have hsummary := Markup.charsAll_items summary
    have hbody := Markup.charsAll_items body
    rw [Node.items, charsAll_singleton, charsAll_cons, chars_element, hsummary, hbody,
      Node.allNodes, Node.ownChars_cons rfl, Node.ownChars_append]

@[inherit_doc Node.charsAll_items]
theorem Markup.charsAll_items : ∀ ns : List Node,
    charsAll (Markup.items ns) = Node.ownChars (Markup.allNodes ns)
  | [] => rfl
  | n :: ns => by
    have hn := Node.charsAll_items n
    have hns := Markup.charsAll_items ns
    rw [Markup.items, charsAll_append, hn, hns, Markup.allNodes, Node.ownChars_append]

@[inherit_doc Node.charsAll_items]
theorem Node.charsAll_itemsOfItems : ∀ items : List (List Node),
    charsAll (Node.itemsOfItems items) = Node.ownChars (Node.allNodesOfItems items)
  | [] => rfl
  | ns :: items => by
    have hns := Markup.charsAll_items ns
    have hitems := Node.charsAll_itemsOfItems items
    rw [Node.itemsOfItems, charsAll_cons, chars_element, hns, hitems, Node.allNodesOfItems,
      Node.ownChars_append]

@[inherit_doc Node.charsAll_items]
theorem Row.charsAll_items : ∀ rows : List Row,
    charsAll (Row.items rows) = Node.ownChars (Row.allNodes rows)
  | [] => rfl
  | .mk none cells :: rows | .mk (some _) cells :: rows => by
    have hcells := Cell.charsAll_items cells
    have hrows := Row.charsAll_items rows
    rw [Row.items, charsAll_cons, chars_element, hcells, hrows, Row.allNodes, Node.ownChars_append]

@[inherit_doc Node.charsAll_items]
theorem Cell.charsAll_items : ∀ cells : List Cell,
    charsAll (Cell.items cells) = Node.ownChars (Cell.allNodes cells)
  | [] => rfl
  | .mk _ ns :: cells => by
    have hns := Markup.charsAll_items ns
    have hcells := Cell.charsAll_items cells
    rw [Cell.items, charsAll_cons, chars_element, hns, hcells, Cell.allNodes, Node.ownChars_append]

end

end Texts

/-- **HTML is well formed and free of injections.**  The HTML of any markup, whatever strings stand
in it, is read back as the elements of its nodes, nested as the nodes are, with every string in its
place.  Leaving out all strings changes no element, no attribute and no nesting, so neither does
replacing them.  Without its tags the HTML is the text of the page, the strings of its nodes in
order, which is its plain text but for the blanks between the rows of tables. -/
theorem Markup.read_toHtml (ns : Markup) :
    Html.read (Markup.toHtml ns) = some (Markup.items ns) ∧
      (Html.read (Markup.toHtml ns)).map Html.Item.skeletonAll =
        (Html.read (Markup.toHtml (Markup.blank ns))).map Html.Item.skeletonAll ∧
      Escape.decode Escape.named? (Html.withoutTags false (Markup.toHtml ns).toList) =
        (Markup.allNodes ns).flatMap (fun n => n.ownText.toList) ∧
      (Markup.textWith "" ns).toList =
        (Markup.allNodes ns).flatMap (fun n => n.ownText.toList) ∧
      Markup.textWith " " ns = Markup.plainText ns := by
  have hread (ms : Markup) : Html.read (Markup.toHtml ms) = some (Markup.items ms) :=
    (Markup.spells ms).read
  refine ⟨hread ns, ?_, ?_, Markup.toList_textWith ns, Markup.textWith_space ns⟩
  · rw [hread, hread, Option.map_some, Option.map_some, Markup.skeleton_blank]
  · rw [Markup.toHtml, String.toList_ofList, (Markup.spells ns).decode_withoutTags]
    exact Markup.charsAll_items ns

end DocSite
