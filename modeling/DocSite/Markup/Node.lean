/-!
# Markup

The content of a page before it becomes HTML: a tree of nodes.  Tables are made of rows and rows of
cells, which are no nodes themselves, so the three types are defined together.

Node boundaries are part of the content.  Adjacent texts are not merged and empty texts are kept,
since how a definition is cut into pieces is decided where it is put together and nowhere else.
-/

namespace DocSite

mutual

inductive Node where
  | text (text : String)
  | keyword (text : String)
  | link (href : String) (children : List Node)
  /-- A link from a declaration to itself. -/
  | anchor (id : String)
  | span (cls : String) (children : List Node)
  | code (children : List Node)
  | emphasis (children : List Node)
  | bold (children : List Node)
  | paragraph (children : List Node)
  | heading (level : UInt8) (id : Option String) (children : List Node)
  | pre (text : String)
  | list (ordered : Bool) (items : List (List Node))
  | div (cls : String) (id : Option String) (children : List Node)
  | table (cls : String) (rows : List Row)
  | details (isOpen : Bool) (summary body : List Node)

inductive Row where
  | mk (id : Option String) (cells : List Cell)

inductive Cell where
  | mk (cls : String) (children : List Node)

end

/-- A sequence of nodes. -/
abbrev Markup := List Node

namespace Markup

/-! ## Small pieces -/

/-- The arrow of function types. -/
def arrow : Node := .span "arrow" [.text "->"]

/-- A block without an anchor. -/
def block (cls : String) (children : Markup) : Node := .div cls none children

def inParentheses (inner : Markup) : Markup := .text "(" :: inner ++ [.text ")"]

/-- The parts one after the other, with `sep` between any two. -/
def join (sep : Markup) : List Markup → Markup
  | [] => []
  | [part] => part
  | part :: parts => part ++ sep ++ join sep parts

/-- A declaration: its definition, anchored if it has an anchor, and then its documentation. -/
def declaration (kind : String) (anchor : Option String) (definition doc : Markup) : Node :=
  block "odoc-spec"
    (.div ("spec " ++ kind) anchor ((anchor.map Node.anchor).toList ++ definition) ::
      if doc.isEmpty then [] else [block "spec-doc" doc])

end Markup

/-! ## The text of a page -/

mutual

/-- The text of a node.  Rows of a table are divided by a blank. -/
def Node.plainText : Node → String
  | .text s | .keyword s | .pre s => s
  | .anchor _ => ""
  | .link _ ns | .span _ ns | .code ns | .emphasis ns | .bold ns | .paragraph ns
  | .heading _ _ ns | .div _ _ ns => Markup.plainText ns
  | .list _ items => Node.plainTextItems items
  | .table _ [] => ""
  | .table _ (r :: rs) => Row.plainText r ++ Row.plainTextRest rs
  | .details _ summary body => Markup.plainText summary ++ Markup.plainText body

@[inherit_doc Node.plainText]
def Markup.plainText : List Node → String
  | [] => ""
  | n :: ns => n.plainText ++ Markup.plainText ns

@[inherit_doc Node.plainText]
def Node.plainTextItems : List (List Node) → String
  | [] => ""
  | ns :: items => Markup.plainText ns ++ Node.plainTextItems items

@[inherit_doc Node.plainText]
def Row.plainText : Row → String
  | .mk _ cells => Cell.plainTexts cells

/-- The text of the rows after the first. -/
def Row.plainTextRest : List Row → String
  | [] => ""
  | r :: rs => " " ++ Row.plainText r ++ Row.plainTextRest rs

@[inherit_doc Node.plainText]
def Cell.plainTexts : List Cell → String
  | [] => ""
  | .mk _ ns :: cells => Markup.plainText ns ++ Cell.plainTexts cells

end

/-! ## All nodes of a page -/

mutual

/-- A node and all nodes below it, each before what it contains. -/
def Node.allNodes : Node → List Node
  | .text s => [.text s]
  | .keyword s => [.keyword s]
  | .pre s => [.pre s]
  | .anchor a => [.anchor a]
  | .link h ns => .link h ns :: Markup.allNodes ns
  | .span c ns => .span c ns :: Markup.allNodes ns
  | .code ns => .code ns :: Markup.allNodes ns
  | .emphasis ns => .emphasis ns :: Markup.allNodes ns
  | .bold ns => .bold ns :: Markup.allNodes ns
  | .paragraph ns => .paragraph ns :: Markup.allNodes ns
  | .heading l i ns => .heading l i ns :: Markup.allNodes ns
  | .div c i ns => .div c i ns :: Markup.allNodes ns
  | .list o items => .list o items :: Node.allNodesOfItems items
  | .table c rows => .table c rows :: Row.allNodes rows
  | .details o summary body =>
    .details o summary body :: (Markup.allNodes summary ++ Markup.allNodes body)

@[inherit_doc Node.allNodes]
def Markup.allNodes : List Node → List Node
  | [] => []
  | n :: ns => n.allNodes ++ Markup.allNodes ns

@[inherit_doc Node.allNodes]
def Node.allNodesOfItems : List (List Node) → List Node
  | [] => []
  | ns :: items => Markup.allNodes ns ++ Node.allNodesOfItems items

@[inherit_doc Node.allNodes]
def Row.allNodes : List Row → List Node
  | [] => []
  | .mk _ cells :: rs => Cell.allNodes cells ++ Row.allNodes rs

@[inherit_doc Node.allNodes]
def Cell.allNodes : List Cell → List Node
  | [] => []
  | .mk _ ns :: cells => Markup.allNodes ns ++ Cell.allNodes cells

end

end DocSite
