import DocSite.Markup.Escape
import DocSite.Markup.Node

/-!
# HTML

Markup becomes HTML in two steps.  The nodes are first laid out as a row of pieces, the tags and the
text between them, and the pieces are then written.  All escaping happens in the second step, at the
two places where a string of the page meets the text of the document: in the value of an attribute
and between tags.
-/

namespace DocSite

namespace Html

/-- An attribute; one without a value is written as its bare name. -/
structure Attribute where
  name : String
  value : Option String

inductive Piece where
  | opening (name : String) (attributes : List Attribute)
  | closing (name : String)
  | text (text : String)

/-- The text of an attribute, with the blank before it. -/
def Attribute.write (a : Attribute) : List Char :=
  ' ' :: a.name.toList ++
    match a.value with
    | some v => "=\"".toList ++ (Escape.html v).toList ++ ['"']
    | none => []

def Piece.write : Piece → List Char
  | opening name attributes => '<' :: name.toList ++ attributes.flatMap Attribute.write ++ ['>']
  | closing name => "</".toList ++ name.toList ++ ['>']
  | text s => (Escape.html s).toList

def write (pieces : List Piece) : List Char := pieces.flatMap Piece.write

/-- The element around some pieces. -/
def element (name : String) (attributes : List Attribute) (inner : List Piece) : List Piece :=
  .opening name attributes :: inner ++ [.closing name]

def cls (value : String) : Attribute := ⟨"class", some value⟩

/-- The attribute that makes an element a target, if it is one. -/
def id? : Option String → List Attribute
  | some value => [⟨"id", some value⟩]
  | none => []

/-- Levels outside one to six are written as the nearest of these. -/
def headingName (level : UInt8) : String :=
  "h" ++ toString (max 1 (min 6 level.toNat))

def listName (ordered : Bool) : String := if ordered then "ol" else "ul"

end Html

open Html

mutual

/-- The tags and texts of a node. -/
def Node.pieces : Node → List Piece
  | .text s => [.text s]
  | .keyword s => element "span" [cls "keyword"] [.text s]
  | .link href ns => element "a" [⟨"href", some href⟩] (Markup.pieces ns)
  | .anchor id => element "a" [⟨"href", some ("#" ++ id)⟩, cls "anchor"] []
  | .span c ns => element "span" [cls c] (Markup.pieces ns)
  | .code ns => element "code" [] (Markup.pieces ns)
  | .emphasis ns => element "em" [] (Markup.pieces ns)
  | .bold ns => element "b" [] (Markup.pieces ns)
  | .paragraph ns => element "p" [] (Markup.pieces ns)
  | .heading level id ns => element (headingName level) (id? id) (Markup.pieces ns)
  | .pre s => element "pre" [] [.text s]
  | .list ordered items => element (listName ordered) [] (Node.piecesOfItems items)
  | .div c id ns => element "div" (cls c :: id? id) (Markup.pieces ns)
  | .table c rows => element "table" [cls c] (Row.pieces rows)
  | .details isOpen summary body =>
    element "details" (if isOpen then [⟨"open", none⟩] else [])
      (element "summary" [] (Markup.pieces summary) ++ Markup.pieces body)

@[inherit_doc Node.pieces]
def Markup.pieces : List Node → List Piece
  | [] => []
  | n :: ns => n.pieces ++ Markup.pieces ns

@[inherit_doc Node.pieces]
def Node.piecesOfItems : List (List Node) → List Piece
  | [] => []
  | ns :: items => element "li" [] (Markup.pieces ns) ++ Node.piecesOfItems items

/-- The tags and texts of rows.  A row that is a target says so in its class. -/
def Row.pieces : List Row → List Piece
  | [] => []
  | .mk id cells :: rows =>
    element "tr" ((id.map fun _ => cls "anchored").toList ++ id? id) (Cell.pieces cells) ++
      Row.pieces rows

@[inherit_doc Node.pieces]
def Cell.pieces : List Cell → List Piece
  | [] => []
  | .mk c ns :: cells => element "td" [cls c] (Markup.pieces ns) ++ Cell.pieces cells

end

/-- The HTML of some markup. -/
def Markup.toHtml (ns : Markup) : String := String.ofList (Html.write (Markup.pieces ns))

end DocSite
