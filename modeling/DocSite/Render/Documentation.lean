import DocSite.Render.Noted
import DocSite.Text.Alphanumeric
import DocSite.Text.Lowercase

/-!
# Documentation on a page

Documentation comments as markup, and the table of contents that their headings make.
-/

namespace DocSite

/-! ## Headings -/

namespace Slug

/-- The slug after one more character of the text; both are kept last character first.  Whatever is
no letter divides words, and a divider is only put after a word. -/
def push (letter : Char → Bool) (lower : Char → List Char) (slug : List Char) (c : Char) :
    List Char :=
  if letter c then (lower c).reverse ++ slug
  else
    match slug with
    | [] => []
    | '-' :: rest => '-' :: rest
    | rest => '-' :: rest

/-- A text as an anchor: its words in lower case, divided by hyphens. -/
def ofChars (letter : Char → Bool) (lower : Char → List Char) (text : List Char) : List Char :=
  ((text.foldl (push letter lower) []).dropWhile (· == '-')).reverse

end Slug

/-- The anchor of a heading: its label, or the slug of its text. -/
def headingId (label : Option String) (content : List Inline) : String :=
  match label with
  | some l => l
  | none =>
    String.ofList
      (Slug.ofChars Text.isAlphanumeric Text.lowercase (Inline.plainTexts content).toList)

/-- The entries that the headings of a comment make in the table of contents. -/
def Docs.headings (docs : Docs) : List ContentsEntry :=
  docs.filterMap fun
    | .heading level label content =>
      some ⟨level, headingId label content, Inline.plainTexts content⟩
    | _ => none

/-! ## Running text -/

mutual

/-- Running text on a page.  The content of a reference is rendered before its target is looked
up. -/
def Inline.render (here : Here) : Inline → Noted Node
  | .text s => pure (.text s)
  | .code s => pure (.code [.text s])
  | .emphasis xs => do return .emphasis (← Inline.renderAll here xs)
  | .bold xs => do return .bold (← Inline.renderAll here xs)
  | .link target xs => do
    let children ← if xs.isEmpty then pure [.text target] else Inline.renderAll here xs
    return .link target children
  | .reference target xs => do
    let children ←
      if xs.isEmpty then pure [.code [.text target.name]] else Inline.renderAll here xs
    .orElse ((here.settings.href here.page target false).map fun href => .link href children)
      (.reference target) (.span "xref-unresolved" children)

@[inherit_doc Inline.render]
def Inline.renderAll (here : Here) : List Inline → Noted Markup
  | [] => pure []
  | x :: xs => do return (← x.render here) :: (← Inline.renderAll here xs)

end

/-! ## Tags -/

/-- The block of a tag: its name in bold and then its content. -/
def Tag.block (name : String) (content : Markup) : Node :=
  Markup.block ("at-tag " ++ name)
    [.paragraph (.bold [.text name] :: if content.isEmpty then [] else .text " " :: content)]

def Tag.render (here : Here) : Tag → Noted Markup
  | .open | .closed | .inline => pure []
  | .author s => pure [Tag.block "author" [.text s]]
  | .since s => pure [Tag.block "since" [.text s]]
  | .version s => pure [Tag.block "version" [.text s]]
  | .deprecated xs => do return [Tag.block "deprecated" (← Inline.renderAll here xs)]
  | .return xs => do return [Tag.block "returns" (← Inline.renderAll here xs)]

/-! ## Blocks -/

mutual

/-- A block on a page: one node, or none for a silent tag. -/
def Block.render (here : Here) : Block → Noted Markup
  | .paragraph xs => do return [.paragraph (← Inline.renderAll here xs)]
  | .heading level label content => do
    return [.heading level (some (headingId label content)) (← Inline.renderAll here content)]
  | .codeBlock s => pure [.pre s]
  | .verbatim s => pure [Markup.block "verbatim" [.pre s]]
  | .list ordered items => do return [.list ordered (← Block.renderItems here items)]
  | .tag t => t.render here

@[inherit_doc Block.render]
def Block.renderAll (here : Here) : List Block → Noted Markup
  | [] => pure []
  | b :: bs => do return (← b.render here) ++ (← Block.renderAll here bs)

@[inherit_doc Block.render]
def Block.renderItems (here : Here) : List (List Block) → Noted (List Markup)
  | [] => pure []
  | bs :: items => do return (← Block.renderAll here bs) :: (← Block.renderItems here items)

end

namespace Docs

/-- A whole comment. -/
def render (here : Here) (docs : Docs) : Noted Markup := Block.renderAll here docs

/-- The first paragraph of a comment. -/
def renderSynopsis (here : Here) (docs : Docs) : Noted Markup :=
  match docs.synopsis? with
  | some b => b.render here
  | none => pure []

end Docs

end DocSite
