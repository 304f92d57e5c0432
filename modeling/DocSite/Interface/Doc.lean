import DocSite.Interface.Identifier

/-!
# Documentation comments

The text attached to declarations and standing between them: blocks of inline content, with tags.
Tags of the shape `open`, `closed` and `inline` say how an include is to be shown and print nothing;
all other tags are content.  A comment that holds nothing but the first sort counts as empty.
-/

namespace DocSite

/-- Running text.  A link or reference without content of its own shows its target. -/
inductive Inline where
  | text (text : String)
  | code (text : String)
  | emphasis (content : List Inline)
  | bold (content : List Inline)
  | link (target : String) (content : List Inline)
  | reference (target : Identifier) (content : List Inline)

/-- What an author notes about a declaration as a whole. -/
inductive Tag where
  | «open»
  | closed
  | inline
  | author (name : String)
  | deprecated (content : List Inline)
  | since (version : String)
  | version (version : String)
  | «return» (content : List Inline)

inductive Block where
  | paragraph (content : List Inline)
  | heading (level : UInt8) (label : Option String) (text : List Inline)
  | codeBlock (text : String)
  | verbatim (text : String)
  | list (ordered : Bool) (items : List (List Block))
  | tag (tag : Tag)

/-- A documentation comment: its blocks from top to bottom. -/
abbrev Docs := List Block

/-- What may stand between the items of a signature: text, or a marker after which text is hidden
until the next marker. -/
inductive Comment where
  | docs (docs : Docs)
  | stop

/-! ## Equality of tags -/

mutual

/-- Whether two pieces of running text are the same, decided by walking both. -/
def Inline.same : Inline → Inline → Bool
  | .text s, .text t => s == t
  | .code s, .code t => s == t
  | .emphasis xs, .emphasis ys => Inline.sameAll xs ys
  | .bold xs, .bold ys => Inline.sameAll xs ys
  | .link s xs, .link t ys => s == t && Inline.sameAll xs ys
  | .reference a xs, .reference b ys => a == b && Inline.sameAll xs ys
  | _, _ => false

@[inherit_doc Inline.same]
def Inline.sameAll : List Inline → List Inline → Bool
  | [], [] => true
  | x :: xs, y :: ys => x.same y && Inline.sameAll xs ys
  | _, _ => false

end

/-- Whether two tags are the same, content included. -/
def Tag.same : Tag → Tag → Bool
  | .open, .open => true
  | .closed, .closed => true
  | .inline, .inline => true
  | .author s, .author t => s == t
  | .deprecated xs, .deprecated ys => Inline.sameAll xs ys
  | .since s, .since t => s == t
  | .version s, .version t => s == t
  | .return xs, .return ys => Inline.sameAll xs ys
  | _, _ => false

/-! ## Questions about a comment -/

/-- Whether a tag only steers how an include is shown. -/
def Tag.isSilent : Tag → Bool
  | .open | .closed | .inline => true
  | _ => false

/-- Whether a block prints nothing. -/
def Block.isSilent : Block → Bool
  | .tag t => t.isSilent
  | _ => false

namespace Docs

/-- Whether a comment has nothing to show. -/
def isSilent (docs : Docs) : Bool := docs.all Block.isSilent

/-- Whether a comment carries a given tag at top level. -/
def hasTag (docs : Docs) (tag : Tag) : Bool :=
  docs.any fun
    | .tag t => t.same tag
    | _ => false

/-- The first paragraph, which stands for the whole comment where there is little room. -/
def synopsis? (docs : Docs) : Option Block :=
  docs.find? fun
    | .paragraph _ => true
    | _ => false

/-- A comment of one paragraph of plain text. -/
def ofText (text : String) : Docs := [.paragraph [.text text]]

end Docs

mutual

/-- The text of running content without its markup. -/
def Inline.plainText : Inline → String
  | .text s => s
  | .code s => s
  | .emphasis xs => Inline.plainTexts xs
  | .bold xs => Inline.plainTexts xs
  | .link target [] => target
  | .link _ (x :: xs) => Inline.plainTexts (x :: xs)
  | .reference target [] => target.name
  | .reference _ (x :: xs) => Inline.plainTexts (x :: xs)

@[inherit_doc Inline.plainText]
def Inline.plainTexts : List Inline → String
  | [] => ""
  | x :: xs => x.plainText ++ Inline.plainTexts xs

end

end DocSite
