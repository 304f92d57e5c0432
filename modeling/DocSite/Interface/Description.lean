import DocSite.Interface.TypeExpr
import DocSite.Text.Quoted

/-!
# Descriptions

A type that cannot be linked is named in messages by a full description of its structure: every
constructor with its parts.  There are two shapes, `Name(a, b)` and `Name { part: a, other: b }`,
and lists and pairs in brackets; everything here is put together from these.
-/

namespace DocSite

namespace Describe

def commaJoined (parts : List String) : String := ", ".intercalate parts

/-- `Name(a, b)` -/
def call (name : String) (parts : List String) : String :=
  name ++ "(" ++ commaJoined parts ++ ")"

/-- `Name { part: a, other: b }` -/
def record (name : String) (parts : List (String × String)) : String :=
  name ++ " \x7b " ++ commaJoined (parts.map fun p => p.1 ++ ": " ++ p.2) ++ " \x7d"

def list (parts : List String) : String := "[" ++ commaJoined parts ++ "]"

def pair (a b : String) : String := "(" ++ a ++ ", " ++ b ++ ")"

def option : Option String → String
  | some s => call "Some" [s]
  | none => "None"

def flag (b : Bool) : String := if b then "true" else "false"

/-! ## Names and paths -/

def kind : Kind → String
  | .root => "Root"
  | .page => "Page"
  | .module => "Module"
  | .argument position => record "Argument" [("position", toString position.toNat)]
  | .moduleType => "ModuleType"
  | .type => "Type"
  | .coreType => "CoreType"
  | .constructor => "Constructor"
  | .field => "Field"
  | .extension => "Extension"
  | .exception => "Exception"
  | .coreException => "CoreException"
  | .value => "Value"
  | .class => "Class"
  | .classType => "ClassType"
  | .method => "Method"
  | .instanceVariable => "InstanceVariable"

def identifier : Identifier → String
  | .top k n =>
    record "Identifier" [("kind", kind k), ("name", Text.quote n), ("parent", option none)]
  | .child p k n =>
    record "Identifier"
      [("kind", kind k), ("name", Text.quote n), ("parent", option (some (identifier p)))]

mutual

def resolvedPath : ResolvedPath → String
  | .identifier id => call "Identifier" [identifier id]
  | .dot p k n =>
    record "Dot" [("parent", resolvedPath p), ("kind", kind k), ("name", Text.quote n)]
  | .apply f a => record "Apply" [("functor", resolvedPath f), ("argument", path a)]

def path : Path → String
  | .resolved p => call "Resolved" [resolvedPath p]
  | .root n => call "Root" [Text.quote n]
  | .forward n => call "Forward" [Text.quote n]
  | .dot p n => call "Dot" [path p, Text.quote n]
  | .apply f a => call "Apply" [path f, path a]

end

def resolvedFragment : ResolvedFragment → String
  | .top k n =>
    record "ResolvedFragment" [("kind", kind k), ("name", Text.quote n), ("parent", option none)]
  | .child p k n =>
    record "ResolvedFragment"
      [("kind", kind k), ("name", Text.quote n), ("parent", option (some (resolvedFragment p)))]

def fragment : Fragment → String
  | .resolved f => call "Resolved" [resolvedFragment f]
  | .root => "Root"
  | .dot p n => call "Dot" [fragment p, Text.quote n]

/-! ## Documentation -/

mutual

def inline : Inline → String
  | .text s => call "Text" [Text.quote s]
  | .code s => call "Code" [Text.quote s]
  | .emphasis xs => call "Emphasis" [list (inlines xs)]
  | .bold xs => call "Bold" [list (inlines xs)]
  | .link t xs => record "Link" [("target", Text.quote t), ("content", list (inlines xs))]
  | .reference t xs =>
    record "Reference" [("target", identifier t), ("content", list (inlines xs))]

def inlines : List Inline → List String
  | [] => []
  | x :: xs => inline x :: inlines xs

end

def tag : Tag → String
  | .open => "Open"
  | .closed => "Closed"
  | .inline => "Inline"
  | .author s => call "Author" [Text.quote s]
  | .deprecated xs => call "Deprecated" [list (inlines xs)]
  | .since s => call "Since" [Text.quote s]
  | .version s => call "Version" [Text.quote s]
  | .return xs => call "Return" [list (inlines xs)]

mutual

def block : Block → String
  | .paragraph xs => call "Paragraph" [list (inlines xs)]
  | .heading level label text =>
    record "Heading"
      [("level", toString level.toNat), ("label", option (label.map Text.quote)),
        ("text", list (inlines text))]
  | .codeBlock s => call "CodeBlock" [Text.quote s]
  | .verbatim s => call "Verbatim" [Text.quote s]
  | .list ordered items =>
    record "List" [("ordered", flag ordered), ("items", list (blockItems items))]
  | .tag t => call "Tag" [tag t]

def blocks : List Block → List String
  | [] => []
  | b :: bs => block b :: blocks bs

def blockItems : List (List Block) → List String
  | [] => []
  | bs :: items => list (blocks bs) :: blockItems items

end

def docs (ds : Docs) : String := call "Docs" [list (blocks ds)]

/-! ## Types -/

def label : Label → String
  | .label n => call "Label" [Text.quote n]
  | .optional n => call "Optional" [Text.quote n]

def variantKind : VariantKind → String
  | .fixed => "Fixed"
  | .open => "Open"
  | .closed tags => call "Closed" [list (tags.map Text.quote)]

mutual

def typeExpr : TypeExpr → String
  | .var n => call "Var" [Text.quote n]
  | .any => "Any"
  | .alias t n => call "Alias" [typeExpr t, Text.quote n]
  | .arrow l a b => call "Arrow" [option (l.map label), typeExpr a, typeExpr b]
  | .tuple ts => call "Tuple" [list (typeExprs ts)]
  | .constr p ts => call "Constr" [path p, list (typeExprs ts)]
  | .variant k es =>
    call "PolymorphicVariant"
      [record "PolymorphicVariant" [("kind", variantKind k), ("elements", list (elements es))]]
  | .object fs isOpen =>
    call "Object" [record "Object" [("fields", list (objectFields fs)), ("open", flag isOpen)]]
  | .class p ts => call "Class" [path p, list (typeExprs ts)]
  | .poly vs t => call "Poly" [list (vs.map Text.quote), typeExpr t]
  | .package p ss =>
    call "Package"
      [record "Package" [("path", path p), ("substitutions", list (substitutions ss))]]

def typeExprs : List TypeExpr → List String
  | [] => []
  | t :: ts => typeExpr t :: typeExprs ts

def substitutions : List (Fragment × TypeExpr) → List String
  | [] => []
  | (f, t) :: ss => pair (fragment f) (typeExpr t) :: substitutions ss

def elements : List VariantElement → List String
  | [] => []
  | .inherit t :: es => call "Type" [typeExpr t] :: elements es
  | .tag n ts doc :: es =>
    record "Constructor"
      [("name", Text.quote n), ("arguments", list (typeExprs ts)), ("doc", docs doc)] ::
      elements es

def objectFields : List ObjectField → List String
  | [] => []
  | .method n t :: fs =>
    record "Method" [("name", Text.quote n), ("type_", typeExpr t)] :: objectFields fs
  | .inherit t :: fs => call "Inherit" [typeExpr t] :: objectFields fs

end

end Describe

/-- The full structure of a type. -/
def TypeExpr.description (t : TypeExpr) : String := Describe.typeExpr t

end DocSite
