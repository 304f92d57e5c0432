import DocSite.Interface.Declaration
import DocSite.Render.Noted

/-!
# Types on a page

The text of type expressions.  Whether a type is put in parentheses is decided from above: each type
is told whether it stands where only a simple type may stand, and aliases, arrows and tuples then
enclose themselves.
-/

namespace DocSite

namespace TypeText

/-- The brackets around several arguments: round ones for types, square ones for classes. -/
inductive Brackets where
  | round
  | square
  deriving DecidableEq

namespace Brackets

def opening : Brackets → String
  | round => "("
  | square => "["

def closing : Brackets → String
  | round => ")"
  | square => "]"

end Brackets

/-- The blank that keeps what it divides on one line. -/
def fixedBlank : String := "\u00a0"

/-- A type variable. -/
def typeVar (name : String) : String := "'" ++ name

/-- A type that stands where it may have to be enclosed. -/
def enclose (parens : Bool) (inner : Markup) : Markup :=
  if parens then Markup.inParentheses inner else inner

/-- The name of a function argument. -/
def label : Option Label → Markup
  | some (.label n) => [.text (n ++ ":")]
  | some (.optional n) => [.text ("?" ++ n ++ ":")]
  | none => []

/-- A path applied to arguments: a single one stands bare before the path, several are listed in
brackets. -/
def application (brackets : Brackets) (arguments : List Markup) (path : Markup) : Markup :=
  match arguments with
  | [] => path
  | [a] => a ++ .text " " :: path
  | several =>
    .text brackets.opening :: Markup.join [.text ("," ++ fixedBlank)] several ++
      .text (brackets.closing ++ fixedBlank) :: path

/-- Whether the arguments of an application have to be simple types. -/
def simpleArguments (arguments : List TypeExpr) : Bool := arguments.length == 1

/-- The arguments of a constructor or tag, divided as in a product. -/
def product (parts : List Markup) : Markup := Markup.join [.text " * "] parts

/-- A tag and its arguments. -/
def tag (name : String) (arguments : List Markup) : Markup :=
  .text ("`" ++ name) ::
    if arguments.isEmpty then [] else .text " " :: .keyword "of" :: .text " " :: product arguments

/-- What opens and closes a polymorphic variant. -/
def variantBrackets : VariantKind → String × String
  | .fixed => ("[ ", " ]")
  | .open => ("[> ", " ]")
  | .closed [] => ("[< ", " ]")
  | .closed tags => ("[< ", " > " ++ " ".intercalate (tags.map ("`" ++ ·)) ++ " ]")

/-- An object type.  The type without methods is written without a gap, and an open one ends in
two points. -/
def object (fields : List Markup) (isOpen : Bool) : Markup :=
  if fields.isEmpty && !isOpen then [.text "<>"]
  else
    .text "< " :: Markup.join [.text "; "] fields ++
      (if isOpen then [.text (if fields.isEmpty then ".." else "; ..")] else []) ++ [.text " >"]

end TypeText

open TypeText

mutual

/-- A type expression; with `parens` it stands where only a simple type may stand. -/
def TypeExpr.render (here : Here) (parens : Bool) : TypeExpr → Noted Markup
  | .var n => pure [.text (typeVar n)]
  | .any => pure [.text "_"]
  | .alias t n => do
    let inner ← t.render here true
    return enclose parens (inner ++ [.keyword " as ", .text (typeVar n)])
  | .arrow l a b => do
    let source ← a.render here true
    let target ← b.render here false
    return enclose parens
      (label l ++ source ++ [.text " ", Markup.arrow, .text " "] ++ target)
  | .tuple ts => do return enclose parens (product (← TypeExpr.renderAll here true ts))
  | .constr p ts => do
    let path ← here.path false p
    return application .round (← TypeExpr.renderAll here (simpleArguments ts) ts) path
  | .variant k es => do
    let parts ← VariantElement.renderAll here es
    let (opening, closing) := variantBrackets k
    return .text opening :: Markup.join [.text " | "] parts ++ [.text closing]
  | .object fs isOpen => do return TypeText.object (← ObjectField.renderAll here fs) isOpen
  | .class p ts => do
    let path ← here.path false p
    return application .square (← TypeExpr.renderAll here (simpleArguments ts) ts)
      (.text "#" :: path)
  | .poly vs t => do
    let body ← t.render here false
    return .text (" ".intercalate (vs.map typeVar) ++ ". ") :: body
  | .package p ss => do
    let path ← here.path false p
    let constraints ← TypeExpr.renderSubstitutions here p.target? ss
    return [.text "(", .keyword "module", .text " "] ++ path ++
      (if constraints.isEmpty then []
        else [.text " ", .keyword "with", .text " "] ++
          Markup.join [.keyword " and "] constraints) ++
      [.text ")"]

/-- Several types, all with the same need of parentheses. -/
def TypeExpr.renderAll (here : Here) (parens : Bool) : List TypeExpr → Noted (List Markup)
  | [] => pure []
  | t :: ts => do return (← t.render here parens) :: (← TypeExpr.renderAll here parens ts)

/-- The constraints of a package, on components of `base` if that is known. -/
def TypeExpr.renderSubstitutions (here : Here) (base : Option Identifier) :
    List (Fragment × TypeExpr) → Noted (List Markup)
  | [] => pure []
  | (f, t) :: ss => do
    let name ← here.fragmentOrText base f
    let type ← t.render here false
    let rest ← TypeExpr.renderSubstitutions here base ss
    return ([.keyword "type", .text " "] ++ name ++ .text " = " :: type) :: rest

/-- The elements of a polymorphic variant written on one line. -/
def VariantElement.renderAll (here : Here) : List VariantElement → Noted (List Markup)
  | [] => pure []
  | .inherit t :: es => do return (← t.render here false) :: (← VariantElement.renderAll here es)
  | .tag n ts _ :: es => do
    let arguments ← TypeExpr.renderAll here true ts
    return tag n arguments :: (← VariantElement.renderAll here es)

def ObjectField.renderAll (here : Here) : List ObjectField → Noted (List Markup)
  | [] => pure []
  | .method n t :: fs => do
    let type ← t.render here false
    return (.text (n ++ " : ") :: type) :: (← ObjectField.renderAll here fs)
  | .inherit t :: fs => do return (← t.render here false) :: (← ObjectField.renderAll here fs)

end

/-- The constraints of a declaration, each led by its keyword. -/
def TypeEquation.renderConstraints (here : Here) :
    List (TypeExpr × TypeExpr) → Noted Markup
  | [] => pure []
  | (a, b) :: rest => do
    let left ← a.render here false
    let right ← b.render here false
    return [.text " ", .keyword "constraint", .text " "] ++ left ++ .text " = " :: right ++
      (← TypeEquation.renderConstraints here rest)

/-! ## Parameters -/

/-- A parameter with its variance. -/
def TypeParameter.text (p : TypeParameter) : String :=
  let name :=
    match p.name with
    | .any => "_"
    | .var n => typeVar n
  match p.variance with
  | none => name
  | some .positive => "+" ++ name
  | some .negative => "-" ++ name

/-- The parameters of a declaration, with the blank that follows them.  A single parameter of a type
stands bare; those of a class always have their brackets. -/
def TypeParameter.list (brackets : Brackets) : List TypeParameter → String
  | [] => ""
  | [p] =>
    match brackets with
    | .round => p.text ++ " "
    | .square => "[" ++ p.text ++ "]" ++ fixedBlank
  | ps =>
    brackets.opening ++ ", ".intercalate (ps.map TypeParameter.text) ++ brackets.closing ++
      fixedBlank

end DocSite
