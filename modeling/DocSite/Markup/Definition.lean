import DocSite.Markup.Node

/-!
# Definitions

The definition of a type mixes running code with tables of constructors and fields.  It is put
together from parts: tokens of code and whole blocks.  `Definition.layout` collects the tokens that
stand between two blocks into one piece of code, and makes none where there are no tokens.
-/

namespace DocSite

namespace Definition

inductive Part where
  | inline (tokens : Markup)
  | block (node : Node)

/-- One piece of code for the tokens collected, if there are any. -/
def codeOf : Markup → Markup
  | [] => []
  | tokens => [.code tokens]

/-- The layout of the parts that follow the tokens `pending`. -/
def layoutFrom (pending : Markup) : List Part → Markup
  | [] => codeOf pending
  | .inline tokens :: parts => layoutFrom (pending ++ tokens) parts
  | .block node :: parts => codeOf pending ++ node :: layoutFrom [] parts

def layout (parts : List Part) : Markup := layoutFrom [] parts

end Definition

end DocSite
