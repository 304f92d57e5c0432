import DocSite.Site.Page

/-!
# Page scopes

While a page is being built, it and the pages around it are open.  The open pages are a stack: a
page is entered, what belongs on it is rendered, and then it is left again.  Entering gives out a
token, and only the token of the innermost page can be used to leave; a token that does not fit
is refused and the stack stays as it is.
-/

namespace DocSite

/-- A page being built. -/
structure Scope where
  kind : PageKind
  segment : String
  deriving DecidableEq

/-- What is needed to leave a page: how many pages were open with it, and its segment. -/
structure ScopeToken where
  depth : Nat
  segment : String
  deriving DecidableEq

/-- The pages being built, innermost first. -/
structure Scopes where
  stack : List Scope := []
  deriving DecidableEq

/-- What went wrong with the pages being built. -/
inductive ScopeError where
  | unbalanced (token : ScopeToken) (depth : Nat)
  | outside
  deriving DecidableEq

namespace ScopeError

def message : ScopeError → String
  | unbalanced token depth =>
    "unbalanced page scope `" ++ token.segment ++ "` at depth " ++ toString token.depth ++
      " (stack depth " ++ toString depth ++ ")"
  | outside => "page made outside any scope"

end ScopeError

namespace Scopes

def depth (s : Scopes) : Nat := s.stack.length

/-- The path of the innermost page. -/
def path (s : Scopes) : PagePath := (s.stack.map Scope.segment).reverse

/-- The path as messages show it. -/
def address (s : Scopes) : String := "/".intercalate s.path

/-- Opens a page inside the innermost one. -/
def enter (s : Scopes) (kind : PageKind) (name : String) : ScopeToken × Scopes :=
  let segment := kind.segment name
  (⟨s.depth + 1, segment⟩, ⟨⟨kind, segment⟩ :: s.stack⟩)

/-- Closes the innermost page, if the token is its token. -/
def leave (s : Scopes) (token : ScopeToken) : Except ScopeError Scopes :=
  match s.stack with
  | top :: rest =>
    if s.depth = token.depth ∧ top.segment = token.segment then .ok ⟨rest⟩
    else .error (.unbalanced token s.depth)
  | [] => .error (.unbalanced token s.depth)

/-- The innermost page, with its content. -/
def build (s : Scopes) (title : String) (header : Markup) (toc : List ContentsEntry) (body : Markup)
    (children : List Page) : Except ScopeError Page :=
  match s.stack with
  | top :: _ => .ok ⟨top.segment, top.kind, s.path, title, header, toc, body, children⟩
  | [] => .error .outside

end Scopes

end DocSite
