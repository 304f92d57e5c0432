import DocSite.Interface.Signature

/-!
# Roots

What one interface file holds: a compilation unit or a page of documentation.  The identifier of a
unit is to be of kind `root` and that of a page of kind `page`; `Root.check` is that rule.
-/

namespace DocSite

/-- One module of a pack, by the path it is found under. -/
structure PackedModule where
  id : Identifier
  path : Path

inductive UnitContent where
  | «module» (items : Signature)
  | pack (modules : List PackedModule)

structure CompilationUnit where
  id : Identifier
  doc : Docs := []
  content : UnitContent

structure DocPage where
  id : Identifier
  content : Docs

inductive Root where
  | unit (unit : CompilationUnit)
  | page (page : DocPage)

namespace Root

def id : Root → Identifier
  | unit u => u.id
  | page p => p.id

/-- The kind that the identifier of such a root must have. -/
def expectedKind : Root → Kind
  | unit _ => .root
  | page _ => .page

/-- A root whose identifier is of another kind than its content. -/
structure KindMismatch where
  expected : Kind
  id : Identifier

namespace KindMismatch

def message (m : KindMismatch) : String :=
  "expected a " ++ m.expected.label ++ " identifier for `" ++ m.id.name ++ "`, found a " ++
    m.id.kind.label

end KindMismatch

/-- A root passes if its identifier is of the kind that its content calls for. -/
def check (r : Root) : Except KindMismatch Root :=
  if r.id.kind = r.expectedKind then .ok r else .error ⟨r.expectedKind, r.id⟩

end Root

end DocSite
