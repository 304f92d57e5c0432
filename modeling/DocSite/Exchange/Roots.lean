import DocSite.Exchange.Signatures
import DocSite.Interface.Root
import DocSite.Json.Printer
import DocSite.Json.Reader

/-!
# Interface files

A file holds one root.  Reading it can fail in two ways: the text is not the text of any root, or it
is, but the identifier is of the wrong kind.
-/

namespace DocSite.Exchange

instance : Exchanged PackedModule where
  slot := Format.packedModule
  toDatum := fun p => .list [toDatum p.id, toDatum p.path]
  ofDatum? := fun
    | .list [i, p] => do return ⟨← ofDatum? i, ← ofDatum? p⟩
    | _ => none

instance : Exchanged UnitContent where
  slot := Format.unitContent
  toDatum := fun
    | .module items => .variant "module" (toDatum items)
    | .pack ms => .variant "pack" (toDatum ms)
  ofDatum? := fun
    | .variant "module" d => (ofDatum? d).map .module
    | .variant "pack" d => (ofDatum? d).map .pack
    | _ => none

instance : Exchanged CompilationUnit where
  slot := Format.compilationUnit
  toDatum := fun u => .list [toDatum u.id, toDatum u.doc, toDatum u.content]
  ofDatum? := fun
    | .list [i, d, c] => do return ⟨← ofDatum? i, ← ofDatum? d, ← ofDatum? c⟩
    | _ => none

instance : Exchanged DocPage where
  slot := Format.docPage
  toDatum := fun p => .list [toDatum p.id, toDatum p.content]
  ofDatum? := fun
    | .list [i, c] => do return ⟨← ofDatum? i, ← ofDatum? c⟩
    | _ => none

instance : Exchanged Root where
  slot := Format.root
  toDatum := fun
    | .unit u => .variant "unit" (toDatum u)
    | .page p => .variant "page" (toDatum p)
  ofDatum? := fun
    | .variant "unit" d => (ofDatum? d).map .unit
    | .variant "page" d => (ofDatum? d).map .page
    | _ => none

end DocSite.Exchange

namespace DocSite.Root

/-- Why a file holds no usable root. -/
inductive LoadError where
  | malformed
  | wrongKind (mismatch : KindMismatch)

/-- The root that a text holds. -/
def load (text : String) : Except LoadError Root :=
  match ((Json.parse text).bind Exchange.decode : Option Root) with
  | none => .error .malformed
  | some r => r.check.mapError .wrongKind

/-- The text of a file that holds a root. -/
def save (r : Root) : String := (Exchange.encode r).print

end DocSite.Root
