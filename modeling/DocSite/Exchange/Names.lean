import DocSite.Exchange.Format
import DocSite.Interface.Path

/-!
# The data of names and paths
-/

namespace DocSite.Exchange

/-! ## Kinds -/

instance : Exchanged Kind where
  slot := Format.kind
  toDatum := fun
    | .root => .variant "root" .null
    | .page => .variant "page" .null
    | .module => .variant "module" .null
    | .argument position => .variant "argument" (.list [.number position.toNat])
    | .moduleType => .variant "module_type" .null
    | .type => .variant "type" .null
    | .coreType => .variant "core_type" .null
    | .constructor => .variant "constructor" .null
    | .field => .variant "field" .null
    | .extension => .variant "extension" .null
    | .exception => .variant "exception" .null
    | .coreException => .variant "core_exception" .null
    | .value => .variant "value" .null
    | .class => .variant "class" .null
    | .classType => .variant "class_type" .null
    | .method => .variant "method" .null
    | .instanceVariable => .variant "instance_variable" .null
  ofDatum? := fun
    | .variant "root" _ => some .root
    | .variant "page" _ => some .page
    | .variant "module" _ => some .module
    | .variant "argument" (.list [.number n]) => some (.argument (UInt64.ofNat n))
    | .variant "module_type" _ => some .moduleType
    | .variant "type" _ => some .type
    | .variant "core_type" _ => some .coreType
    | .variant "constructor" _ => some .constructor
    | .variant "field" _ => some .field
    | .variant "extension" _ => some .extension
    | .variant "exception" _ => some .exception
    | .variant "core_exception" _ => some .coreException
    | .variant "value" _ => some .value
    | .variant "class" _ => some .class
    | .variant "class_type" _ => some .classType
    | .variant "method" _ => some .method
    | .variant "instance_variable" _ => some .instanceVariable
    | _ => none

/-! ## Identifiers -/

namespace Identifier

def toDatum : Identifier → Datum
  | .top k n => .list [Exchanged.toDatum k, .text n, .null]
  | .child p k n => .list [Exchanged.toDatum k, .text n, toDatum p]

def ofDatum? : Datum → Option Identifier
  | .list [k, .text n, .null] => do return .top (← Exchanged.ofDatum? k) n
  | .list [k, .text n, p] => do return .child (← ofDatum? p) (← Exchanged.ofDatum? k) n
  | _ => none

end Identifier

instance : Exchanged Identifier := ⟨.ref .identifier, Identifier.toDatum, Identifier.ofDatum?⟩

/-! ## Paths -/

mutual

def ResolvedPath.toDatum : ResolvedPath → Datum
  | .identifier id => .variant "identifier" (Exchanged.toDatum id)
  | .dot p k n =>
    .variant "dot" (.list [ResolvedPath.toDatum p, Exchanged.toDatum k, .text n])
  | .apply f a => .variant "apply" (.list [ResolvedPath.toDatum f, Path.toDatum a])

def Path.toDatum : Path → Datum
  | .resolved p => .variant "resolved" (ResolvedPath.toDatum p)
  | .root n => .variant "root" (.text n)
  | .forward n => .variant "forward" (.text n)
  | .dot p n => .variant "dot" (.list [Path.toDatum p, .text n])
  | .apply f a => .variant "apply" (.list [Path.toDatum f, Path.toDatum a])

end

mutual

def ResolvedPath.ofDatum? : Datum → Option ResolvedPath
  | .variant "identifier" d => (Exchanged.ofDatum? d).map .identifier
  | .variant "dot" (.list [p, k, .text n]) => do
    return .dot (← ResolvedPath.ofDatum? p) (← Exchanged.ofDatum? k) n
  | .variant "apply" (.list [f, a]) => do
    return .apply (← ResolvedPath.ofDatum? f) (← Path.ofDatum? a)
  | _ => none

def Path.ofDatum? : Datum → Option Path
  | .variant "resolved" d => (ResolvedPath.ofDatum? d).map .resolved
  | .variant "root" (.text n) => some (.root n)
  | .variant "forward" (.text n) => some (.forward n)
  | .variant "dot" (.list [p, .text n]) => do return .dot (← Path.ofDatum? p) n
  | .variant "apply" (.list [f, a]) => do return .apply (← Path.ofDatum? f) (← Path.ofDatum? a)
  | _ => none

end

instance : Exchanged ResolvedPath :=
  ⟨.ref .resolvedPath, ResolvedPath.toDatum, ResolvedPath.ofDatum?⟩

instance : Exchanged Path := ⟨.ref .path, Path.toDatum, Path.ofDatum?⟩

/-! ## Fragments -/

namespace ResolvedFragment

def toDatum : ResolvedFragment → Datum
  | .top k n => .list [Exchanged.toDatum k, .text n, .null]
  | .child p k n => .list [Exchanged.toDatum k, .text n, toDatum p]

def ofDatum? : Datum → Option ResolvedFragment
  | .list [k, .text n, .null] => do return .top (← Exchanged.ofDatum? k) n
  | .list [k, .text n, p] => do return .child (← ofDatum? p) (← Exchanged.ofDatum? k) n
  | _ => none

end ResolvedFragment

instance : Exchanged ResolvedFragment :=
  ⟨.ref .resolvedFragment, ResolvedFragment.toDatum, ResolvedFragment.ofDatum?⟩

namespace Fragment

def toDatum : Fragment → Datum
  | .resolved f => .variant "resolved" (Exchanged.toDatum f)
  | .root => .variant "root" .null
  | .dot p n => .variant "dot" (.list [toDatum p, .text n])

def ofDatum? : Datum → Option Fragment
  | .variant "resolved" d => (Exchanged.ofDatum? d).map .resolved
  | .variant "root" _ => some .root
  | .variant "dot" (.list [p, .text n]) => do return .dot (← ofDatum? p) n
  | _ => none

end Fragment

instance : Exchanged Fragment := ⟨.ref .fragment, Fragment.toDatum, Fragment.ofDatum?⟩

end DocSite.Exchange
