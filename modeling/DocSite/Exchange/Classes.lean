import DocSite.Exchange.Types
import DocSite.Interface.Class

/-!
# The data of classes
-/

namespace DocSite.Exchange

instance : Exchanged Method where
  slot := Format.method
  toDatum := fun m =>
    .list [toDatum m.id, toDatum m.doc, toDatum m.isPrivate, toDatum m.isVirtual, toDatum m.type]
  ofDatum? := fun
    | .list [i, d, p, v, t] => do
      return ⟨← ofDatum? i, ← ofDatum? d, ← ofDatum? p, ← ofDatum? v, ← ofDatum? t⟩
    | _ => none

instance : Exchanged InstanceVariable where
  slot := Format.instanceVariable
  toDatum := fun x =>
    .list [toDatum x.id, toDatum x.doc, toDatum x.isMutable, toDatum x.isVirtual, toDatum x.type]
  ofDatum? := fun
    | .list [i, d, m, v, t] => do
      return ⟨← ofDatum? i, ← ofDatum? d, ← ofDatum? m, ← ofDatum? v, ← ofDatum? t⟩
    | _ => none

/-! ## Class types -/

mutual

def ClassTypeExpr.toDatum : ClassTypeExpr → Datum
  | .constr p ts => .variant "constr" (.list [Exchanged.toDatum p, Exchanged.toDatum ts])
  | .signature self items =>
    .variant "signature" (.list [Exchanged.toDatum self, .list (ClassItem.toData items)])

def ClassItem.toDatum : ClassItem → Datum
  | .method m => .variant "method" (Exchanged.toDatum m)
  | .instanceVariable v => .variant "instance_variable" (Exchanged.toDatum v)
  | .constraint a b =>
    .variant "constraint" (.list [Exchanged.toDatum a, Exchanged.toDatum b])
  | .inherit e => .variant "inherit" (ClassTypeExpr.toDatum e)
  | .comment c => .variant "comment" (Exchanged.toDatum c)

def ClassItem.toData : List ClassItem → List Datum
  | [] => []
  | i :: is => ClassItem.toDatum i :: ClassItem.toData is

end

mutual

def ClassTypeExpr.ofDatum? : Datum → Option ClassTypeExpr
  | .variant "constr" (.list [p, ts]) => do
    return .constr (← Exchanged.ofDatum? p) (← Exchanged.ofDatum? ts)
  | .variant "signature" (.list [self, .list items]) => do
    return .signature (← Exchanged.ofDatum? self) (← ClassItem.ofData? items)
  | _ => none

def ClassItem.ofDatum? : Datum → Option ClassItem
  | .variant "method" d => (Exchanged.ofDatum? d).map .method
  | .variant "instance_variable" d => (Exchanged.ofDatum? d).map .instanceVariable
  | .variant "constraint" (.list [a, b]) => do
    return .constraint (← Exchanged.ofDatum? a) (← Exchanged.ofDatum? b)
  | .variant "inherit" d => (ClassTypeExpr.ofDatum? d).map .inherit
  | .variant "comment" d => (Exchanged.ofDatum? d).map .comment
  | _ => none

def ClassItem.ofData? : List Datum → Option (List ClassItem)
  | [] => some []
  | d :: ds => do return (← ClassItem.ofDatum? d) :: (← ClassItem.ofData? ds)

end

instance : Exchanged ClassTypeExpr :=
  ⟨.ref .classTypeExpr, ClassTypeExpr.toDatum, ClassTypeExpr.ofDatum?⟩

instance : Exchanged ClassItem := ⟨.ref .classItem, ClassItem.toDatum, ClassItem.ofDatum?⟩

instance : Exchanged ClassSignature where
  slot := Format.classSignature
  toDatum := fun s => .list [toDatum s.self, toDatum s.items]
  ofDatum? := fun
    | .list [self, items] => do return ⟨← ofDatum? self, ← ofDatum? items⟩
    | _ => none

/-! ## Classes -/

namespace ClassDecl

def toDatum : ClassDecl → Datum
  | .classType t => .variant "class_type" (Exchanged.toDatum t)
  | .arrow l a d =>
    .variant "arrow" (.list [Exchanged.toDatum l, Exchanged.toDatum a, toDatum d])

def ofDatum? : Datum → Option ClassDecl
  | .variant "class_type" d => (Exchanged.ofDatum? d).map .classType
  | .variant "arrow" (.list [l, a, d]) => do
    return .arrow (← Exchanged.ofDatum? l) (← Exchanged.ofDatum? a) (← ofDatum? d)
  | _ => none

end ClassDecl

instance : Exchanged ClassDecl := ⟨.ref .classDecl, ClassDecl.toDatum, ClassDecl.ofDatum?⟩

instance : Exchanged Class where
  slot := Format.classDefinition
  toDatum := fun c =>
    .list [toDatum c.id, toDatum c.doc, toDatum c.isVirtual, toDatum c.parameters,
      toDatum c.type, toDatum c.expansion]
  ofDatum? := fun
    | .list [i, d, v, ps, t, e] => do
      return ⟨← ofDatum? i, ← ofDatum? d, ← ofDatum? v, ← ofDatum? ps, ← ofDatum? t,
        ← ofDatum? e⟩
    | _ => none

instance : Exchanged ClassType where
  slot := Format.classType
  toDatum := fun c =>
    .list [toDatum c.id, toDatum c.doc, toDatum c.isVirtual, toDatum c.parameters,
      toDatum c.expr, toDatum c.expansion]
  ofDatum? := fun
    | .list [i, d, v, ps, t, e] => do
      return ⟨← ofDatum? i, ← ofDatum? d, ← ofDatum? v, ← ofDatum? ps, ← ofDatum? t,
        ← ofDatum? e⟩
    | _ => none

end DocSite.Exchange
