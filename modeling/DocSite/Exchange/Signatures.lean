import DocSite.Exchange.Classes
import DocSite.Interface.Signature

/-!
# The data of signatures
-/

namespace DocSite.Exchange

instance : Exchanged Recursion where
  slot := Format.recursion
  toDatum := fun
    | .ordinary => .variant "ordinary" .null
    | .recursive => .variant "rec" .null
    | .and => .variant "and" .null
    | .nonrecursive => .variant "nonrec" .null
  ofDatum? := fun
    | .variant "ordinary" _ => some .ordinary
    | .variant "rec" _ => some .recursive
    | .variant "and" _ => some .and
    | .variant "nonrec" _ => some .nonrecursive
    | _ => none

/-! ## Writing -/

mutual

def ModuleDecl.toDatum : ModuleDecl → Datum
  | .alias p => .variant "alias" (Exchanged.toDatum p)
  | .moduleType t => .variant "module_type" (ModuleTypeExpr.toDatum t)

def FunctorParameter.toDatum : FunctorParameter → Datum
  | .unit => .null
  | .named id t e =>
    .list [Exchanged.toDatum id, ModuleTypeExpr.toDatum t, ModuleExpansion.toDatum e]

def FunctorParameter.toData : List FunctorParameter → List Datum
  | [] => []
  | p :: ps => FunctorParameter.toDatum p :: FunctorParameter.toData ps

/-- An expansion, wherever it stands, may be missing. -/
def ModuleExpansion.toDatum : Option ModuleExpansion → Datum
  | none => .null
  | some .asDeclared => .variant "already_a_sig" .null
  | some (.signature items) => .variant "signature" (.list (SignatureItem.toData items))
  | some (.functor ps items) =>
    .variant "functor"
      (.list [.list (FunctorParameter.toData ps), .list (SignatureItem.toData items)])

def Substitution.toDatum : Substitution → Datum
  | .moduleEq f d => .variant "module_eq" (.list [Exchanged.toDatum f, ModuleDecl.toDatum d])
  | .typeEq f e => .variant "type_eq" (.list [Exchanged.toDatum f, Exchanged.toDatum e])
  | .moduleSubst f p => .variant "module_subst" (.list [Exchanged.toDatum f, Exchanged.toDatum p])
  | .typeSubst f e => .variant "type_subst" (.list [Exchanged.toDatum f, Exchanged.toDatum e])

def Substitution.toData : List Substitution → List Datum
  | [] => []
  | s :: ss => Substitution.toDatum s :: Substitution.toData ss

def ModuleTypeExpr.toDatum : ModuleTypeExpr → Datum
  | .path p => .variant "path" (Exchanged.toDatum p)
  | .signature items => .variant "signature" (.list (SignatureItem.toData items))
  | .functor p t =>
    .variant "functor" (.list [FunctorParameter.toDatum p, ModuleTypeExpr.toDatum t])
  | .constrained t ss =>
    .variant "with" (.list [ModuleTypeExpr.toDatum t, .list (Substitution.toData ss)])
  | .typeOf d => .variant "type_of" (ModuleDecl.toDatum d)

def ModuleTypeExpr.optionToDatum : Option ModuleTypeExpr → Datum
  | none => .null
  | some t => ModuleTypeExpr.toDatum t

def SignatureItem.toDatum : SignatureItem → Datum
  | .module r id doc d e =>
    .variant "module"
      (.list [Exchanged.toDatum r,
        .list [Exchanged.toDatum id, Exchanged.toDatum doc, ModuleDecl.toDatum d,
          ModuleExpansion.toDatum e]])
  | .moduleType id doc t e =>
    .variant "module_type"
      (.list [Exchanged.toDatum id, Exchanged.toDatum doc, ModuleTypeExpr.optionToDatum t,
        ModuleExpansion.toDatum e])
  | .moduleSubstitution id doc p =>
    .variant "module_substitution"
      (.list [Exchanged.toDatum id, Exchanged.toDatum doc, Exchanged.toDatum p])
  | .type r t => .variant "type" (.list [Exchanged.toDatum r, Exchanged.toDatum t])
  | .typeSubstitution t => .variant "type_substitution" (Exchanged.toDatum t)
  | .extension e => .variant "type_extension" (Exchanged.toDatum e)
  | .exception e => .variant "exception" (Exchanged.toDatum e)
  | .value v => .variant "value" (Exchanged.toDatum v)
  | .external e => .variant "external" (Exchanged.toDatum e)
  | .class r c => .variant "class" (.list [Exchanged.toDatum r, Exchanged.toDatum c])
  | .classType r c => .variant "class_type" (.list [Exchanged.toDatum r, Exchanged.toDatum c])
  | .include p doc d items =>
    .variant "include"
      (.list [Exchanged.toDatum p, Exchanged.toDatum doc, ModuleDecl.toDatum d,
        .list (SignatureItem.toData items)])
  | .comment c => .variant "comment" (Exchanged.toDatum c)

def SignatureItem.toData : List SignatureItem → List Datum
  | [] => []
  | i :: is => SignatureItem.toDatum i :: SignatureItem.toData is

end

/-! ## Reading -/

mutual

def ModuleDecl.ofDatum? : Datum → Option ModuleDecl
  | .variant "alias" d => (Exchanged.ofDatum? d).map .alias
  | .variant "module_type" d => (ModuleTypeExpr.ofDatum? d).map .moduleType
  | _ => none

def FunctorParameter.ofDatum? : Datum → Option FunctorParameter
  | .null => some .unit
  | .list [id, t, e] => do
    return .named (← Exchanged.ofDatum? id) (← ModuleTypeExpr.ofDatum? t)
      (← ModuleExpansion.ofDatum? e)
  | _ => none

def FunctorParameter.ofData? : List Datum → Option (List FunctorParameter)
  | [] => some []
  | d :: ds => do return (← FunctorParameter.ofDatum? d) :: (← FunctorParameter.ofData? ds)

/-- An expansion, wherever it stands, may be missing. -/
def ModuleExpansion.ofDatum? : Datum → Option (Option ModuleExpansion)
  | .null => some none
  | .variant "already_a_sig" _ => some (some .asDeclared)
  | .variant "signature" (.list items) => do
    return some (.signature (← SignatureItem.ofData? items))
  | .variant "functor" (.list [.list ps, .list items]) => do
    return some (.functor (← FunctorParameter.ofData? ps) (← SignatureItem.ofData? items))
  | _ => none

def Substitution.ofDatum? : Datum → Option Substitution
  | .variant "module_eq" (.list [f, d]) => do
    return .moduleEq (← Exchanged.ofDatum? f) (← ModuleDecl.ofDatum? d)
  | .variant "type_eq" (.list [f, e]) => do
    return .typeEq (← Exchanged.ofDatum? f) (← Exchanged.ofDatum? e)
  | .variant "module_subst" (.list [f, p]) => do
    return .moduleSubst (← Exchanged.ofDatum? f) (← Exchanged.ofDatum? p)
  | .variant "type_subst" (.list [f, e]) => do
    return .typeSubst (← Exchanged.ofDatum? f) (← Exchanged.ofDatum? e)
  | _ => none

def Substitution.ofData? : List Datum → Option (List Substitution)
  | [] => some []
  | d :: ds => do return (← Substitution.ofDatum? d) :: (← Substitution.ofData? ds)

def ModuleTypeExpr.ofDatum? : Datum → Option ModuleTypeExpr
  | .variant "path" d => (Exchanged.ofDatum? d).map .path
  | .variant "signature" (.list items) => (SignatureItem.ofData? items).map .signature
  | .variant "functor" (.list [p, t]) => do
    return .functor (← FunctorParameter.ofDatum? p) (← ModuleTypeExpr.ofDatum? t)
  | .variant "with" (.list [t, .list ss]) => do
    return .constrained (← ModuleTypeExpr.ofDatum? t) (← Substitution.ofData? ss)
  | .variant "type_of" d => (ModuleDecl.ofDatum? d).map .typeOf
  | _ => none

def SignatureItem.ofDatum? : Datum → Option SignatureItem
  | .variant "module" (.list [r, .list [id, doc, d, e]]) => do
    return .module (← Exchanged.ofDatum? r) (← Exchanged.ofDatum? id) (← Exchanged.ofDatum? doc)
      (← ModuleDecl.ofDatum? d) (← ModuleExpansion.ofDatum? e)
  | .variant "module_type" (.list [id, doc, .null, e]) => do
    return .moduleType (← Exchanged.ofDatum? id) (← Exchanged.ofDatum? doc) none
      (← ModuleExpansion.ofDatum? e)
  | .variant "module_type" (.list [id, doc, t, e]) => do
    return .moduleType (← Exchanged.ofDatum? id) (← Exchanged.ofDatum? doc)
      (some (← ModuleTypeExpr.ofDatum? t)) (← ModuleExpansion.ofDatum? e)
  | .variant "module_substitution" (.list [id, doc, p]) => do
    return .moduleSubstitution (← Exchanged.ofDatum? id) (← Exchanged.ofDatum? doc)
      (← Exchanged.ofDatum? p)
  | .variant "type" (.list [r, t]) => do
    return .type (← Exchanged.ofDatum? r) (← Exchanged.ofDatum? t)
  | .variant "type_substitution" d => (Exchanged.ofDatum? d).map .typeSubstitution
  | .variant "type_extension" d => (Exchanged.ofDatum? d).map .extension
  | .variant "exception" d => (Exchanged.ofDatum? d).map .exception
  | .variant "value" d => (Exchanged.ofDatum? d).map .value
  | .variant "external" d => (Exchanged.ofDatum? d).map .external
  | .variant "class" (.list [r, c]) => do
    return .class (← Exchanged.ofDatum? r) (← Exchanged.ofDatum? c)
  | .variant "class_type" (.list [r, c]) => do
    return .classType (← Exchanged.ofDatum? r) (← Exchanged.ofDatum? c)
  | .variant "include" (.list [p, doc, d, .list items]) => do
    return .include (← Exchanged.ofDatum? p) (← Exchanged.ofDatum? doc) (← ModuleDecl.ofDatum? d)
      (← SignatureItem.ofData? items)
  | .variant "comment" d => (Exchanged.ofDatum? d).map .comment
  | _ => none

def SignatureItem.ofData? : List Datum → Option (List SignatureItem)
  | [] => some []
  | d :: ds => do return (← SignatureItem.ofDatum? d) :: (← SignatureItem.ofData? ds)

end

instance : Exchanged ModuleTypeExpr :=
  ⟨.ref .moduleTypeExpr, ModuleTypeExpr.toDatum, ModuleTypeExpr.ofDatum?⟩

instance : Exchanged SignatureItem :=
  ⟨.ref .signatureItem, SignatureItem.toDatum, SignatureItem.ofDatum?⟩

end DocSite.Exchange
