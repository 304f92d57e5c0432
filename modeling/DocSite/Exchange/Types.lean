import DocSite.Exchange.Docs
import DocSite.Interface.Declaration

/-!
# The data of types and their declarations
-/

namespace DocSite.Exchange

instance : Exchanged Label where
  slot := Format.label
  toDatum := fun
    | .label s => .variant "label" (.text s)
    | .optional s => .variant "optional" (.text s)
  ofDatum? := fun
    | .variant "label" (.text s) => some (.label s)
    | .variant "optional" (.text s) => some (.optional s)
    | _ => none

instance : Exchanged VariantKind where
  slot := Format.variantKind
  toDatum := fun
    | .fixed => .variant "fixed" .null
    | .open => .variant "open" .null
    | .closed tags => .variant "closed" (toDatum tags)
  ofDatum? := fun
    | .variant "fixed" _ => some .fixed
    | .variant "open" _ => some .open
    | .variant "closed" d => (ofDatum? d).map .closed
    | _ => none

/-! ## Type expressions -/

mutual

def TypeExpr.toDatum : TypeExpr → Datum
  | .var n => .variant "var" (.text n)
  | .any => .variant "any" .null
  | .alias t n => .variant "alias" (.list [TypeExpr.toDatum t, .text n])
  | .arrow l a b =>
    .variant "arrow" (.list [Exchanged.toDatum l, TypeExpr.toDatum a, TypeExpr.toDatum b])
  | .tuple ts => .variant "tuple" (.list (TypeExpr.toData ts))
  | .constr p ts => .variant "constr" (.list [Exchanged.toDatum p, .list (TypeExpr.toData ts)])
  | .variant k es =>
    .variant "polymorphic_variant"
      (.list [Exchanged.toDatum k, .list (VariantElement.toData es)])
  | .object fs isOpen =>
    .variant "object" (.list [.list (ObjectField.toData fs), .flag isOpen])
  | .class p ts => .variant "class" (.list [Exchanged.toDatum p, .list (TypeExpr.toData ts)])
  | .poly vs t => .variant "poly" (.list [Exchanged.toDatum vs, TypeExpr.toDatum t])
  | .package p ss =>
    .variant "package" (.list [Exchanged.toDatum p, .list (TypeExpr.substitutionsToData ss)])

def TypeExpr.toData : List TypeExpr → List Datum
  | [] => []
  | t :: ts => TypeExpr.toDatum t :: TypeExpr.toData ts

def TypeExpr.substitutionsToData : List (Fragment × TypeExpr) → List Datum
  | [] => []
  | (f, t) :: ss =>
    .list [Exchanged.toDatum f, TypeExpr.toDatum t] :: TypeExpr.substitutionsToData ss

def VariantElement.toDatum : VariantElement → Datum
  | .inherit t => .variant "type" (TypeExpr.toDatum t)
  | .tag n ts doc =>
    .variant "constructor"
      (.list [.text n, .list (TypeExpr.toData ts), Exchanged.toDatum doc])

def VariantElement.toData : List VariantElement → List Datum
  | [] => []
  | e :: es => VariantElement.toDatum e :: VariantElement.toData es

def ObjectField.toDatum : ObjectField → Datum
  | .method n t => .variant "method" (.list [.text n, TypeExpr.toDatum t])
  | .inherit t => .variant "inherit" (TypeExpr.toDatum t)

def ObjectField.toData : List ObjectField → List Datum
  | [] => []
  | f :: fs => ObjectField.toDatum f :: ObjectField.toData fs

end

mutual

def TypeExpr.ofDatum? : Datum → Option TypeExpr
  | .variant "var" (.text n) => some (.var n)
  | .variant "any" _ => some .any
  | .variant "alias" (.list [t, .text n]) => do return .alias (← TypeExpr.ofDatum? t) n
  | .variant "arrow" (.list [l, a, b]) => do
    return .arrow (← Exchanged.ofDatum? l) (← TypeExpr.ofDatum? a) (← TypeExpr.ofDatum? b)
  | .variant "tuple" (.list ts) => (TypeExpr.ofData? ts).map .tuple
  | .variant "constr" (.list [p, .list ts]) => do
    return .constr (← Exchanged.ofDatum? p) (← TypeExpr.ofData? ts)
  | .variant "polymorphic_variant" (.list [k, .list es]) => do
    return .variant (← Exchanged.ofDatum? k) (← VariantElement.ofData? es)
  | .variant "object" (.list [.list fs, .flag isOpen]) => do
    return .object (← ObjectField.ofData? fs) isOpen
  | .variant "class" (.list [p, .list ts]) => do
    return .class (← Exchanged.ofDatum? p) (← TypeExpr.ofData? ts)
  | .variant "poly" (.list [vs, t]) => do
    return .poly (← Exchanged.ofDatum? vs) (← TypeExpr.ofDatum? t)
  | .variant "package" (.list [p, .list ss]) => do
    return .package (← Exchanged.ofDatum? p) (← TypeExpr.substitutionsOfData? ss)
  | _ => none

def TypeExpr.ofData? : List Datum → Option (List TypeExpr)
  | [] => some []
  | d :: ds => do return (← TypeExpr.ofDatum? d) :: (← TypeExpr.ofData? ds)

def TypeExpr.substitutionsOfData? : List Datum → Option (List (Fragment × TypeExpr))
  | [] => some []
  | .list [f, t] :: ds => do
    return (← Exchanged.ofDatum? f, ← TypeExpr.ofDatum? t) ::
      (← TypeExpr.substitutionsOfData? ds)
  | _ :: _ => none

def VariantElement.ofDatum? : Datum → Option VariantElement
  | .variant "type" t => (TypeExpr.ofDatum? t).map .inherit
  | .variant "constructor" (.list [.text n, .list ts, doc]) => do
    return .tag n (← TypeExpr.ofData? ts) (← Exchanged.ofDatum? doc)
  | _ => none

def VariantElement.ofData? : List Datum → Option (List VariantElement)
  | [] => some []
  | d :: ds => do return (← VariantElement.ofDatum? d) :: (← VariantElement.ofData? ds)

def ObjectField.ofDatum? : Datum → Option ObjectField
  | .variant "method" (.list [.text n, t]) => (TypeExpr.ofDatum? t).map (.method n)
  | .variant "inherit" t => (TypeExpr.ofDatum? t).map .inherit
  | _ => none

def ObjectField.ofData? : List Datum → Option (List ObjectField)
  | [] => some []
  | d :: ds => do return (← ObjectField.ofDatum? d) :: (← ObjectField.ofData? ds)

end

instance : Exchanged TypeExpr := ⟨.ref .typeExpr, TypeExpr.toDatum, TypeExpr.ofDatum?⟩

instance : Exchanged VariantElement :=
  ⟨.ref .variantElement, VariantElement.toDatum, VariantElement.ofDatum?⟩

/-! ## Type declarations -/

instance : Exchanged Variance where
  slot := Format.variance
  toDatum := fun
    | .positive => .variant "pos" .null
    | .negative => .variant "neg" .null
  ofDatum? := fun
    | .variant "pos" _ => some .positive
    | .variant "neg" _ => some .negative
    | _ => none

instance : Exchanged ParameterName where
  slot := Format.parameterName
  toDatum := fun
    | .any => .variant "any" .null
    | .var n => .variant "var" (.text n)
  ofDatum? := fun
    | .variant "any" _ => some .any
    | .variant "var" (.text n) => some (.var n)
    | _ => none

instance : Exchanged TypeParameter where
  slot := Format.typeParameter
  toDatum := fun p => .list [toDatum p.name, toDatum p.variance]
  ofDatum? := fun
    | .list [n, v] => do return ⟨← ofDatum? n, ← ofDatum? v⟩
    | _ => none

instance : Exchanged TypeEquation where
  slot := Format.typeEquation
  toDatum := fun e =>
    .list [toDatum e.parameters, toDatum e.isPrivate, toDatum e.manifest, toDatum e.constraints]
  ofDatum? := fun
    | .list [ps, pr, m, cs] => do
      return ⟨← ofDatum? ps, ← ofDatum? pr, ← ofDatum? m, ← ofDatum? cs⟩
    | _ => none

instance : Exchanged DocSite.Field where
  slot := Format.recordField
  toDatum := fun f => .list [toDatum f.id, toDatum f.doc, toDatum f.isMutable, toDatum f.type]
  ofDatum? := fun
    | .list [i, d, m, t] => do
      return ⟨← ofDatum? i, ← ofDatum? d, ← ofDatum? m, ← ofDatum? t⟩
    | _ => none

instance : Exchanged ConstructorArguments where
  slot := Format.constructorArguments
  toDatum := fun
    | .tuple ts => .variant "tuple" (toDatum ts)
    | .record fs => .variant "record" (toDatum fs)
  ofDatum? := fun
    | .variant "tuple" d => (ofDatum? d).map .tuple
    | .variant "record" d => (ofDatum? d).map .record
    | _ => none

instance : Exchanged Constructor where
  slot := Format.constructor
  toDatum := fun c =>
    .list [toDatum c.id, toDatum c.doc, toDatum c.arguments, toDatum c.result]
  ofDatum? := fun
    | .list [i, d, a, r] => do
      return ⟨← ofDatum? i, ← ofDatum? d, ← ofDatum? a, ← ofDatum? r⟩
    | _ => none

instance : Exchanged TypeRepresentation where
  slot := Format.typeRepresentation
  toDatum := fun
    | .variant cs => .variant "variant" (toDatum cs)
    | .record fs => .variant "record" (toDatum fs)
    | .extensible => .variant "extensible" .null
  ofDatum? := fun
    | .variant "variant" d => (ofDatum? d).map .variant
    | .variant "record" d => (ofDatum? d).map .record
    | .variant "extensible" _ => some .extensible
    | _ => none

instance : Exchanged TypeDecl where
  slot := Format.typeDecl
  toDatum := fun t =>
    .list [toDatum t.id, toDatum t.doc, toDatum t.equation, toDatum t.representation]
  ofDatum? := fun
    | .list [i, d, e, r] => do
      return ⟨← ofDatum? i, ← ofDatum? d, ← ofDatum? e, ← ofDatum? r⟩
    | _ => none

instance : Exchanged Extension where
  slot := Format.extension
  toDatum := fun e =>
    .list [toDatum e.path, toDatum e.doc, toDatum e.parameters, toDatum e.isPrivate,
      toDatum e.constructors]
  ofDatum? := fun
    | .list [p, d, ps, pr, cs] => do
      return ⟨← ofDatum? p, ← ofDatum? d, ← ofDatum? ps, ← ofDatum? pr, ← ofDatum? cs⟩
    | _ => none

instance : Exchanged Value where
  slot := Format.value
  toDatum := fun v => .list [toDatum v.id, toDatum v.doc, toDatum v.type]
  ofDatum? := fun
    | .list [i, d, t] => do return ⟨← ofDatum? i, ← ofDatum? d, ← ofDatum? t⟩
    | _ => none

instance : Exchanged External where
  slot := Format.external
  toDatum := fun e => .list [toDatum e.id, toDatum e.doc, toDatum e.type, toDatum e.primitives]
  ofDatum? := fun
    | .list [i, d, t, p] => do
      return ⟨← ofDatum? i, ← ofDatum? d, ← ofDatum? t, ← ofDatum? p⟩
    | _ => none

end DocSite.Exchange
