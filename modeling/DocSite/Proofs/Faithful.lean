import DocSite.Exchange.Types
import DocSite.Proofs.WrittenData

/-!
# Types that survive the exchange

A type is faithful if each of its values has a datum that fits the slot of the type and from which
the value is got back.  Lists, pairs and optional values of faithful types are faithful, with one
proviso: what is optional must never be null itself, or nothing would tell a missing value from one
that is there.  `Present` is for the types of which no value is null.

The rest of the module goes through the types up to type declarations.  Types that refer to one
another are gone through together, each with the lists in which it occurs.
-/

namespace DocSite.Exchange

/-- Every record of the format names its fields apart and leaves out only what is null. -/
theorem tidy_table (n : Name) : (table n).tidy = true := by
  cases n <;> rfl

/-- The values of a type fit its slot and are got back from their data. -/
class Faithful (α : Type) [Exchanged α] : Prop where
  fits (a : α) : Fits table (Exchanged.slot α) (toDatum a)
  ofDatum?_toDatum (a : α) : ofDatum? (toDatum a) = some a

export Faithful (fits ofDatum?_toDatum)

/-- A faithful type at whose slot null may not stand. -/
class Present (α : Type) [Exchanged α] : Prop extends Faithful α where
  not_nullable : (Exchanged.slot α).isNullable = false

section

variable {α β : Type}

theorem bind_of_eq_some {x : Option α} {a : α} (h : x = some a) (f : α → Option β) :
    x.bind f = f a := by
  rw [h, Option.bind_some]

theorem map_of_eq_some {x : Option α} {a : α} (h : x = some a) (f : α → β) :
    x.map f = some (f a) := by
  rw [h, Option.map_some]

theorem Fits.nullable {slot : Slot Name} {d : Datum} (h : Fits table slot d) :
    Fits table (.nullable slot) d := by
  cases d with
  | null => rfl
  | _ => exact h

theorem Present.toDatum_ne_null [Exchanged α] [Present α] (a : α) : toDatum a ≠ .null := by
  intro hnull
  have hfits := fits a
  rw [hnull, Fits, Present.not_nullable] at hfits
  exact absurd hfits (by decide)

end

/-! ## Strings, flags, lists and optional values -/

instance : Present String where
  fits _ := rfl
  ofDatum?_toDatum _ := rfl
  not_nullable := rfl

instance : Present Bool where
  fits _ := rfl
  ofDatum?_toDatum _ := rfl
  not_nullable := rfl

section

variable {α β : Type} [Exchanged α] [Exchanged β]

theorem fitsList_map [Faithful α] (xs : List α) :
    FitsList table (Exchanged.slot α) (xs.map toDatum) := by
  induction xs with
  | nil => trivial
  | cons x xs ih => exact ⟨fits x, ih⟩

theorem ofData?_map [Faithful α] (xs : List α) : ofData? (xs.map toDatum) = some xs := by
  induction xs with
  | nil => rfl
  | cons x xs ih =>
    refine (bind_of_eq_some (ofDatum?_toDatum x) _).trans ?_
    exact bind_of_eq_some ih _

instance [Faithful α] : Present (List α) where
  fits xs := fitsList_map xs
  ofDatum?_toDatum xs := ofData?_map xs
  not_nullable := rfl

theorem ofDatum?_of_ne_null {d : Datum} (h : d ≠ .null) :
    (ofDatum? d : Option (Option α)) = (ofDatum? d).map some := by
  cases d with
  | null => exact absurd rfl h
  | _ => rfl

instance [Present α] : Faithful (Option α) where
  fits
    | none => rfl
    | some a => (fits a).nullable
  ofDatum?_toDatum
    | none => rfl
    | some a => by
      refine (ofDatum?_of_ne_null (Present.toDatum_ne_null a)).trans ?_
      exact map_of_eq_some (ofDatum?_toDatum a) some

instance [Faithful α] [Faithful β] : Present (α × β) where
  fits p := ⟨fits p.1, fits p.2, rfl⟩
  ofDatum?_toDatum p := by
    refine (bind_of_eq_some (ofDatum?_toDatum p.1) _).trans ?_
    exact bind_of_eq_some (ofDatum?_toDatum p.2) _
  not_nullable := rfl

end

/-! ## Names and paths -/

instance : Present Kind where
  fits k := by
    cases k with
    | argument position => exact ⟨position.toNat_lt_size, rfl⟩
    | _ => rfl
  ofDatum?_toDatum k := by
    cases k with
    | argument position => exact congrArg (fun p => some (Kind.argument p)) UInt64.ofNat_toNat
    | _ => rfl
  not_nullable := rfl

namespace Identifier

theorem fits : (id : Identifier) → Fits table (.ref .identifier) (toDatum id)
  | .top k _ => ⟨Faithful.fits k, rfl, rfl, rfl⟩
  | .child p k _ => ⟨Faithful.fits k, rfl, (fits p).nullable, rfl⟩

theorem ofDatum?_toDatum : (id : Identifier) → ofDatum? (toDatum id) = some id
  | .top k n => bind_of_eq_some (Faithful.ofDatum?_toDatum k) _
  -- that the datum of the parent is not null is seen once the parent is taken apart
  | .child (.top k' n') k n => by
    refine (bind_of_eq_some (ofDatum?_toDatum (.top k' n')) _).trans ?_
    exact bind_of_eq_some (Faithful.ofDatum?_toDatum k) _
  | .child (.child p k' n') k n => by
    refine (bind_of_eq_some (ofDatum?_toDatum (.child p k' n')) _).trans ?_
    exact bind_of_eq_some (Faithful.ofDatum?_toDatum k) _

end Identifier

instance : Present Identifier where
  fits := Identifier.fits
  ofDatum?_toDatum := Identifier.ofDatum?_toDatum
  not_nullable := rfl

mutual

theorem ResolvedPath.fits : (p : ResolvedPath) → Fits table (.ref .resolvedPath) (toDatum p)
  | .identifier id => Faithful.fits id
  | .dot p k _ => ⟨ResolvedPath.fits p, Faithful.fits k, rfl, rfl⟩
  | .apply f a => ⟨ResolvedPath.fits f, Path.fits a, rfl⟩

theorem Path.fits : (p : Path) → Fits table (.ref .path) (toDatum p)
  | .resolved p => ResolvedPath.fits p
  | .root _ => rfl
  | .forward _ => rfl
  | .dot p _ => ⟨Path.fits p, rfl, rfl⟩
  | .apply f a => ⟨Path.fits f, Path.fits a, rfl⟩

end

mutual

theorem ResolvedPath.ofDatum?_toDatum : (p : ResolvedPath) → ofDatum? (toDatum p) = some p
  | .identifier id => map_of_eq_some (Faithful.ofDatum?_toDatum id) _
  | .dot p k n => by
    refine (bind_of_eq_some (ResolvedPath.ofDatum?_toDatum p) _).trans ?_
    exact bind_of_eq_some (Faithful.ofDatum?_toDatum k) _
  | .apply f a => by
    refine (bind_of_eq_some (ResolvedPath.ofDatum?_toDatum f) _).trans ?_
    exact bind_of_eq_some (Path.ofDatum?_toDatum a) _

theorem Path.ofDatum?_toDatum : (p : Path) → ofDatum? (toDatum p) = some p
  | .resolved p => map_of_eq_some (ResolvedPath.ofDatum?_toDatum p) _
  | .root _ => rfl
  | .forward _ => rfl
  | .dot p n => bind_of_eq_some (Path.ofDatum?_toDatum p) _
  | .apply f a => by
    refine (bind_of_eq_some (Path.ofDatum?_toDatum f) _).trans ?_
    exact bind_of_eq_some (Path.ofDatum?_toDatum a) _

end

instance : Present ResolvedPath where
  fits := ResolvedPath.fits
  ofDatum?_toDatum := ResolvedPath.ofDatum?_toDatum
  not_nullable := rfl

instance : Present Path where
  fits := Path.fits
  ofDatum?_toDatum := Path.ofDatum?_toDatum
  not_nullable := rfl

/-! ## Fragments -/

namespace ResolvedFragment

theorem fits : (f : ResolvedFragment) → Fits table (.ref .resolvedFragment) (toDatum f)
  | .top k _ => ⟨Faithful.fits k, rfl, rfl, rfl⟩
  | .child p k _ => ⟨Faithful.fits k, rfl, (fits p).nullable, rfl⟩

theorem ofDatum?_toDatum : (f : ResolvedFragment) → ofDatum? (toDatum f) = some f
  | .top k n => bind_of_eq_some (Faithful.ofDatum?_toDatum k) _
  -- that the datum of the parent is not null is seen once the parent is taken apart
  | .child (.top k' n') k n => by
    refine (bind_of_eq_some (ofDatum?_toDatum (.top k' n')) _).trans ?_
    exact bind_of_eq_some (Faithful.ofDatum?_toDatum k) _
  | .child (.child p k' n') k n => by
    refine (bind_of_eq_some (ofDatum?_toDatum (.child p k' n')) _).trans ?_
    exact bind_of_eq_some (Faithful.ofDatum?_toDatum k) _

end ResolvedFragment

instance : Present ResolvedFragment where
  fits := ResolvedFragment.fits
  ofDatum?_toDatum := ResolvedFragment.ofDatum?_toDatum
  not_nullable := rfl

namespace Fragment

theorem fits : (f : Fragment) → Fits table (.ref .fragment) (toDatum f)
  | .resolved f => Faithful.fits f
  | .root => rfl
  | .dot p _ => ⟨fits p, rfl, rfl⟩

theorem ofDatum?_toDatum : (f : Fragment) → ofDatum? (toDatum f) = some f
  | .resolved f => map_of_eq_some (Faithful.ofDatum?_toDatum f) _
  | .root => rfl
  | .dot p _ => bind_of_eq_some (ofDatum?_toDatum p) _

end Fragment

instance : Present Fragment where
  fits := Fragment.fits
  ofDatum?_toDatum := Fragment.ofDatum?_toDatum
  not_nullable := rfl

/-! ## Documentation -/

mutual

theorem Inline.fits : (x : Inline) → Fits table (.ref .inline) (Inline.toDatum x)
  | .text _ => rfl
  | .code _ => rfl
  | .emphasis xs => Inline.fitsAll xs
  | .bold xs => Inline.fitsAll xs
  | .link _ xs => ⟨rfl, Inline.fitsAll xs, rfl⟩
  | .reference t xs => ⟨Faithful.fits t, Inline.fitsAll xs, rfl⟩

theorem Inline.fitsAll : (xs : List Inline) → FitsList table (.ref .inline) (Inline.toData xs)
  | [] => trivial
  | x :: xs => ⟨Inline.fits x, Inline.fitsAll xs⟩

end

mutual

theorem Inline.ofDatum?_toDatum : (x : Inline) → Inline.ofDatum? (Inline.toDatum x) = some x
  | .text _ => rfl
  | .code _ => rfl
  | .emphasis xs => map_of_eq_some (Inline.ofData?_toData xs) _
  | .bold xs => map_of_eq_some (Inline.ofData?_toData xs) _
  | .link _ xs => map_of_eq_some (Inline.ofData?_toData xs) _
  | .reference t xs => by
    refine (bind_of_eq_some (Faithful.ofDatum?_toDatum t) _).trans ?_
    exact bind_of_eq_some (Inline.ofData?_toData xs) _

theorem Inline.ofData?_toData : (xs : List Inline) → Inline.ofData? (Inline.toData xs) = some xs
  | [] => rfl
  | x :: xs => by
    refine (bind_of_eq_some (Inline.ofDatum?_toDatum x) _).trans ?_
    exact bind_of_eq_some (Inline.ofData?_toData xs) _

end

instance : Present Inline where
  fits := Inline.fits
  ofDatum?_toDatum := Inline.ofDatum?_toDatum
  not_nullable := rfl

instance : Present Tag where
  fits
    | .open => rfl
    | .closed => rfl
    | .inline => rfl
    | .author _ => rfl
    | .deprecated xs => fits xs
    | .since _ => rfl
    | .version _ => rfl
    | .return xs => fits xs
  ofDatum?_toDatum
    | .open => rfl
    | .closed => rfl
    | .inline => rfl
    | .author _ => rfl
    | .deprecated xs => map_of_eq_some (ofDatum?_toDatum xs) _
    | .since _ => rfl
    | .version _ => rfl
    | .return xs => map_of_eq_some (ofDatum?_toDatum xs) _
  not_nullable := rfl

mutual

theorem Block.fits : (b : Block) → Fits table (.ref .block) (Block.toDatum b)
  | .paragraph xs => Faithful.fits xs
  | .heading level label text =>
    ⟨level.toNat_lt_size, Faithful.fits label, Faithful.fits text, rfl⟩
  | .codeBlock _ => rfl
  | .verbatim _ => rfl
  | .list _ items => ⟨rfl, Block.fitsItems items, rfl⟩
  | .tag t => Faithful.fits t

theorem Block.fitsAll : (bs : List Block) → FitsList table (.ref .block) (Block.toData bs)
  | [] => trivial
  | b :: bs => ⟨Block.fits b, Block.fitsAll bs⟩

theorem Block.fitsItems : (items : List (List Block)) →
    FitsList table (.list (.ref .block)) (Block.itemsToData items)
  | [] => trivial
  | bs :: items => ⟨Block.fitsAll bs, Block.fitsItems items⟩

end

mutual

theorem Block.ofDatum?_toDatum : (b : Block) → Block.ofDatum? (Block.toDatum b) = some b
  | .paragraph xs => map_of_eq_some (Faithful.ofDatum?_toDatum xs) _
  | .heading level label text => by
    refine (bind_of_eq_some (Faithful.ofDatum?_toDatum label) _).trans ?_
    refine (bind_of_eq_some (Faithful.ofDatum?_toDatum text) _).trans ?_
    exact congrArg (fun l => some (Block.heading l label text)) UInt8.ofNat_toNat
  | .codeBlock _ => rfl
  | .verbatim _ => rfl
  | .list _ items => map_of_eq_some (Block.itemsOfData?_itemsToData items) _
  | .tag t => map_of_eq_some (Faithful.ofDatum?_toDatum t) _

theorem Block.ofData?_toData : (bs : List Block) → Block.ofData? (Block.toData bs) = some bs
  | [] => rfl
  | b :: bs => by
    refine (bind_of_eq_some (Block.ofDatum?_toDatum b) _).trans ?_
    exact bind_of_eq_some (Block.ofData?_toData bs) _

theorem Block.itemsOfData?_itemsToData : (items : List (List Block)) →
    Block.itemsOfData? (Block.itemsToData items) = some items
  | [] => rfl
  | bs :: items => by
    refine (bind_of_eq_some (Block.ofData?_toData bs) _).trans ?_
    exact bind_of_eq_some (Block.itemsOfData?_itemsToData items) _

end

instance : Present Block where
  fits := Block.fits
  ofDatum?_toDatum := Block.ofDatum?_toDatum
  not_nullable := rfl

instance : Present Comment where
  fits
    | .docs ds => fits ds
    | .stop => rfl
  ofDatum?_toDatum
    | .docs ds => map_of_eq_some (ofDatum?_toDatum ds) _
    | .stop => rfl
  not_nullable := rfl

/-! ## Types -/

instance : Present Label where
  fits
    | .label _ => rfl
    | .optional _ => rfl
  ofDatum?_toDatum
    | .label _ => rfl
    | .optional _ => rfl
  not_nullable := rfl

instance : Present VariantKind where
  fits
    | .fixed => rfl
    | .open => rfl
    | .closed tags => fits tags
  ofDatum?_toDatum
    | .fixed => rfl
    | .open => rfl
    | .closed tags => map_of_eq_some (ofDatum?_toDatum tags) _
  not_nullable := rfl

mutual

theorem TypeExpr.fits : (t : TypeExpr) → Fits table (.ref .typeExpr) (TypeExpr.toDatum t)
  | .var _ => rfl
  | .any => rfl
  | .alias t _ => ⟨TypeExpr.fits t, rfl, rfl⟩
  | .arrow l a b => ⟨Faithful.fits l, TypeExpr.fits a, TypeExpr.fits b, rfl⟩
  | .tuple ts => TypeExpr.fitsAll ts
  | .constr p ts => ⟨Faithful.fits p, TypeExpr.fitsAll ts, rfl⟩
  | .variant k es => ⟨Faithful.fits k, VariantElement.fitsAll es, rfl⟩
  | .object fs _ => ⟨ObjectField.fitsAll fs, rfl, rfl⟩
  | .class p ts => ⟨Faithful.fits p, TypeExpr.fitsAll ts, rfl⟩
  | .poly vs t => ⟨Faithful.fits vs, TypeExpr.fits t, rfl⟩
  | .package p ss => ⟨Faithful.fits p, TypeExpr.fitsSubstitutions ss, rfl⟩

theorem TypeExpr.fitsAll : (ts : List TypeExpr) →
    FitsList table (.ref .typeExpr) (TypeExpr.toData ts)
  | [] => trivial
  | t :: ts => ⟨TypeExpr.fits t, TypeExpr.fitsAll ts⟩

theorem TypeExpr.fitsSubstitutions : (ss : List (Fragment × TypeExpr)) →
    FitsList table (.tuple [.ref .fragment, .ref .typeExpr]) (TypeExpr.substitutionsToData ss)
  | [] => trivial
  | (f, t) :: ss => ⟨⟨Faithful.fits f, TypeExpr.fits t, rfl⟩, TypeExpr.fitsSubstitutions ss⟩

theorem VariantElement.fits : (e : VariantElement) →
    Fits table (.ref .variantElement) (VariantElement.toDatum e)
  | .inherit t => TypeExpr.fits t
  | .tag _ ts doc => ⟨rfl, TypeExpr.fitsAll ts, Faithful.fits doc, rfl⟩

theorem VariantElement.fitsAll : (es : List VariantElement) →
    FitsList table (.ref .variantElement) (VariantElement.toData es)
  | [] => trivial
  | e :: es => ⟨VariantElement.fits e, VariantElement.fitsAll es⟩

theorem ObjectField.fits : (f : ObjectField) →
    Fits table (.ref .objectField) (ObjectField.toDatum f)
  | .method _ t => ⟨rfl, TypeExpr.fits t, rfl⟩
  | .inherit t => TypeExpr.fits t

theorem ObjectField.fitsAll : (fs : List ObjectField) →
    FitsList table (.ref .objectField) (ObjectField.toData fs)
  | [] => trivial
  | f :: fs => ⟨ObjectField.fits f, ObjectField.fitsAll fs⟩

end

mutual

theorem TypeExpr.ofDatum?_toDatum : (t : TypeExpr) →
    TypeExpr.ofDatum? (TypeExpr.toDatum t) = some t
  | .var _ => rfl
  | .any => rfl
  | .alias t _ => bind_of_eq_some (TypeExpr.ofDatum?_toDatum t) _
  | .arrow l a b => by
    refine (bind_of_eq_some (Faithful.ofDatum?_toDatum l) _).trans ?_
    refine (bind_of_eq_some (TypeExpr.ofDatum?_toDatum a) _).trans ?_
    exact bind_of_eq_some (TypeExpr.ofDatum?_toDatum b) _
  | .tuple ts => map_of_eq_some (TypeExpr.ofData?_toData ts) _
  | .constr p ts => by
    refine (bind_of_eq_some (Faithful.ofDatum?_toDatum p) _).trans ?_
    exact bind_of_eq_some (TypeExpr.ofData?_toData ts) _
  | .variant k es => by
    refine (bind_of_eq_some (Faithful.ofDatum?_toDatum k) _).trans ?_
    exact bind_of_eq_some (VariantElement.ofData?_toData es) _
  | .object fs _ => bind_of_eq_some (ObjectField.ofData?_toData fs) _
  | .class p ts => by
    refine (bind_of_eq_some (Faithful.ofDatum?_toDatum p) _).trans ?_
    exact bind_of_eq_some (TypeExpr.ofData?_toData ts) _
  | .poly vs t => by
    refine (bind_of_eq_some (Faithful.ofDatum?_toDatum vs) _).trans ?_
    exact bind_of_eq_some (TypeExpr.ofDatum?_toDatum t) _
  | .package p ss => by
    refine (bind_of_eq_some (Faithful.ofDatum?_toDatum p) _).trans ?_
    exact bind_of_eq_some (TypeExpr.substitutionsOfData?_toData ss) _

theorem TypeExpr.ofData?_toData : (ts : List TypeExpr) →
    TypeExpr.ofData? (TypeExpr.toData ts) = some ts
  | [] => rfl
  | t :: ts => by
    refine (bind_of_eq_some (TypeExpr.ofDatum?_toDatum t) _).trans ?_
    exact bind_of_eq_some (TypeExpr.ofData?_toData ts) _

theorem TypeExpr.substitutionsOfData?_toData : (ss : List (Fragment × TypeExpr)) →
    TypeExpr.substitutionsOfData? (TypeExpr.substitutionsToData ss) = some ss
  | [] => rfl
  | (f, t) :: ss => by
    refine (bind_of_eq_some (Faithful.ofDatum?_toDatum f) _).trans ?_
    refine (bind_of_eq_some (TypeExpr.ofDatum?_toDatum t) _).trans ?_
    exact bind_of_eq_some (TypeExpr.substitutionsOfData?_toData ss) _

theorem VariantElement.ofDatum?_toDatum : (e : VariantElement) →
    VariantElement.ofDatum? (VariantElement.toDatum e) = some e
  | .inherit t => map_of_eq_some (TypeExpr.ofDatum?_toDatum t) _
  | .tag _ ts doc => by
    refine (bind_of_eq_some (TypeExpr.ofData?_toData ts) _).trans ?_
    exact bind_of_eq_some (Faithful.ofDatum?_toDatum doc) _

theorem VariantElement.ofData?_toData : (es : List VariantElement) →
    VariantElement.ofData? (VariantElement.toData es) = some es
  | [] => rfl
  | e :: es => by
    refine (bind_of_eq_some (VariantElement.ofDatum?_toDatum e) _).trans ?_
    exact bind_of_eq_some (VariantElement.ofData?_toData es) _

theorem ObjectField.ofDatum?_toDatum : (f : ObjectField) →
    ObjectField.ofDatum? (ObjectField.toDatum f) = some f
  | .method _ t => map_of_eq_some (TypeExpr.ofDatum?_toDatum t) _
  | .inherit t => map_of_eq_some (TypeExpr.ofDatum?_toDatum t) _

theorem ObjectField.ofData?_toData : (fs : List ObjectField) →
    ObjectField.ofData? (ObjectField.toData fs) = some fs
  | [] => rfl
  | f :: fs => by
    refine (bind_of_eq_some (ObjectField.ofDatum?_toDatum f) _).trans ?_
    exact bind_of_eq_some (ObjectField.ofData?_toData fs) _

end

instance : Present TypeExpr where
  fits := TypeExpr.fits
  ofDatum?_toDatum := TypeExpr.ofDatum?_toDatum
  not_nullable := rfl

instance : Present VariantElement where
  fits := VariantElement.fits
  ofDatum?_toDatum := VariantElement.ofDatum?_toDatum
  not_nullable := rfl

/-! ## Type declarations -/

instance : Present Variance where
  fits
    | .positive => rfl
    | .negative => rfl
  ofDatum?_toDatum
    | .positive => rfl
    | .negative => rfl
  not_nullable := rfl

instance : Present ParameterName where
  fits
    | .any => rfl
    | .var _ => rfl
  ofDatum?_toDatum
    | .any => rfl
    | .var _ => rfl
  not_nullable := rfl

instance : Present TypeParameter where
  fits p := ⟨fits p.name, fits p.variance, rfl⟩
  ofDatum?_toDatum p := by
    refine (bind_of_eq_some (ofDatum?_toDatum p.name) _).trans ?_
    exact bind_of_eq_some (ofDatum?_toDatum p.variance) _
  not_nullable := rfl

instance : Present TypeEquation where
  fits e := ⟨fits e.parameters, fits e.isPrivate, fits e.manifest, fits e.constraints, rfl⟩
  ofDatum?_toDatum e := by
    refine (bind_of_eq_some (ofDatum?_toDatum e.parameters) _).trans ?_
    refine (bind_of_eq_some (ofDatum?_toDatum e.isPrivate) _).trans ?_
    refine (bind_of_eq_some (ofDatum?_toDatum e.manifest) _).trans ?_
    exact bind_of_eq_some (ofDatum?_toDatum e.constraints) _
  not_nullable := rfl

instance : Present DocSite.Field where
  fits f := ⟨fits f.id, fits f.doc, fits f.isMutable, fits f.type, rfl⟩
  ofDatum?_toDatum f := by
    refine (bind_of_eq_some (ofDatum?_toDatum f.id) _).trans ?_
    refine (bind_of_eq_some (ofDatum?_toDatum f.doc) _).trans ?_
    refine (bind_of_eq_some (ofDatum?_toDatum f.isMutable) _).trans ?_
    exact bind_of_eq_some (ofDatum?_toDatum f.type) _
  not_nullable := rfl

instance : Present ConstructorArguments where
  fits
    | .tuple ts => fits ts
    | .record fs => fits fs
  ofDatum?_toDatum
    | .tuple ts => map_of_eq_some (ofDatum?_toDatum ts) _
    | .record fs => map_of_eq_some (ofDatum?_toDatum fs) _
  not_nullable := rfl

instance : Present Constructor where
  fits c := ⟨fits c.id, fits c.doc, fits c.arguments, fits c.result, rfl⟩
  ofDatum?_toDatum c := by
    refine (bind_of_eq_some (ofDatum?_toDatum c.id) _).trans ?_
    refine (bind_of_eq_some (ofDatum?_toDatum c.doc) _).trans ?_
    refine (bind_of_eq_some (ofDatum?_toDatum c.arguments) _).trans ?_
    exact bind_of_eq_some (ofDatum?_toDatum c.result) _
  not_nullable := rfl

instance : Present TypeRepresentation where
  fits
    | .variant cs => fits cs
    | .record fs => fits fs
    | .extensible => rfl
  ofDatum?_toDatum
    | .variant cs => map_of_eq_some (ofDatum?_toDatum cs) _
    | .record fs => map_of_eq_some (ofDatum?_toDatum fs) _
    | .extensible => rfl
  not_nullable := rfl

instance : Present TypeDecl where
  fits t := ⟨fits t.id, fits t.doc, fits t.equation, fits t.representation, rfl⟩
  ofDatum?_toDatum t := by
    refine (bind_of_eq_some (ofDatum?_toDatum t.id) _).trans ?_
    refine (bind_of_eq_some (ofDatum?_toDatum t.doc) _).trans ?_
    refine (bind_of_eq_some (ofDatum?_toDatum t.equation) _).trans ?_
    exact bind_of_eq_some (ofDatum?_toDatum t.representation) _
  not_nullable := rfl

instance : Present Extension where
  fits e := ⟨fits e.path, fits e.doc, fits e.parameters, fits e.isPrivate, fits e.constructors, rfl⟩
  ofDatum?_toDatum e := by
    refine (bind_of_eq_some (ofDatum?_toDatum e.path) _).trans ?_
    refine (bind_of_eq_some (ofDatum?_toDatum e.doc) _).trans ?_
    refine (bind_of_eq_some (ofDatum?_toDatum e.parameters) _).trans ?_
    refine (bind_of_eq_some (ofDatum?_toDatum e.isPrivate) _).trans ?_
    exact bind_of_eq_some (ofDatum?_toDatum e.constructors) _
  not_nullable := rfl

instance : Present Value where
  fits v := ⟨fits v.id, fits v.doc, fits v.type, rfl⟩
  ofDatum?_toDatum v := by
    refine (bind_of_eq_some (ofDatum?_toDatum v.id) _).trans ?_
    refine (bind_of_eq_some (ofDatum?_toDatum v.doc) _).trans ?_
    exact bind_of_eq_some (ofDatum?_toDatum v.type) _
  not_nullable := rfl

instance : Present External where
  fits e := ⟨fits e.id, fits e.doc, fits e.type, fits e.primitives, rfl⟩
  ofDatum?_toDatum e := by
    refine (bind_of_eq_some (ofDatum?_toDatum e.id) _).trans ?_
    refine (bind_of_eq_some (ofDatum?_toDatum e.doc) _).trans ?_
    refine (bind_of_eq_some (ofDatum?_toDatum e.type) _).trans ?_
    exact bind_of_eq_some (ofDatum?_toDatum e.primitives) _
  not_nullable := rfl

end DocSite.Exchange
