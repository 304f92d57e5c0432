import DocSite.Exchange.Roots
import DocSite.Proofs.Faithful

/-!
# Saved roots are loaded again

The remaining types of an interface file are shown to be faithful: classes, signatures and at last
roots.  With what is known of printed JSON and of written data this gives the main result,
`Root.load_save`: a root is got back from its own file if no more than 127 brackets are open in it
at once, and otherwise the file counts as malformed.  The number of brackets is counted in the text
of the file, not in the root.
-/

namespace DocSite.Exchange

/-! ## Classes -/

instance : Present Method where
  fits m := ⟨fits m.id, fits m.doc, fits m.isPrivate, fits m.isVirtual, fits m.type, rfl⟩
  ofDatum?_toDatum m := by
    refine (bind_of_eq_some (ofDatum?_toDatum m.id) _).trans ?_
    refine (bind_of_eq_some (ofDatum?_toDatum m.doc) _).trans ?_
    refine (bind_of_eq_some (ofDatum?_toDatum m.isPrivate) _).trans ?_
    refine (bind_of_eq_some (ofDatum?_toDatum m.isVirtual) _).trans ?_
    exact bind_of_eq_some (ofDatum?_toDatum m.type) _
  not_nullable := rfl

instance : Present InstanceVariable where
  fits v := ⟨fits v.id, fits v.doc, fits v.isMutable, fits v.isVirtual, fits v.type, rfl⟩
  ofDatum?_toDatum v := by
    refine (bind_of_eq_some (ofDatum?_toDatum v.id) _).trans ?_
    refine (bind_of_eq_some (ofDatum?_toDatum v.doc) _).trans ?_
    refine (bind_of_eq_some (ofDatum?_toDatum v.isMutable) _).trans ?_
    refine (bind_of_eq_some (ofDatum?_toDatum v.isVirtual) _).trans ?_
    exact bind_of_eq_some (ofDatum?_toDatum v.type) _
  not_nullable := rfl

mutual

theorem ClassTypeExpr.fits : (e : ClassTypeExpr) →
    Fits table (.ref .classTypeExpr) (ClassTypeExpr.toDatum e)
  | .constr p ts => ⟨Faithful.fits p, Faithful.fits ts, rfl⟩
  | .signature self items => ⟨Faithful.fits self, ClassItem.fitsAll items, rfl⟩

theorem ClassItem.fits : (i : ClassItem) → Fits table (.ref .classItem) (ClassItem.toDatum i)
  | .method m => Faithful.fits m
  | .instanceVariable v => Faithful.fits v
  | .constraint a b => ⟨Faithful.fits a, Faithful.fits b, rfl⟩
  | .inherit e => ClassTypeExpr.fits e
  | .comment c => Faithful.fits c

theorem ClassItem.fitsAll : (is : List ClassItem) →
    FitsList table (.ref .classItem) (ClassItem.toData is)
  | [] => trivial
  | i :: is => ⟨ClassItem.fits i, ClassItem.fitsAll is⟩

end

mutual

theorem ClassTypeExpr.ofDatum?_toDatum : (e : ClassTypeExpr) →
    ClassTypeExpr.ofDatum? (ClassTypeExpr.toDatum e) = some e
  | .constr p ts => by
    refine (bind_of_eq_some (Faithful.ofDatum?_toDatum p) _).trans ?_
    exact bind_of_eq_some (Faithful.ofDatum?_toDatum ts) _
  | .signature self items => by
    refine (bind_of_eq_some (Faithful.ofDatum?_toDatum self) _).trans ?_
    exact bind_of_eq_some (ClassItem.ofData?_toData items) _

theorem ClassItem.ofDatum?_toDatum : (i : ClassItem) →
    ClassItem.ofDatum? (ClassItem.toDatum i) = some i
  | .method m => map_of_eq_some (Faithful.ofDatum?_toDatum m) _
  | .instanceVariable v => map_of_eq_some (Faithful.ofDatum?_toDatum v) _
  | .constraint a b => by
    refine (bind_of_eq_some (Faithful.ofDatum?_toDatum a) _).trans ?_
    exact bind_of_eq_some (Faithful.ofDatum?_toDatum b) _
  | .inherit e => map_of_eq_some (ClassTypeExpr.ofDatum?_toDatum e) _
  | .comment c => map_of_eq_some (Faithful.ofDatum?_toDatum c) _

theorem ClassItem.ofData?_toData : (is : List ClassItem) →
    ClassItem.ofData? (ClassItem.toData is) = some is
  | [] => rfl
  | i :: is => by
    refine (bind_of_eq_some (ClassItem.ofDatum?_toDatum i) _).trans ?_
    exact bind_of_eq_some (ClassItem.ofData?_toData is) _

end

instance : Present ClassTypeExpr where
  fits := ClassTypeExpr.fits
  ofDatum?_toDatum := ClassTypeExpr.ofDatum?_toDatum
  not_nullable := rfl

instance : Present ClassItem where
  fits := ClassItem.fits
  ofDatum?_toDatum := ClassItem.ofDatum?_toDatum
  not_nullable := rfl

instance : Present ClassSignature where
  fits s := ⟨fits s.self, fits s.items, rfl⟩
  ofDatum?_toDatum s := by
    refine (bind_of_eq_some (ofDatum?_toDatum s.self) _).trans ?_
    exact bind_of_eq_some (ofDatum?_toDatum s.items) _
  not_nullable := rfl

namespace ClassDecl

theorem fits : (d : ClassDecl) → Fits table (.ref .classDecl) (toDatum d)
  | .classType t => Faithful.fits t
  | .arrow l a d => ⟨Faithful.fits l, Faithful.fits a, fits d, rfl⟩

theorem ofDatum?_toDatum : (d : ClassDecl) → ofDatum? (toDatum d) = some d
  | .classType t => map_of_eq_some (Faithful.ofDatum?_toDatum t) _
  | .arrow l a d => by
    refine (bind_of_eq_some (Faithful.ofDatum?_toDatum l) _).trans ?_
    refine (bind_of_eq_some (Faithful.ofDatum?_toDatum a) _).trans ?_
    exact bind_of_eq_some (ofDatum?_toDatum d) _

end ClassDecl

instance : Present ClassDecl where
  fits := ClassDecl.fits
  ofDatum?_toDatum := ClassDecl.ofDatum?_toDatum
  not_nullable := rfl

instance : Present Class where
  fits c :=
    ⟨fits c.id, fits c.doc, fits c.isVirtual, fits c.parameters, fits c.type, fits c.expansion, rfl⟩
  ofDatum?_toDatum c := by
    refine (bind_of_eq_some (ofDatum?_toDatum c.id) _).trans ?_
    refine (bind_of_eq_some (ofDatum?_toDatum c.doc) _).trans ?_
    refine (bind_of_eq_some (ofDatum?_toDatum c.isVirtual) _).trans ?_
    refine (bind_of_eq_some (ofDatum?_toDatum c.parameters) _).trans ?_
    refine (bind_of_eq_some (ofDatum?_toDatum c.type) _).trans ?_
    exact bind_of_eq_some (ofDatum?_toDatum c.expansion) _
  not_nullable := rfl

instance : Present ClassType where
  fits c :=
    ⟨fits c.id, fits c.doc, fits c.isVirtual, fits c.parameters, fits c.expr, fits c.expansion, rfl⟩
  ofDatum?_toDatum c := by
    refine (bind_of_eq_some (ofDatum?_toDatum c.id) _).trans ?_
    refine (bind_of_eq_some (ofDatum?_toDatum c.doc) _).trans ?_
    refine (bind_of_eq_some (ofDatum?_toDatum c.isVirtual) _).trans ?_
    refine (bind_of_eq_some (ofDatum?_toDatum c.parameters) _).trans ?_
    refine (bind_of_eq_some (ofDatum?_toDatum c.expr) _).trans ?_
    exact bind_of_eq_some (ofDatum?_toDatum c.expansion) _
  not_nullable := rfl

/-! ## Signatures -/

instance : Present Recursion where
  fits
    | .ordinary => rfl
    | .recursive => rfl
    | .and => rfl
    | .nonrecursive => rfl
  ofDatum?_toDatum
    | .ordinary => rfl
    | .recursive => rfl
    | .and => rfl
    | .nonrecursive => rfl
  not_nullable := rfl

mutual

theorem ModuleDecl.fits : (d : ModuleDecl) → Fits table (.ref .moduleDecl) (ModuleDecl.toDatum d)
  | .alias p => Faithful.fits p
  | .moduleType t => ModuleTypeExpr.fits t

/-- The empty parameter is null, so it is only where null may stand that a parameter fits. -/
theorem FunctorParameter.fits : (p : FunctorParameter) →
    Fits table (.nullable (.ref .functorParameter)) (FunctorParameter.toDatum p)
  | .unit => rfl
  | .named id t e => ⟨Faithful.fits id, ModuleTypeExpr.fits t, ModuleExpansion.fits e, rfl⟩

theorem FunctorParameter.fitsAll : (ps : List FunctorParameter) →
    FitsList table (.nullable (.ref .functorParameter)) (FunctorParameter.toData ps)
  | [] => trivial
  | p :: ps => ⟨FunctorParameter.fits p, FunctorParameter.fitsAll ps⟩

theorem ModuleExpansion.fits : (e : Option ModuleExpansion) →
    Fits table (.nullable (.ref .moduleExpansion)) (ModuleExpansion.toDatum e)
  | none => rfl
  | some .asDeclared => rfl
  | some (.signature items) => SignatureItem.fitsAll items
  | some (.functor ps items) => ⟨FunctorParameter.fitsAll ps, SignatureItem.fitsAll items, rfl⟩

theorem Substitution.fits : (s : Substitution) →
    Fits table (.ref .substitution) (Substitution.toDatum s)
  | .moduleEq f d => ⟨Faithful.fits f, ModuleDecl.fits d, rfl⟩
  | .typeEq f e => ⟨Faithful.fits f, Faithful.fits e, rfl⟩
  | .moduleSubst f p => ⟨Faithful.fits f, Faithful.fits p, rfl⟩
  | .typeSubst f e => ⟨Faithful.fits f, Faithful.fits e, rfl⟩

theorem Substitution.fitsAll : (ss : List Substitution) →
    FitsList table (.ref .substitution) (Substitution.toData ss)
  | [] => trivial
  | s :: ss => ⟨Substitution.fits s, Substitution.fitsAll ss⟩

theorem ModuleTypeExpr.fits : (t : ModuleTypeExpr) →
    Fits table (.ref .moduleTypeExpr) (ModuleTypeExpr.toDatum t)
  | .path p => Faithful.fits p
  | .signature items => SignatureItem.fitsAll items
  | .functor p t => ⟨FunctorParameter.fits p, ModuleTypeExpr.fits t, rfl⟩
  | .constrained t ss => ⟨ModuleTypeExpr.fits t, Substitution.fitsAll ss, rfl⟩
  | .typeOf d => ModuleDecl.fits d

theorem ModuleTypeExpr.optionFits : (t : Option ModuleTypeExpr) →
    Fits table (.nullable (.ref .moduleTypeExpr)) (ModuleTypeExpr.optionToDatum t)
  | none => rfl
  | some t => (ModuleTypeExpr.fits t).nullable

theorem SignatureItem.fits : (i : SignatureItem) →
    Fits table (.ref .signatureItem) (SignatureItem.toDatum i)
  | .module r id doc d e =>
    ⟨Faithful.fits r,
      ⟨Faithful.fits id, Faithful.fits doc, ModuleDecl.fits d, ModuleExpansion.fits e, rfl⟩, rfl⟩
  | .moduleType id doc t e =>
    ⟨Faithful.fits id, Faithful.fits doc, ModuleTypeExpr.optionFits t, ModuleExpansion.fits e, rfl⟩
  | .moduleSubstitution id doc p =>
    ⟨Faithful.fits id, Faithful.fits doc, Faithful.fits p, rfl⟩
  | .type r t => ⟨Faithful.fits r, Faithful.fits t, rfl⟩
  | .typeSubstitution t => Faithful.fits t
  | .extension e => Faithful.fits e
  | .exception e => Faithful.fits e
  | .value v => Faithful.fits v
  | .external e => Faithful.fits e
  | .class r c => ⟨Faithful.fits r, Faithful.fits c, rfl⟩
  | .classType r c => ⟨Faithful.fits r, Faithful.fits c, rfl⟩
  | .include p doc d items =>
    ⟨Faithful.fits p, Faithful.fits doc, ModuleDecl.fits d, SignatureItem.fitsAll items, rfl⟩
  | .comment c => Faithful.fits c

theorem SignatureItem.fitsAll : (is : List SignatureItem) →
    FitsList table (.ref .signatureItem) (SignatureItem.toData is)
  | [] => trivial
  | i :: is => ⟨SignatureItem.fits i, SignatureItem.fitsAll is⟩

end

theorem ModuleTypeExpr.toDatum_ne_null (t : ModuleTypeExpr) : ModuleTypeExpr.toDatum t ≠ .null := by
  cases t <;> nofun

/-- A module type that is there is not taken for a missing one. -/
theorem SignatureItem.ofDatum?_moduleType {id doc type expansion : Datum} (h : type ≠ .null) :
    SignatureItem.ofDatum? (.variant "module_type" (.list [id, doc, type, expansion])) = do
      return .moduleType (← Exchanged.ofDatum? id) (← Exchanged.ofDatum? doc)
        (some (← ModuleTypeExpr.ofDatum? type)) (← ModuleExpansion.ofDatum? expansion) := by
  cases type with
  | null => exact absurd rfl h
  | _ => rfl

mutual

theorem ModuleDecl.ofDatum?_toDatum : (d : ModuleDecl) →
    ModuleDecl.ofDatum? (ModuleDecl.toDatum d) = some d
  | .alias p => map_of_eq_some (Faithful.ofDatum?_toDatum p) _
  | .moduleType t => map_of_eq_some (ModuleTypeExpr.ofDatum?_toDatum t) _

theorem FunctorParameter.ofDatum?_toDatum : (p : FunctorParameter) →
    FunctorParameter.ofDatum? (FunctorParameter.toDatum p) = some p
  | .unit => rfl
  | .named id t e => by
    refine (bind_of_eq_some (Faithful.ofDatum?_toDatum id) _).trans ?_
    refine (bind_of_eq_some (ModuleTypeExpr.ofDatum?_toDatum t) _).trans ?_
    exact bind_of_eq_some (ModuleExpansion.ofDatum?_toDatum e) _

theorem FunctorParameter.ofData?_toData : (ps : List FunctorParameter) →
    FunctorParameter.ofData? (FunctorParameter.toData ps) = some ps
  | [] => rfl
  | p :: ps => by
    refine (bind_of_eq_some (FunctorParameter.ofDatum?_toDatum p) _).trans ?_
    exact bind_of_eq_some (FunctorParameter.ofData?_toData ps) _

theorem ModuleExpansion.ofDatum?_toDatum : (e : Option ModuleExpansion) →
    ModuleExpansion.ofDatum? (ModuleExpansion.toDatum e) = some e
  | none => rfl
  | some .asDeclared => rfl
  | some (.signature items) => bind_of_eq_some (SignatureItem.ofData?_toData items) _
  | some (.functor ps items) => by
    refine (bind_of_eq_some (FunctorParameter.ofData?_toData ps) _).trans ?_
    exact bind_of_eq_some (SignatureItem.ofData?_toData items) _

theorem Substitution.ofDatum?_toDatum : (s : Substitution) →
    Substitution.ofDatum? (Substitution.toDatum s) = some s
  | .moduleEq f d => by
    refine (bind_of_eq_some (Faithful.ofDatum?_toDatum f) _).trans ?_
    exact bind_of_eq_some (ModuleDecl.ofDatum?_toDatum d) _
  | .typeEq f e => by
    refine (bind_of_eq_some (Faithful.ofDatum?_toDatum f) _).trans ?_
    exact bind_of_eq_some (Faithful.ofDatum?_toDatum e) _
  | .moduleSubst f p => by
    refine (bind_of_eq_some (Faithful.ofDatum?_toDatum f) _).trans ?_
    exact bind_of_eq_some (Faithful.ofDatum?_toDatum p) _
  | .typeSubst f e => by
    refine (bind_of_eq_some (Faithful.ofDatum?_toDatum f) _).trans ?_
    exact bind_of_eq_some (Faithful.ofDatum?_toDatum e) _

theorem Substitution.ofData?_toData : (ss : List Substitution) →
    Substitution.ofData? (Substitution.toData ss) = some ss
  | [] => rfl
  | s :: ss => by
    refine (bind_of_eq_some (Substitution.ofDatum?_toDatum s) _).trans ?_
    exact bind_of_eq_some (Substitution.ofData?_toData ss) _

theorem ModuleTypeExpr.ofDatum?_toDatum : (t : ModuleTypeExpr) →
    ModuleTypeExpr.ofDatum? (ModuleTypeExpr.toDatum t) = some t
  | .path p => map_of_eq_some (Faithful.ofDatum?_toDatum p) _
  | .signature items => map_of_eq_some (SignatureItem.ofData?_toData items) _
  | .functor p t => by
    refine (bind_of_eq_some (FunctorParameter.ofDatum?_toDatum p) _).trans ?_
    exact bind_of_eq_some (ModuleTypeExpr.ofDatum?_toDatum t) _
  | .constrained t ss => by
    refine (bind_of_eq_some (ModuleTypeExpr.ofDatum?_toDatum t) _).trans ?_
    exact bind_of_eq_some (Substitution.ofData?_toData ss) _
  | .typeOf d => map_of_eq_some (ModuleDecl.ofDatum?_toDatum d) _

theorem SignatureItem.ofDatum?_toDatum : (i : SignatureItem) →
    SignatureItem.ofDatum? (SignatureItem.toDatum i) = some i
  | .module r id doc d e => by
    refine (bind_of_eq_some (Faithful.ofDatum?_toDatum r) _).trans ?_
    refine (bind_of_eq_some (Faithful.ofDatum?_toDatum id) _).trans ?_
    refine (bind_of_eq_some (Faithful.ofDatum?_toDatum doc) _).trans ?_
    refine (bind_of_eq_some (ModuleDecl.ofDatum?_toDatum d) _).trans ?_
    exact bind_of_eq_some (ModuleExpansion.ofDatum?_toDatum e) _
  | .moduleType id doc none e => by
    refine (bind_of_eq_some (Faithful.ofDatum?_toDatum id) _).trans ?_
    refine (bind_of_eq_some (Faithful.ofDatum?_toDatum doc) _).trans ?_
    exact bind_of_eq_some (ModuleExpansion.ofDatum?_toDatum e) _
  | .moduleType id doc (some t) e => by
    refine (SignatureItem.ofDatum?_moduleType (ModuleTypeExpr.toDatum_ne_null t)).trans ?_
    refine (bind_of_eq_some (Faithful.ofDatum?_toDatum id) _).trans ?_
    refine (bind_of_eq_some (Faithful.ofDatum?_toDatum doc) _).trans ?_
    refine (bind_of_eq_some (ModuleTypeExpr.ofDatum?_toDatum t) _).trans ?_
    exact bind_of_eq_some (ModuleExpansion.ofDatum?_toDatum e) _
  | .moduleSubstitution id doc p => by
    refine (bind_of_eq_some (Faithful.ofDatum?_toDatum id) _).trans ?_
    refine (bind_of_eq_some (Faithful.ofDatum?_toDatum doc) _).trans ?_
    exact bind_of_eq_some (Faithful.ofDatum?_toDatum p) _
  | .type r t => by
    refine (bind_of_eq_some (Faithful.ofDatum?_toDatum r) _).trans ?_
    exact bind_of_eq_some (Faithful.ofDatum?_toDatum t) _
  | .typeSubstitution t => map_of_eq_some (Faithful.ofDatum?_toDatum t) _
  | .extension e => map_of_eq_some (Faithful.ofDatum?_toDatum e) _
  | .exception e => map_of_eq_some (Faithful.ofDatum?_toDatum e) _
  | .value v => map_of_eq_some (Faithful.ofDatum?_toDatum v) _
  | .external e => map_of_eq_some (Faithful.ofDatum?_toDatum e) _
  | .class r c => by
    refine (bind_of_eq_some (Faithful.ofDatum?_toDatum r) _).trans ?_
    exact bind_of_eq_some (Faithful.ofDatum?_toDatum c) _
  | .classType r c => by
    refine (bind_of_eq_some (Faithful.ofDatum?_toDatum r) _).trans ?_
    exact bind_of_eq_some (Faithful.ofDatum?_toDatum c) _
  | .include p doc d items => by
    refine (bind_of_eq_some (Faithful.ofDatum?_toDatum p) _).trans ?_
    refine (bind_of_eq_some (Faithful.ofDatum?_toDatum doc) _).trans ?_
    refine (bind_of_eq_some (ModuleDecl.ofDatum?_toDatum d) _).trans ?_
    exact bind_of_eq_some (SignatureItem.ofData?_toData items) _
  | .comment c => map_of_eq_some (Faithful.ofDatum?_toDatum c) _

theorem SignatureItem.ofData?_toData : (is : List SignatureItem) →
    SignatureItem.ofData? (SignatureItem.toData is) = some is
  | [] => rfl
  | i :: is => by
    refine (bind_of_eq_some (SignatureItem.ofDatum?_toDatum i) _).trans ?_
    exact bind_of_eq_some (SignatureItem.ofData?_toData is) _

end

instance : Present ModuleTypeExpr where
  fits := ModuleTypeExpr.fits
  ofDatum?_toDatum := ModuleTypeExpr.ofDatum?_toDatum
  not_nullable := rfl

instance : Present SignatureItem where
  fits := SignatureItem.fits
  ofDatum?_toDatum := SignatureItem.ofDatum?_toDatum
  not_nullable := rfl

/-! ## Roots -/

instance : Present PackedModule where
  fits p := ⟨fits p.id, fits p.path, rfl⟩
  ofDatum?_toDatum p := by
    refine (bind_of_eq_some (ofDatum?_toDatum p.id) _).trans ?_
    exact bind_of_eq_some (ofDatum?_toDatum p.path) _
  not_nullable := rfl

instance : Present UnitContent where
  fits
    | .module items => fits items
    | .pack ms => fits ms
  ofDatum?_toDatum
    | .module items => map_of_eq_some (ofDatum?_toDatum items) _
    | .pack ms => map_of_eq_some (ofDatum?_toDatum ms) _
  not_nullable := rfl

instance : Present CompilationUnit where
  fits u := ⟨fits u.id, fits u.doc, fits u.content, rfl⟩
  ofDatum?_toDatum u := by
    refine (bind_of_eq_some (ofDatum?_toDatum u.id) _).trans ?_
    refine (bind_of_eq_some (ofDatum?_toDatum u.doc) _).trans ?_
    exact bind_of_eq_some (ofDatum?_toDatum u.content) _
  not_nullable := rfl

instance : Present DocPage where
  fits p := ⟨fits p.id, fits p.content, rfl⟩
  ofDatum?_toDatum p := by
    refine (bind_of_eq_some (ofDatum?_toDatum p.id) _).trans ?_
    exact bind_of_eq_some (ofDatum?_toDatum p.content) _
  not_nullable := rfl

instance : Present Root where
  fits
    | .unit u => fits u
    | .page p => fits p
  ofDatum?_toDatum
    | .unit u => map_of_eq_some (ofDatum?_toDatum u) _
    | .page p => map_of_eq_some (ofDatum?_toDatum p) _
  not_nullable := rfl

/-! ## Files -/

/-- What a value of a faithful type is written as is read back if it is not too deep. -/
theorem decode_encode {α : Type} [Exchanged α] [Faithful α]
    (htidy : (Exchanged.slot α).tidy = true) (a : α) :
    decode (encode a) = within (encode a).nesting nestingLimit a := by
  have hread : read table nestingLimit (Exchanged.slot α) (encode a) =
      within (encode a).nesting nestingLimit (toDatum a) :=
    read_write tidy_table (toDatum a) _ htidy (fits a) nestingLimit
  rw [decode, hread, within_bind, ofDatum?_toDatum]
  rfl

end DocSite.Exchange

namespace DocSite.Root

open Exchange

theorem plain_encode (r : Root) : (encode r).Plain := plain_write table (toDatum r) _

theorem deepest_save (r : Root) : Json.deepest r.save = (encode r).nesting :=
  Json.deepest_print (plain_encode r)

/-- What the file of a root is loaded as, whether or not the root passes the check. -/
theorem load_save_eq (r : Root) :
    load r.save = if Json.deepest r.save ≤ 127 then r.check.mapError .wrongKind
      else .error .malformed := by
  have hparse : Json.parse r.save = some (encode r) := Json.parse_print (plain_encode r)
  have hdecode : (decode (encode r) : Option Root) =
      if Json.deepest r.save ≤ 127 then some r else none := by
    rw [deepest_save]
    exact decode_encode rfl r
  rw [load, hparse, Option.bind_some, hdecode]
  by_cases h : Json.deepest r.save ≤ 127
  · rw [if_pos h, if_pos h]
  · rw [if_neg h, if_neg h]

/-- **A saved root is loaded again.**  A root that passes the check is got back from its own file if
no more than 127 brackets are open at once in the text, and otherwise the file is malformed. -/
theorem load_save {r : Root} (h : r.check = .ok r) :
    (Json.deepest r.save ≤ 127 → load r.save = .ok r) ∧
      (127 < Json.deepest r.save → load r.save = .error .malformed) := by
  refine ⟨fun hshallow => ?_, fun hdeep => ?_⟩
  · rw [load_save_eq, if_pos hshallow, h]
    rfl
  · rw [load_save_eq, if_neg (Nat.not_le.2 hdeep)]

/-- An identifier with a number of others around it. -/
def nestedId : Nat → Identifier
  | 0 => .top .page "\"[\x7b\u0001é"
  | n + 1 => .child (nestedId n) .page "]"

/-- A page that opens three brackets more than its identifier has others around it. -/
def nestedPage (n : Nat) : Root := .page ⟨nestedId n, []⟩

theorem load_save_nestedPage :
    ((nestedPage 124).check = .ok (nestedPage 124) ∧
      load (nestedPage 124).save = .ok (nestedPage 124)) ∧
    (nestedPage 125).check = .ok (nestedPage 125) ∧
      load (nestedPage 125).save = .error .malformed := by
  refine ⟨⟨rfl, (load_save rfl).1 ?_⟩, rfl, (load_save rfl).2 ?_⟩
  · rw [deepest_save]
    decide +kernel
  · rw [deepest_save]
    decide +kernel

end DocSite.Root
