import DocSite.Render.Root

/-!
# Checkpoints of an interface

An interface can contradict itself at four sorts of points: an expansion that reuses the declared
type, a named parameter of a functor, a type that is to be replaced, and a class type that is
inherited.  Rendering comes to these checkpoints in a fixed order and stops at the first that is not
sound.  This file lists them in that order, each with the page on which it is met, and reads nothing
but the interface.

Where the list stops matters as much as what it holds.  A signature that is written out as a type is
shown as `sig ... end`, so its items are not looked at unless an expansion reuses them; of a functor
type only the types are shown, so the identifier and the expansion of its parameter are not looked
at; an include that is spliced in does not show what it includes; and an object type is shown as
`object ... end`.  `Root.trimmed` is the root with all of this cut off, and
`Root.checkpoints_trimmed` says that it has the same checkpoints.
-/

namespace DocSite

/-- Something that rendering looks at and that may contradict the rest of the interface. -/
inductive Checkpoint where
  /-- An expansion that says to read the declared type, and whether that type is a signature. -/
  | asDeclared (id : Identifier) (declaresSignature : Bool)
  /-- A named parameter of a functor, with its position counted from one. -/
  | parameter (position : Nat) (id : Identifier)
  /-- A type that is to be replaced. -/
  | replaced (fragment : Fragment) (equation : TypeEquation)
  /-- A class type that is inherited. -/
  | inherited (type : ClassTypeExpr)

namespace Checkpoint

/-- The checkpoint agrees with the rest of the interface. -/
def Sound : Checkpoint → Prop
  | asDeclared _ declaresSignature => declaresSignature
  | parameter position id => ∃ claimed, id.kind = .argument claimed ∧ claimed.toNat = position
  | replaced _ equation => equation.manifest.isSome
  | inherited type => ∃ path arguments, type = .constr path arguments

/-- What is wrong with the checkpoint if it is not sound. -/
def fault : Checkpoint → Fault
  | asDeclared id _ => .notASignature id
  | parameter position id =>
    match id.kind with
    | .argument claimed => .misplacedArgument id position claimed
    | _ => .notAnArgument id
  | replaced fragment _ => .missingManifest fragment
  | inherited _ => .inlineInheritance

theorem sound_inherited_constr (path : Path) (arguments : List TypeExpr) :
    (inherited (.constr path arguments)).Sound :=
  ⟨path, arguments, rfl⟩

theorem not_sound_inherited_signature (self : Option TypeExpr) (items : List ClassItem) :
    ¬ (inherited (.signature self items)).Sound := by
  rintro ⟨path, arguments, h⟩
  cases h

theorem sound_parameter_iff {position : Nat} {id : Identifier} {claimed : UInt64}
    (h : id.kind = .argument claimed) :
    (parameter position id).Sound ↔ claimed.toNat = position := by
  constructor
  · rintro ⟨claimed', h', hpos⟩
    rw [h] at h'
    cases h'
    exact hpos
  · intro hpos
    exact ⟨claimed, h, hpos⟩

theorem not_sound_parameter {position : Nat} {id : Identifier}
    (h : ∀ claimed, id.kind ≠ .argument claimed) : ¬ (parameter position id).Sound := by
  rintro ⟨claimed, hkind, -⟩
  exact h claimed hkind

instance : DecidablePred Sound
  | asDeclared _ declaresSignature => inferInstanceAs (Decidable (declaresSignature = true))
  | parameter position id =>
    match hkind : id.kind with
    | .argument claimed => decidable_of_iff _ (sound_parameter_iff hkind).symm
    | .root | .page | .module | .moduleType | .type | .coreType | .constructor | .field
    | .extension | .exception | .coreException | .value | .class | .classType | .method
    | .instanceVariable =>
      isFalse (not_sound_parameter fun claimed h => by rw [hkind] at h; cases h)
  | replaced _ equation => inferInstanceAs (Decidable (equation.manifest.isSome = true))
  | inherited (.constr path arguments) => isTrue (sound_inherited_constr path arguments)
  | inherited (.signature self items) => isFalse (not_sound_inherited_signature self items)

/-- No checkpoint is at fault with the pages themselves: those faults are not in the interface. -/
theorem fault_ne_scope (point : Checkpoint) (error : ScopeError) : point.fault ≠ .scope error := by
  cases point with
  | parameter position id =>
    simp only [fault]
    split <;> simp
  | asDeclared | replaced | inherited => simp [fault]

@[inherit_doc fault_ne_scope]
theorem fault_ne_scopesLeftOpen (point : Checkpoint) (count : Nat) :
    point.fault ≠ .scopesLeftOpen count := by
  cases point with
  | parameter position id =>
    simp only [fault]
    split <;> simp
  | asDeclared | replaced | inherited => simp [fault]

end Checkpoint

/-! ## Checkpoints in a text -/

/-- Whether a module type is a signature written out. -/
def ModuleTypeExpr.isSignature : ModuleTypeExpr → Bool
  | .signature _ => true
  | _ => false

@[inherit_doc ModuleTypeExpr.isSignature]
def ModuleDecl.isSignature : ModuleDecl → Bool
  | .alias _ => false
  | .moduleType type => type.isSignature

mutual

/-- The types that a module type replaces, in the order in which they are shown. -/
def ModuleTypeExpr.checkpoints : ModuleTypeExpr → List Checkpoint
  | .path _ | .signature _ => []
  | .functor .unit result => result.checkpoints
  | .functor (.named _ type _) result => type.checkpoints ++ result.checkpoints
  | .constrained inner substitutions =>
    inner.checkpoints ++ Substitution.checkpointsAll substitutions
  | .typeOf decl => decl.checkpoints

@[inherit_doc ModuleTypeExpr.checkpoints]
def ModuleDecl.checkpoints : ModuleDecl → List Checkpoint
  | .alias _ => []
  | .moduleType type => type.checkpoints

@[inherit_doc ModuleTypeExpr.checkpoints]
def Substitution.checkpointsAll : List Substitution → List Checkpoint
  | [] => []
  | s :: ss => s.checkpoints ++ Substitution.checkpointsAll ss

@[inherit_doc ModuleTypeExpr.checkpoints]
def Substitution.checkpoints : Substitution → List Checkpoint
  | .moduleEq _ decl => decl.checkpoints
  | .moduleSubst .. | .typeEq .. => []
  | .typeSubst fragment equation => [.replaced fragment equation]

end

/-- The checkpoints of a module type that may be missing. -/
def ModuleTypeExpr.optionCheckpoints : Option ModuleTypeExpr → List Checkpoint
  | none => []
  | some type => type.checkpoints

/-- The class types that the members of a class inherit. -/
def ClassItem.checkpointsAll (items : List ClassItem) : List Checkpoint :=
  items.filterMap fun
    | .inherit type => some (.inherited type)
    | _ => none

/-! ## Checkpoints on pages -/

/-- The checkpoints that a rendering comes to, in order, each with the page on which it is met. -/
abbrev Itinerary := List (PagePath × Checkpoint)

/-- Checkpoints that are all on one page. -/
def Checkpoint.onPage (page : PagePath) (points : List Checkpoint) : Itinerary :=
  points.map (Prod.mk page)

/-- The checkpoints on the page of a class. -/
def ClassSignature.checkpoints (below : PagePath) : Option ClassSignature → Itinerary
  | none => []
  | some sig => Checkpoint.onPage below (ClassItem.checkpointsAll sig.items)

mutual

/-- The checkpoints that rendering comes to while it renders items on a page, in order. -/
def SignatureItem.checkpointsAll (page : PagePath) : List SignatureItem → Itinerary
  | [] => []
  | item :: items => item.checkpoints page ++ SignatureItem.checkpointsAll page items

/-- The checkpoints of one item.  What it is declared as is on the page around it, its expansion on
the page below. -/
def SignatureItem.checkpoints (page : PagePath) : SignatureItem → Itinerary
  | .module _ id _ decl expansion =>
    Checkpoint.onPage page decl.checkpoints ++
      ModuleExpansion.checkpoints page (page ++ [PageKind.module.segment id.name]) id
        decl.isSignature
        (ModuleDecl.reusedCheckpoints (page ++ [PageKind.module.segment id.name]) decl) expansion
  | .moduleType id _ type expansion =>
    Checkpoint.onPage page (ModuleTypeExpr.optionCheckpoints type) ++
      ModuleExpansion.checkpoints page (page ++ [PageKind.moduleType.segment id.name]) id
        (type.any ModuleTypeExpr.isSignature)
        (ModuleTypeExpr.optionReusedCheckpoints (page ++ [PageKind.moduleType.segment id.name])
          type) expansion
  | .class _ c =>
    ClassSignature.checkpoints (page ++ [PageKind.class.segment c.id.name]) c.expansion
  | .classType _ c =>
    ClassSignature.checkpoints (page ++ [PageKind.classType.segment c.id.name]) c.expansion
  | .include _ doc decl expansion =>
    (if doc.hasTag .inline then [] else Checkpoint.onPage page decl.checkpoints) ++
      SignatureItem.checkpointsAll page expansion
  | .moduleSubstitution .. | .type .. | .typeSubstitution .. | .extension .. | .exception ..
  | .value .. | .external .. | .comment .. => []

/-- The checkpoints of an expansion.  Whether the declared type can be reused is noticed on the page
around it; `reused` are then the checkpoints of that type. -/
def ModuleExpansion.checkpoints (page below : PagePath) (id : Identifier) (declaresSignature : Bool)
    (reused : Itinerary) : Option ModuleExpansion → Itinerary
  | none => []
  | some .asDeclared => (page, .asDeclared id declaresSignature) :: reused
  | some (.signature items) => SignatureItem.checkpointsAll below items
  | some (.functor parameters result) =>
    FunctorParameter.checkpointsAll below 1 parameters ++ SignatureItem.checkpointsAll below result

/-- The checkpoints of a declared type that is reused as an expansion. -/
def ModuleDecl.reusedCheckpoints (below : PagePath) : ModuleDecl → Itinerary
  | .moduleType (.signature items) => SignatureItem.checkpointsAll below items
  | _ => []

@[inherit_doc ModuleDecl.reusedCheckpoints]
def ModuleTypeExpr.reusedCheckpoints (below : PagePath) : ModuleTypeExpr → Itinerary
  | .signature items => SignatureItem.checkpointsAll below items
  | _ => []

@[inherit_doc ModuleDecl.reusedCheckpoints]
def ModuleTypeExpr.optionReusedCheckpoints (below : PagePath) :
    Option ModuleTypeExpr → Itinerary
  | some type => ModuleTypeExpr.reusedCheckpoints below type
  | none => []

/-- The checkpoints of functor parameters from a position on.  An empty parameter has none, but it
takes up its position. -/
def FunctorParameter.checkpointsAll (page : PagePath) (position : Nat) :
    List FunctorParameter → Itinerary
  | [] => []
  | .unit :: parameters => FunctorParameter.checkpointsAll page (position + 1) parameters
  | .named id type expansion :: parameters =>
    (Checkpoint.onPage page (.parameter position id :: type.checkpoints) ++
      ModuleExpansion.checkpoints page
        (page ++ [PageKind.argument.segment (parameterPageName position id)]) id type.isSignature
        (ModuleTypeExpr.reusedCheckpoints
          (page ++ [PageKind.argument.segment (parameterPageName position id)]) type) expansion) ++
      FunctorParameter.checkpointsAll page (position + 1) parameters

end

/-- The checkpoints of a unit on its page.  Packed modules have none. -/
def UnitContent.checkpoints (page : PagePath) : UnitContent → Itinerary
  | .module items => SignatureItem.checkpointsAll page items
  | .pack _ => []

/-- The checkpoints of a root whose page lies below `above`. -/
def Root.checkpoints (above : PagePath) : Root → Itinerary
  | .unit u => u.content.checkpoints (above ++ [u.id.name])
  | .page _ => []

/-! ## What has no checkpoint -/

/-- An identifier that stands for any. -/
def Identifier.blank : Identifier := .top .value ""

mutual

/-- A module type as it is shown. -/
def ModuleTypeExpr.trimmed : ModuleTypeExpr → ModuleTypeExpr
  | .path p => .path p
  | .signature _ => .signature []
  | .functor .unit result => .functor .unit result.trimmed
  | .functor (.named _ type _) result =>
    .functor (.named .blank type.trimmed none) result.trimmed
  | .constrained inner substitutions =>
    .constrained inner.trimmed (Substitution.trimmedAll substitutions)
  | .typeOf decl => .typeOf decl.trimmed

@[inherit_doc ModuleTypeExpr.trimmed]
def ModuleDecl.trimmed : ModuleDecl → ModuleDecl
  | .alias p => .alias p
  | .moduleType type => .moduleType type.trimmed

@[inherit_doc ModuleTypeExpr.trimmed]
def Substitution.trimmedAll : List Substitution → List Substitution
  | [] => []
  | s :: ss => s.trimmed :: Substitution.trimmedAll ss

@[inherit_doc ModuleTypeExpr.trimmed]
def Substitution.trimmed : Substitution → Substitution
  | .moduleEq fragment decl => .moduleEq fragment decl.trimmed
  | .moduleSubst fragment path => .moduleSubst fragment path
  | .typeEq fragment equation => .typeEq fragment equation
  | .typeSubst fragment equation => .typeSubst fragment equation

end

/-- A class type as it is shown. -/
def ClassTypeExpr.trimmed : ClassTypeExpr → ClassTypeExpr
  | .constr p ts => .constr p ts
  | .signature _ _ => .signature none []

@[inherit_doc ClassTypeExpr.trimmed]
def ClassDecl.trimmed : ClassDecl → ClassDecl
  | .classType type => .classType type.trimmed
  | .arrow label source target => .arrow label source target.trimmed

/-- Whether an expansion reuses the declared type. -/
def ModuleExpansion.reuses : Option ModuleExpansion → Bool
  | some .asDeclared => true
  | _ => false

mutual

/-- Items without what rendering never looks at. -/
def SignatureItem.trimmedAll : List SignatureItem → List SignatureItem
  | [] => []
  | item :: items => item.trimmed :: SignatureItem.trimmedAll items

@[inherit_doc SignatureItem.trimmedAll]
def SignatureItem.trimmed : SignatureItem → SignatureItem
  | .module recursion id doc decl expansion =>
    .module recursion id doc
      (if ModuleExpansion.reuses expansion then ModuleDecl.trimmedItems decl else decl.trimmed)
      (ModuleExpansion.trimmed expansion)
  | .moduleType id doc type expansion =>
    .moduleType id doc
      (if ModuleExpansion.reuses expansion then ModuleTypeExpr.optionTrimmedItems type
        else type.map ModuleTypeExpr.trimmed)
      (ModuleExpansion.trimmed expansion)
  | .class recursion c => .class recursion { c with type := c.type.trimmed }
  | .classType recursion c => .classType recursion { c with expr := c.expr.trimmed }
  | .include parent doc decl expansion =>
    .include parent doc (if doc.hasTag .inline then .alias (.root "") else decl.trimmed)
      (SignatureItem.trimmedAll expansion)
  | .moduleSubstitution id doc manifest => .moduleSubstitution id doc manifest
  | .type recursion decl => .type recursion decl
  | .typeSubstitution decl => .typeSubstitution decl
  | .extension e => .extension e
  | .exception e => .exception e
  | .value v => .value v
  | .external e => .external e
  | .comment c => .comment c

@[inherit_doc SignatureItem.trimmedAll]
def ModuleExpansion.trimmed : Option ModuleExpansion → Option ModuleExpansion
  | none => none
  | some .asDeclared => some .asDeclared
  | some (.signature items) => some (.signature (SignatureItem.trimmedAll items))
  | some (.functor parameters result) =>
    some (.functor (FunctorParameter.trimmedAll parameters) (SignatureItem.trimmedAll result))

/-- A declared type that is reused keeps its items. -/
def ModuleDecl.trimmedItems : ModuleDecl → ModuleDecl
  | .moduleType (.signature items) => .moduleType (.signature (SignatureItem.trimmedAll items))
  | decl => decl.trimmed

@[inherit_doc ModuleDecl.trimmedItems]
def ModuleTypeExpr.trimmedItems : ModuleTypeExpr → ModuleTypeExpr
  | .signature items => .signature (SignatureItem.trimmedAll items)
  | type => type.trimmed

@[inherit_doc ModuleDecl.trimmedItems]
def ModuleTypeExpr.optionTrimmedItems : Option ModuleTypeExpr → Option ModuleTypeExpr
  | none => none
  | some type => some (ModuleTypeExpr.trimmedItems type)

@[inherit_doc SignatureItem.trimmedAll]
def FunctorParameter.trimmedAll : List FunctorParameter → List FunctorParameter
  | [] => []
  | .unit :: parameters => .unit :: FunctorParameter.trimmedAll parameters
  | .named id type expansion :: parameters =>
    .named id
        (if ModuleExpansion.reuses expansion then ModuleTypeExpr.trimmedItems type
          else type.trimmed)
        (ModuleExpansion.trimmed expansion) ::
      FunctorParameter.trimmedAll parameters

end

@[inherit_doc SignatureItem.trimmedAll]
def UnitContent.trimmed : UnitContent → UnitContent
  | .module items => .module (SignatureItem.trimmedAll items)
  | .pack modules => .pack modules

/-- The root without what rendering never looks at. -/
def Root.trimmed : Root → Root
  | .unit u => .unit { u with content := u.content.trimmed }
  | .page p => .page p

/-! ## Trimming keeps the checkpoints -/

mutual

theorem ModuleTypeExpr.checkpoints_trimmed :
    ∀ type : ModuleTypeExpr, type.trimmed.checkpoints = type.checkpoints
  | .path _ | .signature _ => rfl
  | .functor .unit result => ModuleTypeExpr.checkpoints_trimmed result
  | .functor (.named _ type _) result => by
    have htype := ModuleTypeExpr.checkpoints_trimmed type
    have hresult := ModuleTypeExpr.checkpoints_trimmed result
    simp only [ModuleTypeExpr.trimmed, ModuleTypeExpr.checkpoints, htype, hresult]
  | .constrained inner substitutions => by
    have hinner := ModuleTypeExpr.checkpoints_trimmed inner
    have hsubstitutions := Substitution.checkpointsAll_trimmedAll substitutions
    simp only [ModuleTypeExpr.trimmed, ModuleTypeExpr.checkpoints, hinner, hsubstitutions]
  | .typeOf decl => ModuleDecl.checkpoints_trimmed decl

theorem ModuleDecl.checkpoints_trimmed :
    ∀ decl : ModuleDecl, decl.trimmed.checkpoints = decl.checkpoints
  | .alias _ => rfl
  | .moduleType type => ModuleTypeExpr.checkpoints_trimmed type

theorem Substitution.checkpointsAll_trimmedAll :
    ∀ ss : List Substitution, Substitution.checkpointsAll (Substitution.trimmedAll ss) =
      Substitution.checkpointsAll ss
  | [] => rfl
  | s :: ss => by
    have hs := Substitution.checkpoints_trimmed s
    have hss := Substitution.checkpointsAll_trimmedAll ss
    simp only [Substitution.trimmedAll, Substitution.checkpointsAll, hs, hss]

theorem Substitution.checkpoints_trimmed : ∀ s : Substitution, s.trimmed.checkpoints = s.checkpoints
  | .moduleEq _ decl => ModuleDecl.checkpoints_trimmed decl
  | .moduleSubst .. | .typeEq .. | .typeSubst .. => rfl

end

theorem ModuleTypeExpr.isSignature_trimmed (type : ModuleTypeExpr) :
    type.trimmed.isSignature = type.isSignature := by
  cases type with
  | functor parameter result => cases parameter <;> rfl
  | _ => rfl

/-- A type that keeps its items has the checkpoints of the type as it is shown. -/
theorem ModuleTypeExpr.checkpoints_trimmedItems (type : ModuleTypeExpr) :
    (ModuleTypeExpr.trimmedItems type).checkpoints = type.checkpoints := by
  cases type with
  | signature items => rfl
  | _ => exact ModuleTypeExpr.checkpoints_trimmed _

theorem ModuleTypeExpr.isSignature_trimmedItems (type : ModuleTypeExpr) :
    (ModuleTypeExpr.trimmedItems type).isSignature = type.isSignature := by
  cases type with
  | signature items => rfl
  | _ => exact ModuleTypeExpr.isSignature_trimmed _

/-- To keep the items of a declaration is to keep those of its type. -/
theorem ModuleDecl.trimmedItems_moduleType (type : ModuleTypeExpr) :
    ModuleDecl.trimmedItems (.moduleType type) =
      .moduleType (ModuleTypeExpr.trimmedItems type) := by
  cases type <;> rfl

theorem ModuleDecl.checkpoints_trimmedItems (decl : ModuleDecl) :
    (ModuleDecl.trimmedItems decl).checkpoints = decl.checkpoints := by
  cases decl with
  | «alias» path => rfl
  | moduleType type =>
    rw [ModuleDecl.trimmedItems_moduleType]
    exact ModuleTypeExpr.checkpoints_trimmedItems type

theorem ModuleDecl.isSignature_trimmedItems (decl : ModuleDecl) :
    (ModuleDecl.trimmedItems decl).isSignature = decl.isSignature := by
  cases decl with
  | «alias» path => rfl
  | moduleType type =>
    rw [ModuleDecl.trimmedItems_moduleType]
    exact ModuleTypeExpr.isSignature_trimmedItems type

theorem ModuleTypeExpr.optionCheckpoints_map_trimmed (type : Option ModuleTypeExpr) :
    ModuleTypeExpr.optionCheckpoints (type.map ModuleTypeExpr.trimmed) =
      ModuleTypeExpr.optionCheckpoints type := by
  cases type with
  | none => rfl
  | some type => exact ModuleTypeExpr.checkpoints_trimmed type

theorem ModuleTypeExpr.optionCheckpoints_optionTrimmedItems (type : Option ModuleTypeExpr) :
    ModuleTypeExpr.optionCheckpoints (ModuleTypeExpr.optionTrimmedItems type) =
      ModuleTypeExpr.optionCheckpoints type := by
  cases type with
  | none => rfl
  | some type => exact ModuleTypeExpr.checkpoints_trimmedItems type

theorem ModuleTypeExpr.any_isSignature_optionTrimmedItems (type : Option ModuleTypeExpr) :
    (ModuleTypeExpr.optionTrimmedItems type).any ModuleTypeExpr.isSignature =
      type.any ModuleTypeExpr.isSignature := by
  cases type with
  | none => rfl
  | some type => exact ModuleTypeExpr.isSignature_trimmedItems type

theorem ModuleDecl.reusedCheckpoints_moduleType (below : PagePath) (type : ModuleTypeExpr) :
    ModuleDecl.reusedCheckpoints below (.moduleType type) =
      ModuleTypeExpr.reusedCheckpoints below type := by
  cases type <;> rfl

mutual

/-- Trimming leaves the checkpoints of items as they are, on every page. -/
theorem SignatureItem.checkpointsAll_trimmedAll (page : PagePath) :
    ∀ items : List SignatureItem,
      SignatureItem.checkpointsAll page (SignatureItem.trimmedAll items) =
        SignatureItem.checkpointsAll page items
  | [] => rfl
  | item :: items => by
    have hitem := SignatureItem.checkpoints_trimmed page item
    have hitems := SignatureItem.checkpointsAll_trimmedAll page items
    simp only [SignatureItem.trimmedAll, SignatureItem.checkpointsAll, hitem, hitems]

@[inherit_doc SignatureItem.checkpointsAll_trimmedAll]
theorem SignatureItem.checkpoints_trimmed (page : PagePath) :
    ∀ item : SignatureItem, item.trimmed.checkpoints page = item.checkpoints page
  | .module _ id _ decl expansion => by
    have hreused := ModuleDecl.reusedCheckpoints_trimmedItems
      (page ++ [PageKind.module.segment id.name]) decl
    simp only [SignatureItem.trimmed, SignatureItem.checkpoints]
    by_cases hreuses : ModuleExpansion.reuses expansion = true
    · rw [if_pos hreuses, ModuleDecl.checkpoints_trimmedItems,
        ModuleExpansion.checkpoints_trimmed page _ id expansion fun _ =>
          ⟨ModuleDecl.isSignature_trimmedItems decl, hreused⟩]
    · rw [if_neg hreuses, ModuleDecl.checkpoints_trimmed,
        ModuleExpansion.checkpoints_trimmed page _ id expansion fun h => absurd h hreuses]
  | .moduleType id _ type expansion => by
    have hreused := ModuleTypeExpr.optionReusedCheckpoints_trimmedItems
      (page ++ [PageKind.moduleType.segment id.name]) type
    simp only [SignatureItem.trimmed, SignatureItem.checkpoints]
    by_cases hreuses : ModuleExpansion.reuses expansion = true
    · rw [if_pos hreuses, ModuleTypeExpr.optionCheckpoints_optionTrimmedItems,
        ModuleExpansion.checkpoints_trimmed page _ id expansion fun _ =>
          ⟨ModuleTypeExpr.any_isSignature_optionTrimmedItems type, hreused⟩]
    · rw [if_neg hreuses, ModuleTypeExpr.optionCheckpoints_map_trimmed,
        ModuleExpansion.checkpoints_trimmed page _ id expansion fun h => absurd h hreuses]
  | .class .. | .classType .. => rfl
  | .include _ doc decl expansion => by
    have hitems := SignatureItem.checkpointsAll_trimmedAll page expansion
    simp only [SignatureItem.trimmed, SignatureItem.checkpoints, hitems]
    split
    · rfl
    · rw [ModuleDecl.checkpoints_trimmed]
  | .moduleSubstitution .. | .type .. | .typeSubstitution .. | .extension .. | .exception ..
  | .value .. | .external .. | .comment .. => rfl

/-- An expansion looks at the declared type only if it reuses it. -/
theorem ModuleExpansion.checkpoints_trimmed (page below : PagePath) (id : Identifier)
    {flag flag' : Bool} {reused reused' : Itinerary} :
    ∀ expansion : Option ModuleExpansion,
      (ModuleExpansion.reuses expansion = true → flag' = flag ∧ reused' = reused) →
      ModuleExpansion.checkpoints page below id flag' reused' (ModuleExpansion.trimmed expansion) =
        ModuleExpansion.checkpoints page below id flag reused expansion
  | none, _ => rfl
  | some .asDeclared, h => by
    obtain ⟨rfl, rfl⟩ := h rfl
    rfl
  | some (.signature items), _ => SignatureItem.checkpointsAll_trimmedAll below items
  | some (.functor parameters result), _ => by
    have hparameters := FunctorParameter.checkpointsAll_trimmedAll below 1 parameters
    have hresult := SignatureItem.checkpointsAll_trimmedAll below result
    simp only [ModuleExpansion.trimmed, ModuleExpansion.checkpoints, hparameters, hresult]

theorem ModuleDecl.reusedCheckpoints_trimmedItems (below : PagePath) :
    ∀ decl : ModuleDecl, ModuleDecl.reusedCheckpoints below (ModuleDecl.trimmedItems decl) =
      ModuleDecl.reusedCheckpoints below decl
  | .alias _ => rfl
  | .moduleType type => by
    rw [ModuleDecl.trimmedItems_moduleType, ModuleDecl.reusedCheckpoints_moduleType,
      ModuleDecl.reusedCheckpoints_moduleType]
    exact ModuleTypeExpr.reusedCheckpoints_trimmedItems below type

theorem ModuleTypeExpr.reusedCheckpoints_trimmedItems (below : PagePath) :
    ∀ type : ModuleTypeExpr,
      ModuleTypeExpr.reusedCheckpoints below (ModuleTypeExpr.trimmedItems type) =
        ModuleTypeExpr.reusedCheckpoints below type
  | .signature items => SignatureItem.checkpointsAll_trimmedAll below items
  | .functor .unit _ | .functor (.named ..) _ | .path _ | .constrained .. | .typeOf _ => rfl

theorem ModuleTypeExpr.optionReusedCheckpoints_trimmedItems (below : PagePath) :
    ∀ type : Option ModuleTypeExpr,
      ModuleTypeExpr.optionReusedCheckpoints below (ModuleTypeExpr.optionTrimmedItems type) =
        ModuleTypeExpr.optionReusedCheckpoints below type
  | none => rfl
  | some type => ModuleTypeExpr.reusedCheckpoints_trimmedItems below type

theorem FunctorParameter.checkpointsAll_trimmedAll (page : PagePath) (position : Nat) :
    ∀ parameters : List FunctorParameter,
      FunctorParameter.checkpointsAll page position (FunctorParameter.trimmedAll parameters) =
        FunctorParameter.checkpointsAll page position parameters
  | [] => rfl
  | .unit :: parameters => FunctorParameter.checkpointsAll_trimmedAll page (position + 1) parameters
  | .named id type expansion :: parameters => by
    have hrest := FunctorParameter.checkpointsAll_trimmedAll page (position + 1) parameters
    have hreused := ModuleTypeExpr.reusedCheckpoints_trimmedItems
      (page ++ [PageKind.argument.segment (parameterPageName position id)]) type
    simp only [FunctorParameter.trimmedAll, FunctorParameter.checkpointsAll, hrest]
    by_cases hreuses : ModuleExpansion.reuses expansion = true
    · rw [if_pos hreuses, ModuleTypeExpr.checkpoints_trimmedItems,
        ModuleExpansion.checkpoints_trimmed page _ id expansion fun _ =>
          ⟨ModuleTypeExpr.isSignature_trimmedItems type, hreused⟩]
    · rw [if_neg hreuses, ModuleTypeExpr.checkpoints_trimmed,
        ModuleExpansion.checkpoints_trimmed page _ id expansion fun h => absurd h hreuses]

end

/-- **What is trimmed has no checkpoint.** -/
theorem Root.checkpoints_trimmed (above : PagePath) (r : Root) :
    r.trimmed.checkpoints above = r.checkpoints above := by
  cases r with
  | page p => rfl
  | unit u =>
    obtain ⟨id, doc, content⟩ := u
    cases content with
    | «module» items => exact SignatureItem.checkpointsAll_trimmedAll (above ++ [id.name]) items
    | pack modules => rfl

theorem Root.id_trimmed (r : Root) : r.trimmed.id = r.id := by
  cases r <;> rfl

end DocSite
