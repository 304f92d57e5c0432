import DocSite.Proofs.Nodes
import DocSite.Proofs.PageTree

/-!
# Declarations and where they stand

An include is no place of its own: what it includes stands on the page of the include, however deep
includes are nested.  `SignatureItem.standingAll` lists the items that stand on a page in this
sense, and `SignatureItem.shown_of_standing` says that each of them is shown there, its nodes being
among the nodes of the page.  So what has to be known of all items of a page can be checked one item
at a time, and no later proof recurses into includes again.

A topic declares the items that stand on its page and, in tables inside them, constructors and
fields.  Each `Declaration` comes with the identifier it should be a child of; a unit is *well
scoped* if every declaration is.
-/

namespace DocSite

/-! ## The nodes of a page -/

theorem includeBody_allNodes_subset (cfg : Settings) (doc : Docs) (head : Markup × Markup)
    (inner : Content) :
    Markup.allNodes inner.body ⊆ Markup.allNodes (includeBody cfg doc head inner).body := by
  intro n hn
  simp [includeBody, Markup.block, Markup.allNodes, Node.allNodes, hn]

theorem functorBody_parameters_subset (parameters result : Content) :
    Markup.allNodes parameters.body ⊆ Markup.allNodes (functorBody parameters result).body := by
  intro n hn
  simp [functorBody, Markup.allNodes, Node.allNodes, hn]

theorem functorBody_result_subset (parameters result : Content) :
    Markup.allNodes result.body ⊆ Markup.allNodes (functorBody parameters result).body := by
  intro n hn
  simp [functorBody, Markup.allNodes, Node.allNodes, hn]

namespace Content

@[simp] theorem body_append (a b : Content) : (a ++ b).body = a.body ++ b.body := rfl

@[simp] theorem body_ofNode (node : Node) : (ofNode node).body = [node] := rfl

end Content

/-! ## Items that stand on a page -/

mutual

/-- The items that stand on the page of a signature, in order.  Those of an include stand where the
include stands. -/
def SignatureItem.standingAll : List SignatureItem → List SignatureItem
  | [] => []
  | item :: items => item.standing ++ SignatureItem.standingAll items

@[inherit_doc SignatureItem.standingAll]
def SignatureItem.standing : SignatureItem → List SignatureItem
  | .include _ _ _ expansion => SignatureItem.standingAll expansion
  | item => [item]

end

mutual

/-- Every item that stands on a page is shown there. -/
theorem SignatureItem.shown_of_standingAll {here : Here} {item : SignatureItem} :
    ∀ {items : List SignatureItem} {visibility : Visibility} {c : Content} {ns : List Note},
      item ∈ SignatureItem.standingAll items →
      (SignatureItem.shownAll here visibility items).Gives c ns →
      ∃ v c' ns', (item.shown here v).Gives c' ns' ∧
        Markup.allNodes c'.body ⊆ Markup.allNodes c.body
  | [], _, _, _, h, _ => by simp [SignatureItem.standingAll] at h
  | first :: items, visibility, c, ns, h, hc => by
    rw [SignatureItem.shownAll, Checked.gives_bind] at hc
    obtain ⟨a, n₁, n₂, ha, hrest, rfl⟩ := hc
    obtain ⟨b, hb, rfl⟩ := Checked.gives_map.mp hrest
    rw [SignatureItem.standingAll, List.mem_append] at h
    rcases h with h | h
    · obtain ⟨v, c', ns', hitem, hsub⟩ := SignatureItem.shown_of_standing h ha
      exact ⟨v, c', ns', hitem, List.Subset.trans hsub (by simp)⟩
    · obtain ⟨v, c', ns', hitem, hsub⟩ := SignatureItem.shown_of_standingAll h hb
      exact ⟨v, c', ns', hitem, List.Subset.trans hsub (by simp)⟩

@[inherit_doc SignatureItem.shown_of_standingAll]
theorem SignatureItem.shown_of_standing {here : Here} {item : SignatureItem} :
    ∀ {first : SignatureItem} {visibility : Visibility} {c : Content} {ns : List Note},
      item ∈ first.standing → (first.shown here visibility).Gives c ns →
      ∃ v c' ns', (item.shown here v).Gives c' ns' ∧
        Markup.allNodes c'.body ⊆ Markup.allNodes c.body
  | .include parent doc decl expansion, visibility, c, ns, h, hc => by
    rw [SignatureItem.standing] at h
    rw [SignatureItem.shown] at hc
    split at hc
    · exact SignatureItem.shown_of_standingAll h hc
    · obtain ⟨head, n₁, n₂, -, hrest, rfl⟩ := Checked.gives_bind.mp hc
      obtain ⟨inner, hinner, rfl⟩ := Checked.gives_map.mp hrest
      obtain ⟨v, c', ns', hitem, hsub⟩ := SignatureItem.shown_of_standingAll h hinner
      exact ⟨v, c', ns', hitem, List.Subset.trans hsub (includeBody_allNodes_subset ..)⟩
  | .module .., visibility, c, ns, h, hc | .moduleType .., visibility, c, ns, h, hc
  | .moduleSubstitution .., visibility, c, ns, h, hc | .type .., visibility, c, ns, h, hc
  | .typeSubstitution .., visibility, c, ns, h, hc | .extension .., visibility, c, ns, h, hc
  | .exception .., visibility, c, ns, h, hc | .value .., visibility, c, ns, h, hc
  | .external .., visibility, c, ns, h, hc | .class .., visibility, c, ns, h, hc
  | .classType .., visibility, c, ns, h, hc | .comment .., visibility, c, ns, h, hc => by
    simp only [SignatureItem.standing, List.mem_singleton] at h
    subst h
    exact ⟨visibility, c, ns, hc, List.Subset.refl _⟩

end

mutual

/-- What stands on a page is no include. -/
theorem SignatureItem.ne_include_of_standingAll {item : SignatureItem} :
    ∀ {items : List SignatureItem}, item ∈ SignatureItem.standingAll items →
      ∀ parent doc decl expansion, item ≠ .include parent doc decl expansion
  | [], h => by simp [SignatureItem.standingAll] at h
  | first :: items, h => by
    rw [SignatureItem.standingAll, List.mem_append] at h
    rcases h with h | h
    · exact SignatureItem.ne_include_of_standing h
    · exact SignatureItem.ne_include_of_standingAll h

@[inherit_doc SignatureItem.ne_include_of_standingAll]
theorem SignatureItem.ne_include_of_standing {item : SignatureItem} :
    ∀ {first : SignatureItem}, item ∈ first.standing →
      ∀ parent doc decl expansion, item ≠ .include parent doc decl expansion
  | .include _ _ _ expansion, h => SignatureItem.ne_include_of_standingAll h
  | .module .., h | .moduleType .., h | .moduleSubstitution .., h | .type .., h
  | .typeSubstitution .., h | .extension .., h | .exception .., h | .value .., h
  | .external .., h | .class .., h | .classType .., h | .comment .., h => by
    simp only [SignatureItem.standing, List.mem_singleton] at h
    simp [h]

end

mutual

/-- The pages below a page are those of the items that stand on it. -/
theorem SignatureItem.outlinesAll_eq_flatMap : ∀ items : List SignatureItem,
    SignatureItem.outlinesAll items =
      (SignatureItem.standingAll items).flatMap SignatureItem.outlines
  | [] => rfl
  | item :: items => by
    rw [SignatureItem.outlinesAll, SignatureItem.standingAll, List.flatMap_append,
      SignatureItem.outlines_eq_flatMap item, SignatureItem.outlinesAll_eq_flatMap items]

@[inherit_doc SignatureItem.outlinesAll_eq_flatMap]
theorem SignatureItem.outlines_eq_flatMap : ∀ item : SignatureItem,
    item.outlines = item.standing.flatMap SignatureItem.outlines
  | .include _ _ _ expansion => by
    rw [SignatureItem.outlines, SignatureItem.standing,
      SignatureItem.outlinesAll_eq_flatMap expansion]
  | .module .. | .moduleType .. | .moduleSubstitution .. | .type .. | .typeSubstitution ..
  | .extension .. | .exception .. | .value .. | .external .. | .class .. | .classType ..
  | .comment .. => by simp [SignatureItem.standing]

end

/-! ## Declarations -/

/-- Something that is declared: what it should be declared in and as what, and whether it carries an
expansion and so has a page of its own. -/
structure Declaration where
  id : Identifier
  owner : Identifier
  kind : Kind
  hasPage : Bool := false
  deriving DecidableEq

namespace Declaration

/-- The identifier is the child of what the declaration stands in, and of the right kind. -/
def Proper (d : Declaration) : Prop := d.id = .child d.owner d.kind d.id.name

instance (d : Declaration) : Decidable d.Proper :=
  inferInstanceAs (Decidable (d.id = .child d.owner d.kind d.id.name))

theorem Proper.kind {d : Declaration} (h : d.Proper) : d.id.kind = d.kind := by
  rw [h]
  rfl

end Declaration

/-- What an item declares in the signature of `owner`.  An extension declares its constructors. -/
def SignatureItem.declarations (owner : Identifier) : SignatureItem → List Declaration
  | .module _ id _ _ expansion => [{ id, owner, kind := .module, hasPage := expansion.isSome }]
  | .moduleType id _ _ expansion =>
    [{ id, owner, kind := .moduleType, hasPage := expansion.isSome }]
  | .moduleSubstitution id _ _ => [{ id, owner, kind := .module }]
  | .type _ decl | .typeSubstitution decl => [{ id := decl.id, owner, kind := .type }]
  | .extension e => e.constructors.map fun c => { id := c.id, owner, kind := .extension }
  | .exception e => [{ id := e.id, owner, kind := .exception }]
  | .value v => [{ id := v.id, owner, kind := .value }]
  | .external e => [{ id := e.id, owner, kind := .value }]
  | .class _ c => [{ id := c.id, owner, kind := .class, hasPage := c.expansion.isSome }]
  | .classType _ c => [{ id := c.id, owner, kind := .classType, hasPage := c.expansion.isSome }]
  | .include .. | .comment _ => []

/-- The parameters that a functor declares, from a position on. -/
def FunctorParameter.declarationsAll (owner : Identifier) (position : Nat) :
    List FunctorParameter → List Declaration
  | [] => []
  | .unit :: parameters => FunctorParameter.declarationsAll owner (position + 1) parameters
  | .named id _ expansion :: parameters =>
    { id, owner, kind := .argument (.ofNat position), hasPage := expansion.isSome } ::
      FunctorParameter.declarationsAll owner (position + 1) parameters

/-- What a member of a class declares. -/
def ClassItem.declarations (owner : Identifier) : ClassItem → List Declaration
  | .method m => [{ id := m.id, owner, kind := .method }]
  | .instanceVariable v => [{ id := v.id, owner, kind := .instanceVariable }]
  | .constraint .. | .inherit _ | .comment _ => []

/-- What the page about a subject declares, for the subject of `owner`. -/
def Subject.declarations (owner : Identifier) : Subject → List Declaration
  | .signature items =>
    (SignatureItem.standingAll items).flatMap (SignatureItem.declarations owner)
  | .functor parameters result =>
    FunctorParameter.declarationsAll owner 1 parameters ++
      (SignatureItem.standingAll result).flatMap (SignatureItem.declarations owner)
  | .members items => items.flatMap (ClassItem.declarations owner)
  | .pack modules => modules.map fun m => { id := m.id, owner, kind := .module }
  | .text _ => []

/-- What the page about a topic declares. -/
def Topic.declarations (t : Topic) : List Declaration := t.subject.declarations t.id

/-! ## Rows -/

/-- The fields of a record, which belong to a type or to what is declared like a constructor. -/
def Field.declarations (owner : Identifier) (fields : List Field) : List Declaration :=
  fields.map fun f => { id := f.id, owner, kind := .field }

/-- The fields of a constructor whose arguments are a record. -/
def Constructor.fieldDeclarations (c : Constructor) : List Declaration :=
  match c.arguments with
  | .tuple _ => []
  | .record fields => Field.declarations c.id fields

/-- The constructors and fields of a type. -/
def TypeDecl.rowDeclarations (d : TypeDecl) : List Declaration :=
  match d.representation with
  | some (.variant constructors) =>
    constructors.flatMap fun c =>
      { id := c.id, owner := d.id, kind := .constructor } :: c.fieldDeclarations
  | some (.record fields) => Field.declarations d.id fields
  | some .extensible | none => []

/-- What an item declares in its tables.  The constructors of an extension are declared by the
extension itself. -/
def SignatureItem.rowDeclarations : SignatureItem → List Declaration
  | .type _ decl | .typeSubstitution decl => decl.rowDeclarations
  | .extension e => e.constructors.flatMap Constructor.fieldDeclarations
  | .exception e => e.fieldDeclarations
  | _ => []

/-- The constructors and fields in the tables of a page. -/
def Subject.rowDeclarations : Subject → List Declaration
  | .signature items | .functor _ items =>
    (SignatureItem.standingAll items).flatMap SignatureItem.rowDeclarations
  | .members _ | .pack _ | .text _ => []

/-! ## Well scoped units -/

/-- Every declaration of the unit, on whatever page it stands, is a child of what that page is
about, and of the kind of its item; the unit itself is a root. -/
structure CompilationUnit.WellScoped (u : CompilationUnit) : Prop where
  root : u.id.kind = .root
  proper : ∀ o ∈ (Root.unit u).outline.nodes, ∀ d ∈ o.topic.declarations, d.Proper

/-- The unit is well scoped, and so are the constructors and fields in its tables. -/
structure CompilationUnit.FullyScoped (u : CompilationUnit) : Prop extends u.WellScoped where
  rows : ∀ o ∈ (Root.unit u).outline.nodes, ∀ d ∈ o.topic.subject.rowDeclarations, d.Proper

end DocSite
