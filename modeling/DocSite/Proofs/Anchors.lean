import DocSite.Proofs.Locations

/-!
# Anchors stand where locations say

A declaration is located on a page, at an anchor.  The anchor is read off the chain of its
identifier; the id that it should meet is put on the page by whatever renders the declaration: items
put it on their own node, constructors and fields on their row of a table.

The two halves are proved apart.  `Markup.Anchors` says that a page has the id of a declaration, if
it has one, and this holds of all that is rendered, however its identifiers are scoped.
`Identifier.AnchoredIn` says that an identifier has an anchor and which page it is on, and this is
where scoping comes in.  The chain of a field can be up to three links long: field, constructor,
type, and then what owns the page.
-/

namespace DocSite

/-! ## Ids on a page -/

/-- The ids that a node itself puts on its page: that of a block, or those of the rows of a
table. -/
def Node.ids : Node → List String
  | .div _ id _ => id.toList
  | .table _ rows => rows.filterMap Row.id?
  | _ => []

namespace Markup

/-- The ids of blocks and rows, wherever they stand. -/
def ids (ns : Markup) : List String := (allNodes ns).flatMap Node.ids

/-- The id of the declaration stands on the page, if it has one. -/
def Anchors (d : Declaration) (ns : Markup) : Prop :=
  ∀ anchor, d.id.anchor = .ok anchor → anchor ∈ ids ns

theorem Anchors.mono {d : Declaration} {ns ms : Markup} (h : Anchors d ns)
    (hsub : allNodes ns ⊆ allNodes ms) : Anchors d ms := by
  intro anchor hanchor
  obtain ⟨node, hnode, hid⟩ := List.mem_flatMap.mp (h anchor hanchor)
  exact List.mem_flatMap.mpr ⟨node, hsub hnode, hid⟩

theorem Anchors.left {d : Declaration} {a b : Content} (h : Anchors d a.body) :
    Anchors d (a ++ b).body :=
  h.mono (by simp)

theorem Anchors.right {d : Declaration} {a b : Content} (h : Anchors d b.body) :
    Anchors d (a ++ b).body :=
  h.mono (by simp)

theorem anchors_declaration {d : Declaration} {id : Identifier} (hid : d.id = id) (kind : String)
    (definition doc : Markup) :
    Anchors d [declaration kind id.anchorOrNote.value definition doc] := by
  intro anchor hanchor
  rw [hid] at hanchor
  rw [Identifier.anchorOrNote_value hanchor]
  simp [ids, declaration, block, allNodes, Node.allNodes, Node.ids]

/-- What stands in the definition of a declaration stands on the page. -/
theorem Anchors.declaration {d : Declaration} {definition : Markup} (h : Anchors d definition)
    (kind : String) (anchor : Option String) (doc : Markup) :
    Anchors d [Markup.declaration kind anchor definition doc] := by
  refine h.mono ?_
  have hsub := allNodes_definition_subset kind anchor definition doc
  exact List.Subset.trans hsub (allNodes_subset_of_mem (List.mem_singleton.mpr rfl))

/-! ## Tables and definitions -/

theorem anchors_table {d : Declaration} {rows : List Row} {row : Row} (hrow : row ∈ rows)
    (hid : row.id? = d.id.rowAnchorOrNote.value) (cls : String) :
    Anchors d [.table cls rows] := by
  intro anchor hanchor
  have hvalue : row.id? = some anchor := by
    rw [hid, Identifier.rowAnchorOrNote, hanchor]
    rfl
  refine List.mem_flatMap.mpr ⟨.table cls rows, mem_allNodes_of_mem List.mem_cons_self, ?_⟩
  exact List.mem_filterMap.mpr ⟨row, hrow, hvalue⟩

/-- What stands in a cell of a table stands on the page. -/
theorem Anchors.table {d : Declaration} {rows : List Row} {row : Row} {cell : Cell}
    (h : Anchors d cell.children) (hrow : row ∈ rows) (hcell : cell ∈ row.cells) (cls : String) :
    Anchors d [.table cls rows] := by
  refine h.mono fun n hn => ?_
  have hmem : n ∈ Row.allNodes rows := Row.mem_allNodes.mpr ⟨row, hrow, cell, hcell, hn⟩
  simp [allNodes, Node.allNodes, hmem]

end Markup

/-- What stands in a block of a definition stands in the definition. -/
theorem Markup.Anchors.layout {d : Declaration} {node : Node} {parts : List Definition.Part}
    (h : Markup.Anchors d [node]) (hpart : .block node ∈ parts) :
    Markup.Anchors d (Definition.layout parts) :=
  h.mono (Definition.allNodes_block_subset hpart)

/-! ## Rows -/

/-- A row has its anchor and begins with its definition. -/
theorem Row.ofDefinition_value (here : Here) (anchor : Option String) (kind : String)
    (definition : Markup) (doc : Docs) :
    ∃ rest, (Row.ofDefinition here anchor kind definition doc).value =
      .mk anchor
        (.mk ("def " ++ kind) ((anchor.map Node.anchor).toList ++ definition) :: rest) := by
  rw [Row.ofDefinition]
  split
  · exact ⟨[], rfl⟩
  · exact ⟨_, rfl⟩

namespace Field

theorem row_mem_rows (here : Here) {f : Field} {fields : List Field} (h : f ∈ fields) :
    (f.row here).value ∈ (rows here fields).value :=
  Noted.value_mem_of_each (fun _ _ => rfl) h

/-- The fields of a record are anchored in its table. -/
theorem anchors_record (here : Here) {owner : Identifier} {fields : List Field} {d : Declaration}
    (h : d ∈ Field.declarations owner fields) :
    ∃ node, .block node ∈ (record here fields).value ∧ Markup.Anchors d [node] := by
  obtain ⟨f, hf, rfl⟩ := List.mem_map.mp h
  refine ⟨.table "record" (rows here fields).value, by simp [record], ?_⟩
  refine Markup.anchors_table (row_mem_rows here hf) ?_ "record"
  obtain ⟨rest, hrow⟩ := Row.ofDefinition_value here f.id.rowAnchorOrNote.value f.id.kind.cssClass
    [.code _] f.doc
  exact congrArg Row.id? hrow

end Field

namespace Constructor

theorem row_mem_rows (here : Here) {c : Constructor} {constructors : List Constructor}
    (h : c ∈ constructors) : (c.row here).value ∈ (rows here constructors).value :=
  Noted.value_mem_of_each (fun _ _ => rfl) h

/-- The fields of a constructor are anchored in a table inside its definition. -/
theorem anchors_parts (here : Here) {c : Constructor} {d : Declaration}
    (h : d ∈ c.fieldDeclarations) :
    ∃ node, .block node ∈ (c.parts here).value ∧ Markup.Anchors d [node] := by
  rw [fieldDeclarations] at h
  split at h
  · simp at h
  · rename_i fields harguments
    obtain ⟨node, hnode, hd⟩ := Field.anchors_record here h
    exact ⟨node, by simp [parts, argumentParts, harguments, hnode], hd⟩

theorem row_value (here : Here) (c : Constructor) :
    ∃ rest, (c.row here).value = .mk c.id.rowAnchorOrNote.value
      (.mk ("def " ++ c.id.kind.cssClass) ((c.id.rowAnchorOrNote.value.map Node.anchor).toList ++
        Definition.layout (.inline [.text "| "] :: (c.parts here).value)) :: rest) :=
  Row.ofDefinition_value here _ _ _ _

/-- A constructor is anchored in the table of constructors. -/
theorem anchors_rows (here : Here) {constructors : List Constructor} {c : Constructor}
    {d : Declaration} (hc : c ∈ constructors) (hid : d.id = c.id) (cls : String) :
    Markup.Anchors d [.table cls (rows here constructors).value] := by
  obtain ⟨rest, hrow⟩ := c.row_value here
  refine Markup.anchors_table (row_mem_rows here hc) ?_ cls
  rw [hrow, hid]
  rfl

/-- So are its fields, in a table inside that table. -/
theorem anchors_rows_fields (here : Here) {constructors : List Constructor} {c : Constructor}
    {d : Declaration} (hc : c ∈ constructors) (hd : d ∈ c.fieldDeclarations) (cls : String) :
    Markup.Anchors d [.table cls (rows here constructors).value] := by
  obtain ⟨rest, hrow⟩ := c.row_value here
  obtain ⟨node, hnode, hanchors⟩ := anchors_parts here hd
  have hlayout := hanchors.layout (List.mem_cons_of_mem (.inline [.text "| "]) hnode)
  have hcell : Markup.Anchors d (Cell.mk ("def " ++ c.id.kind.cssClass)
      ((c.id.rowAnchorOrNote.value.map Node.anchor).toList ++
        Definition.layout (.inline [.text "| "] :: (c.parts here).value))).children := by
    refine hlayout.mono ?_
    simp [Cell.children]
  refine hcell.table (row_mem_rows here hc) ?_ cls
  rw [hrow]
  exact List.mem_cons_self

end Constructor

/-- The constructors and fields of a type are anchored in its definition. -/
theorem TypeDecl.anchors_representation (here : Here) {decl : TypeDecl} {d : Declaration}
    (h : d ∈ decl.rowDeclarations) (isPrivate : Bool) :
    ∃ node, .block node ∈ (representationParts here isPrivate decl.representation).value ∧
      Markup.Anchors d [node] := by
  rw [rowDeclarations] at h
  split at h
  · rename_i constructors hrepresentation
    rw [hrepresentation]
    refine ⟨.table "variant" (Constructor.rows here constructors).value,
      by simp [representationParts], ?_⟩
    obtain ⟨c, hc, hd⟩ := List.mem_flatMap.mp h
    rcases List.mem_cons.mp hd with rfl | hd
    · exact Constructor.anchors_rows here hc rfl _
    · exact Constructor.anchors_rows_fields here hc hd _
  · rename_i fields hrepresentation
    rw [hrepresentation]
    obtain ⟨node, hnode, hd⟩ := Field.anchors_record here h
    exact ⟨node, by simp [representationParts, hnode], hd⟩
  · simp at h
  · simp at h

theorem TypeDecl.anchors_render {here : Here} {decl : TypeDecl} {d : Declaration}
    (h : d ∈ decl.rowDeclarations) (recursion : Recursion) (substitution : Bool) :
    Markup.Anchors d [(decl.render here recursion substitution).value] := by
  obtain ⟨node, hblock, hd⟩ := anchors_representation here h
    (decl.equation.isPrivate && decl.equation.manifest.isNone)
  refine Markup.Anchors.declaration (hd.layout ?_) _ _ _
  exact List.mem_append_left _ (List.mem_append_right _ hblock)

/-! ## Items -/

section Items

variable {here : Here} {owner : Identifier} {c : Content} {ns : List Note} {d : Declaration}

/-- An item that may have a page puts its anchor on its node, page or not. -/
theorem Markup.anchors_item {Declared : Type} {declared : Checked Declared}
    {node : Declared → Bool → Noted Node} {hasPage : Bool}
    (h : (Checked.item declared node hasPage).Gives c ns)
    (hnode : ∀ declared hasPage, ∃ kind definition doc, (node declared hasPage).value =
      Markup.declaration kind d.id.anchorOrNote.value definition doc) :
    Markup.Anchors d c.body := by
  obtain ⟨declared, -, -, hbody⟩ := Checked.gives_item h
  obtain ⟨kind, definition, doc, hvalue⟩ := hnode declared hasPage
  rw [hbody, hvalue]
  exact Markup.anchors_declaration rfl kind definition doc

/-- What an item declares is anchored where the item is shown. -/
theorem SignatureItem.anchors_declarations {visibility : Visibility} {item : SignatureItem}
    (hshown : (item.shown here visibility).Gives c ns) (h : d ∈ item.declarations owner) :
    Markup.Anchors d c.body := by
  cases item with
  | «module» =>
    obtain rfl := List.mem_singleton.mp h
    exact Markup.anchors_item hshown fun _ _ => ⟨_, _, _, rfl⟩
  | moduleType =>
    obtain rfl := List.mem_singleton.mp h
    exact Markup.anchors_item hshown fun _ _ => ⟨_, _, _, rfl⟩
  | «class» =>
    obtain rfl := List.mem_singleton.mp h
    exact Markup.anchors_item hshown fun _ _ => ⟨_, _, _, rfl⟩
  | classType =>
    obtain rfl := List.mem_singleton.mp h
    exact Markup.anchors_item hshown fun _ _ => ⟨_, _, _, rfl⟩
  | moduleSubstitution | type | typeSubstitution | exception | value | external =>
    obtain rfl := List.mem_singleton.mp h
    obtain ⟨node, hnode, rfl⟩ := Checked.gives_map.mp hshown
    obtain ⟨rfl, -⟩ := Checked.gives_lift.mp hnode
    exact Markup.anchors_declaration rfl _ _ _
  | extension e =>
    obtain ⟨con, hcon, rfl⟩ := List.mem_map.mp h
    obtain ⟨node, hnode, rfl⟩ := Checked.gives_map.mp hshown
    obtain ⟨rfl, -⟩ := Checked.gives_lift.mp hnode
    refine Markup.Anchors.declaration (Markup.Anchors.layout
      (Constructor.anchors_rows here hcon rfl "extension") ?_) _ _ _
    exact List.mem_cons_of_mem _ List.mem_cons_self
  | «include» | comment => simp [SignatureItem.declarations] at h

@[inherit_doc SignatureItem.anchors_declarations]
theorem SignatureItem.anchors_rowDeclarations {visibility : Visibility} {item : SignatureItem}
    (hshown : (item.shown here visibility).Gives c ns) (h : d ∈ item.rowDeclarations) :
    Markup.Anchors d c.body := by
  cases item with
  | type | typeSubstitution =>
    obtain ⟨node, hnode, rfl⟩ := Checked.gives_map.mp hshown
    obtain ⟨rfl, -⟩ := Checked.gives_lift.mp hnode
    exact TypeDecl.anchors_render h _ _
  | extension e =>
    obtain ⟨con, hcon, hd⟩ := List.mem_flatMap.mp h
    obtain ⟨node, hnode, rfl⟩ := Checked.gives_map.mp hshown
    obtain ⟨rfl, -⟩ := Checked.gives_lift.mp hnode
    refine Markup.Anchors.declaration (Markup.Anchors.layout
      (Constructor.anchors_rows_fields here hcon hd "extension") ?_) _ _ _
    exact List.mem_cons_of_mem _ List.mem_cons_self
  | exception e =>
    obtain ⟨node, hnode, rfl⟩ := Checked.gives_map.mp hshown
    obtain ⟨rfl, -⟩ := Checked.gives_lift.mp hnode
    obtain ⟨node, hblock, hd⟩ := Constructor.anchors_parts here h
    exact (hd.layout (List.mem_cons_of_mem _ hblock)).declaration _ _ _
  | «module» | moduleType | «class» | classType | moduleSubstitution | value | external | «include»
  | comment => simp [SignatureItem.rowDeclarations] at h

/-- What a signature declares, in its items and in their tables, is anchored on its page. -/
theorem SignatureItem.anchors_shownAll {visibility : Visibility} {items : List SignatureItem}
    (hshown : (SignatureItem.shownAll here visibility items).Gives c ns)
    (h : d ∈ (SignatureItem.standingAll items).flatMap (SignatureItem.declarations owner) ++
      (SignatureItem.standingAll items).flatMap SignatureItem.rowDeclarations) :
    Markup.Anchors d c.body := by
  rcases List.mem_append.mp h with h | h
  · obtain ⟨item, hitem, hd⟩ := List.mem_flatMap.mp h
    obtain ⟨v, c', ns', hshown', hsub⟩ := SignatureItem.shown_of_standingAll hitem hshown
    exact (SignatureItem.anchors_declarations hshown' hd).mono hsub
  · obtain ⟨item, hitem, hd⟩ := List.mem_flatMap.mp h
    obtain ⟨v, c', ns', hshown', hsub⟩ := SignatureItem.shown_of_standingAll hitem hshown
    exact (SignatureItem.anchors_rowDeclarations hshown' hd).mono hsub

end Items

/-! ## Parameters, members and packed modules -/

theorem FunctorParameter.anchors_shownAll {here : Here} {owner : Identifier} {d : Declaration} :
    ∀ {parameters : List FunctorParameter} {position : Nat} {c : Content} {ns : List Note},
      (FunctorParameter.shownAll here position parameters).Gives c ns →
      d ∈ FunctorParameter.declarationsAll owner position parameters → Markup.Anchors d c.body
  | [], _, _, _, _, h => by simp [FunctorParameter.declarationsAll] at h
  | .unit :: parameters, position, c, ns, hshown, h => by
    rw [FunctorParameter.shownAll] at hshown
    rw [FunctorParameter.declarationsAll] at h
    exact FunctorParameter.anchors_shownAll hshown h
  | .named id expr expansion :: parameters, position, c, ns, hshown, h => by
    obtain ⟨first, n₁, n₂, hfirst, htail, rfl⟩ := Checked.gives_bind.mp hshown
    obtain ⟨rest, hrest, rfl⟩ := Checked.gives_map.mp htail
    rcases List.mem_cons.mp h with rfl | h
    · exact Markup.Anchors.left (Markup.anchors_item hfirst fun _ _ => ⟨_, _, _, rfl⟩)
    · exact Markup.Anchors.right (FunctorParameter.anchors_shownAll hrest h)

theorem ClassItem.anchors_renderAll {here : Here} {owner : Identifier} {d : Declaration} :
    ∀ {items : List ClassItem} {visibility : Visibility} {c : Content} {ns : List Note},
      (ClassItem.renderAll here visibility items).Gives c ns →
      d ∈ items.flatMap (ClassItem.declarations owner) → Markup.Anchors d c.body
  | [], _, _, _, _, h => by simp at h
  | .comment .stop :: items, visibility, c, ns, hshown, h => by
    rw [ClassItem.renderAll] at hshown
    exact ClassItem.anchors_renderAll hshown h
  | .comment (.docs docs) :: items, visibility, c, ns, hshown, h => by
    obtain ⟨rest, n, hrest, rfl, rfl⟩ := Checked.gives_lift_append.mp hshown
    exact Markup.Anchors.right (ClassItem.anchors_renderAll hrest h)
  | .method m :: items, visibility, c, ns, hshown, h => by
    obtain ⟨rest, n, hrest, rfl, rfl⟩ := Checked.gives_lift_append.mp hshown
    rcases List.mem_cons.mp h with rfl | h
    · exact Markup.Anchors.left (Markup.anchors_declaration rfl _ _ _)
    · exact Markup.Anchors.right (ClassItem.anchors_renderAll hrest h)
  | .instanceVariable v :: items, visibility, c, ns, hshown, h => by
    obtain ⟨rest, n, hrest, rfl, rfl⟩ := Checked.gives_lift_append.mp hshown
    rcases List.mem_cons.mp h with rfl | h
    · exact Markup.Anchors.left (Markup.anchors_declaration rfl _ _ _)
    · exact Markup.Anchors.right (ClassItem.anchors_renderAll hrest h)
  | .constraint left right :: items, visibility, c, ns, hshown, h => by
    obtain ⟨rest, n, hrest, rfl, rfl⟩ := Checked.gives_lift_append.mp hshown
    exact Markup.Anchors.right (ClassItem.anchors_renderAll hrest h)
  | .inherit (.signature self members) :: items, visibility, c, ns, hshown, h =>
    absurd hshown Checked.not_gives_throw
  | .inherit (.constr p ts) :: items, visibility, c, ns, hshown, h => by
    obtain ⟨rest, n, hrest, rfl, rfl⟩ := Checked.gives_lift_append.mp hshown
    exact Markup.Anchors.right (ClassItem.anchors_renderAll hrest h)

theorem PackedModule.anchors_renderAll (here : Here) {owner : Identifier} {d : Declaration}
    {modules : List PackedModule}
    (h : d ∈ modules.map fun m => ({ id := m.id, owner, kind := .module } : Declaration)) :
    Markup.Anchors d (PackedModule.renderAll here modules).value.body := by
  induction modules with
  | nil => simp at h
  | cons m modules ih =>
    rcases List.mem_cons.mp h with rfl | h
    · exact Markup.Anchors.left (Markup.anchors_declaration rfl _ _ _)
    · exact Markup.Anchors.right (ih h)

/-- **Ids on a page.**  All that a page declares is anchored on it. -/
theorem Subject.anchors_shown {here : Here} {owner : Identifier} {subject : Subject} {c : Content}
    {ns : List Note} {d : Declaration} (hshown : (subject.shown here).Gives c ns)
    (h : d ∈ subject.declarations owner ++ subject.rowDeclarations) : Markup.Anchors d c.body := by
  cases subject with
  | signature items => exact SignatureItem.anchors_shownAll hshown h
  | functor parameters result =>
    obtain ⟨a, n₁, n₂, hparameters, hrest, rfl⟩ := Checked.gives_bind.mp hshown
    obtain ⟨b, hresult, rfl⟩ := Checked.gives_map.mp hrest
    rw [Subject.declarations, Subject.rowDeclarations, List.append_assoc, List.mem_append] at h
    rcases h with h | h
    · exact (FunctorParameter.anchors_shownAll hparameters h).mono
        (functorBody_parameters_subset a b)
    · exact (SignatureItem.anchors_shownAll hresult h).mono (functorBody_result_subset a b)
  | members items =>
    rw [Subject.rowDeclarations, List.append_nil] at h
    exact ClassItem.anchors_renderAll hshown h
  | pack modules =>
    rw [Subject.rowDeclarations, List.append_nil] at h
    obtain ⟨rfl, -⟩ := Checked.gives_lift.mp hshown
    exact PackedModule.anchors_renderAll here h
  | text docs => simp [Subject.declarations, Subject.rowDeclarations] at h

/-! ## Locations of declarations -/

namespace Kind

theorem of_anchorHead? {kind : Kind} (h : kind.anchorHead?.isSome) :
    kind.isTop = false ∧ kind.isCore = false ∧ kind.isRow = false := by
  rw [isSome_anchorHead?] at h
  simpa [and_assoc] using h

theorem of_isRow : ∀ {kind : Kind}, kind.isRow = true →
    kind.isTop = false ∧ kind.isCore = false
  | constructor, _ | field, _ => ⟨rfl, rfl⟩

end Kind

/-- The identifier has an anchor on the page of `container`. -/
structure Identifier.AnchoredIn (container id : Identifier) : Prop where
  notTop : id.kind.isTop = false
  notCore : id.kind.isCore = false
  container : id.container? = some container
  anchor : ∃ anchor, id.anchor = .ok anchor

namespace Identifier.AnchoredIn

variable {packages : Packages} {container owner id : Identifier} {path : PagePath}

/-- From outside, a declaration is located at its anchor. -/
theorem location (h : AnchoredIn container id) (hpage : container.page packages = .ok path)
    {anchor : String} (hanchor : id.anchor = .ok anchor) {stopBefore : Bool}
    (hstop : (id.kind.ownsPage && !stopBefore) = false) :
    id.location packages stopBefore = .ok ⟨path, some anchor⟩ := by
  rw [Identifier.location, h.notTop, hstop, h.notCore, h.container]
  simp only [Bool.or_self, Bool.false_eq_true, if_false, hpage, hanchor]
  rfl

/-- What is declared directly in the owner of a page is anchored on that page. -/
theorem of_proper {d : Declaration} (h : d.Proper) (hkind : d.kind.anchorHead?.isSome)
    (howner : d.owner.kind.ownsPage = true) : AnchoredIn d.owner d.id := by
  obtain ⟨head, hhead⟩ := Option.isSome_iff_exists.mp hkind
  obtain ⟨htop, hcore, hrow⟩ := Kind.of_anchorHead? hkind
  rw [h]
  refine ⟨htop, hcore, ?_, head ++ d.id.name, ?_⟩
  · rw [Identifier.container?, if_pos howner]
  · rw [Identifier.anchor, hrow, hhead]
    rfl

/-- A row is anchored on the page of what it belongs to. -/
theorem row {d : Declaration} (h : AnchoredIn container d.owner) (hd : d.Proper)
    (hkind : d.kind.isRow = true) (howner : d.owner.kind.ownsPage = false) :
    AnchoredIn container d.id := by
  obtain ⟨anchor, hanchor⟩ := h.anchor
  obtain ⟨htop, hcore⟩ := Kind.of_isRow hkind
  rw [hd]
  refine ⟨htop, hcore, ?_, anchor ++ "." ++ d.id.name, ?_⟩
  · rw [Identifier.container?, howner]
    exact h.container
  · rw [Identifier.anchor, hkind, hanchor]
    rfl

end Identifier.AnchoredIn

/-! ## Declarations of a page -/

section Scopes

open Identifier

variable {container owner : Identifier} {d : Declaration}

/-- Fields are rows of what they belong to, wherever that is anchored. -/
theorem Field.anchoredIn {fields : List Field} (howner : AnchoredIn container owner)
    (hkind : owner.kind.ownsPage = false) (hproper : d.Proper)
    (h : d ∈ Field.declarations owner fields) : AnchoredIn container d.id := by
  obtain ⟨f, -, rfl⟩ := List.mem_map.mp h
  exact howner.row hproper rfl hkind

theorem Constructor.anchoredIn_fields {c : Constructor} (hc : AnchoredIn container c.id)
    (hkind : c.id.kind.ownsPage = false) (hproper : d.Proper) (h : d ∈ c.fieldDeclarations) :
    AnchoredIn container d.id := by
  rw [Constructor.fieldDeclarations] at h
  split at h
  · simp at h
  · exact Field.anchoredIn hc hkind hproper h

theorem TypeDecl.anchoredIn_rows {decl : TypeDecl} (hdecl : AnchoredIn container decl.id)
    (hkind : decl.id.kind.ownsPage = false) (hproper : ∀ d ∈ decl.rowDeclarations, d.Proper)
    (h : d ∈ decl.rowDeclarations) : AnchoredIn container d.id := by
  have hd := hproper d h
  rw [TypeDecl.rowDeclarations] at h hproper
  split at h
  · rename_i constructors hrepresentation
    simp only [hrepresentation] at hproper
    obtain ⟨c, hc, hmem⟩ := List.mem_flatMap.mp h
    have hproper' := hproper _ (List.mem_flatMap.mpr ⟨c, hc, List.mem_cons_self⟩)
    have hc : AnchoredIn container c.id := hdecl.row hproper' rfl hkind
    rcases List.mem_cons.mp hmem with rfl | hmem
    · exact hc
    · exact Constructor.anchoredIn_fields hc (congrArg Kind.ownsPage hproper'.kind) hd hmem
  · exact Field.anchoredIn hdecl hkind hd h
  · simp at h
  · simp at h

/-- What an item declares has an anchor that does not depend on its parent. -/
theorem SignatureItem.kind_of_mem_declarations {item : SignatureItem}
    (h : d ∈ item.declarations owner) : d.owner = owner ∧ d.kind.anchorHead?.isSome := by
  cases item with
  | extension e =>
    obtain ⟨c, -, rfl⟩ := List.mem_map.mp h
    exact ⟨rfl, rfl⟩
  | «include» | comment => simp [SignatureItem.declarations] at h
  | «module» | moduleType | moduleSubstitution | type | typeSubstitution | exception | value
  | external | «class» | classType =>
    obtain rfl := List.mem_singleton.mp h
    exact ⟨rfl, rfl⟩

theorem FunctorParameter.kind_of_mem_declarationsAll :
    ∀ {parameters : List FunctorParameter} {position : Nat},
      d ∈ FunctorParameter.declarationsAll owner position parameters →
      d.owner = owner ∧ d.kind.anchorHead?.isSome
  | [], _, h => by simp [FunctorParameter.declarationsAll] at h
  | .unit :: parameters, position, h => by
    rw [FunctorParameter.declarationsAll] at h
    exact FunctorParameter.kind_of_mem_declarationsAll h
  | .named id _ expansion :: parameters, position, h => by
    rcases List.mem_cons.mp h with rfl | h
    · exact ⟨rfl, rfl⟩
    · exact FunctorParameter.kind_of_mem_declarationsAll h

theorem Subject.kind_of_mem_declarations {subject : Subject} (h : d ∈ subject.declarations owner) :
    d.owner = owner ∧ d.kind.anchorHead?.isSome := by
  have hitems : ∀ items : List SignatureItem,
      d ∈ (SignatureItem.standingAll items).flatMap (SignatureItem.declarations owner) →
      d.owner = owner ∧ d.kind.anchorHead?.isSome := by
    intro items h
    obtain ⟨item, -, hd⟩ := List.mem_flatMap.mp h
    exact SignatureItem.kind_of_mem_declarations hd
  cases subject with
  | signature items => exact hitems items h
  | functor parameters result =>
    rcases List.mem_append.mp h with h | h
    · exact FunctorParameter.kind_of_mem_declarationsAll h
    · exact hitems result h
  | members items =>
    obtain ⟨item, -, hd⟩ := List.mem_flatMap.mp h
    cases item with
    | method | instanceVariable =>
      obtain rfl := List.mem_singleton.mp hd
      exact ⟨rfl, rfl⟩
    | constraint | «inherit» | comment => simp [ClassItem.declarations] at hd
  | pack modules =>
    obtain ⟨m, -, rfl⟩ := List.mem_map.mp h
    exact ⟨rfl, rfl⟩
  | text docs => simp [Subject.declarations] at h

/-- The tables of an item belong to what the item declares. -/
theorem SignatureItem.anchoredIn_rows {item : SignatureItem} (howner : owner.kind.ownsPage = true)
    (hproper : ∀ d ∈ item.declarations owner, d.Proper)
    (hrows : ∀ d ∈ item.rowDeclarations, d.Proper) (h : d ∈ item.rowDeclarations) :
    AnchoredIn owner d.id := by
  have hdeclared : ∀ d ∈ item.declarations owner, AnchoredIn owner d.id := by
    intro d hd
    obtain ⟨rfl, hkind⟩ := SignatureItem.kind_of_mem_declarations hd
    exact .of_proper (hproper d hd) hkind howner
  have hd := hrows d h
  cases item with
  | type _ decl | typeSubstitution decl =>
    have hproper := hproper _ (List.mem_singleton.mpr rfl)
    have hdecl := hdeclared _ (List.mem_singleton.mpr rfl)
    exact TypeDecl.anchoredIn_rows hdecl (congrArg Kind.ownsPage hproper.kind) hrows h
  | extension e =>
    obtain ⟨c, hc, hmem⟩ := List.mem_flatMap.mp h
    have hproper := hproper _ (List.mem_map.mpr ⟨c, hc, rfl⟩)
    have hc := hdeclared _ (List.mem_map.mpr ⟨c, hc, rfl⟩)
    exact Constructor.anchoredIn_fields hc (congrArg Kind.ownsPage hproper.kind) hd hmem
  | exception e =>
    have hproper := hproper _ (List.mem_singleton.mpr rfl)
    have he := hdeclared _ (List.mem_singleton.mpr rfl)
    exact Constructor.anchoredIn_fields he (congrArg Kind.ownsPage hproper.kind) hd h
  | «module» | moduleType | «class» | classType | moduleSubstitution | value | external | «include»
  | comment => simp [SignatureItem.rowDeclarations] at h

/-- **Locations on a page.**  All that a page declares is anchored on the page of its owner. -/
theorem Subject.anchoredIn {subject : Subject} (howner : owner.kind.ownsPage = true)
    (hproper : ∀ d ∈ subject.declarations owner, d.Proper)
    (hrows : ∀ d ∈ subject.rowDeclarations, d.Proper)
    (h : d ∈ subject.declarations owner ++ subject.rowDeclarations) :
    AnchoredIn owner d.id := by
  have hitems : ∀ items : List SignatureItem,
      (∀ d ∈ (SignatureItem.standingAll items).flatMap (SignatureItem.declarations owner),
        d.Proper) →
      (∀ d ∈ (SignatureItem.standingAll items).flatMap SignatureItem.rowDeclarations, d.Proper) →
      d ∈ (SignatureItem.standingAll items).flatMap SignatureItem.rowDeclarations →
      AnchoredIn owner d.id := by
    intro items hp hr h
    obtain ⟨item, hitem, hd⟩ := List.mem_flatMap.mp h
    exact SignatureItem.anchoredIn_rows howner
      (fun d hd => hp d (List.mem_flatMap.mpr ⟨item, hitem, hd⟩))
      (fun d hd => hr d (List.mem_flatMap.mpr ⟨item, hitem, hd⟩)) hd
  rcases List.mem_append.mp h with h | h
  · obtain ⟨rfl, hkind⟩ := Subject.kind_of_mem_declarations h
    exact .of_proper (hproper d h) hkind howner
  · cases subject with
    | signature items => exact hitems items hproper hrows h
    | functor parameters result =>
      rw [Subject.declarations, List.forall_mem_append] at hproper
      exact hitems result hproper.2 hrows h
    | members | pack | text => simp [Subject.rowDeclarations] at h

end Scopes

/-! ## Declarations with a page -/

theorem SignatureItem.exists_outline {owner : Identifier} {item : SignatureItem} {d : Declaration}
    (h : d ∈ item.declarations owner) (hpage : d.hasPage = true) :
    ∃ o ∈ item.outlines, o.topic.id = d.id := by
  cases item with
  | «module» recursion id doc decl expansion =>
    obtain rfl := List.mem_singleton.mp h
    obtain ⟨subject, children, heq⟩ := ModuleExpansion.outlines_of_isSome hpage
      (Topic.mk .module id.name id doc) (ModuleDecl.declared? decl)
    exact ⟨_, by rw [SignatureItem.outlines, heq]; exact List.mem_cons_self, rfl⟩
  | moduleType id doc expr expansion =>
    obtain rfl := List.mem_singleton.mp h
    obtain ⟨subject, children, heq⟩ := ModuleExpansion.outlines_of_isSome hpage
      (Topic.mk .moduleType id.name id doc) (ModuleTypeExpr.optionDeclared? expr)
    exact ⟨_, by rw [SignatureItem.outlines, heq]; exact List.mem_cons_self, rfl⟩
  | «class» recursion c =>
    obtain rfl := List.mem_singleton.mp h
    obtain ⟨subject, heq⟩ := ClassSignature.outlines_of_isSome hpage
      (Topic.mk .class c.id.name c.id c.doc)
    exact ⟨_, by rw [SignatureItem.outlines, heq]; exact List.mem_cons_self, rfl⟩
  | classType recursion c =>
    obtain rfl := List.mem_singleton.mp h
    obtain ⟨subject, heq⟩ := ClassSignature.outlines_of_isSome hpage
      (Topic.mk .classType c.id.name c.id c.doc)
    exact ⟨_, by rw [SignatureItem.outlines, heq]; exact List.mem_cons_self, rfl⟩
  | extension e =>
    obtain ⟨c, -, rfl⟩ := List.mem_map.mp h
    cases hpage
  | moduleSubstitution | type | typeSubstitution | exception | value | external =>
    obtain rfl := List.mem_singleton.mp h
    cases hpage
  | «include» | comment => simp [SignatureItem.declarations] at h

theorem FunctorParameter.exists_outline {owner : Identifier} {d : Declaration} :
    ∀ {parameters : List FunctorParameter} {position : Nat},
      d ∈ FunctorParameter.declarationsAll owner position parameters → d.hasPage = true →
      ∃ o ∈ FunctorParameter.outlinesAll position parameters, o.topic.id = d.id
  | [], _, h, _ => by simp [FunctorParameter.declarationsAll] at h
  | .unit :: parameters, position, h, hpage => by
    rw [FunctorParameter.declarationsAll] at h
    rw [FunctorParameter.outlinesAll]
    exact FunctorParameter.exists_outline h hpage
  | .named id expr expansion :: parameters, position, h, hpage => by
    rw [FunctorParameter.outlinesAll]
    rcases List.mem_cons.mp h with rfl | h
    · obtain ⟨subject, children, heq⟩ := ModuleExpansion.outlines_of_isSome hpage
        (Topic.mk .argument (parameterPageName position id) id []) (ModuleTypeExpr.declared? expr)
      exact ⟨_, by rw [heq]; exact List.mem_cons_self, rfl⟩
    · obtain ⟨o, ho, hid⟩ := FunctorParameter.exists_outline h hpage
      exact ⟨o, List.mem_append_right _ ho, hid⟩

/-- **Pages of declarations.**  What carries an expansion has a page below the page that declares
it. -/
theorem Subject.exists_outline {owner : Identifier} {subject : Subject} {d : Declaration}
    (h : d ∈ subject.declarations owner) (hpage : d.hasPage = true) :
    ∃ o ∈ subject.outlines, o.topic.id = d.id := by
  have hitems : ∀ items : List SignatureItem,
      d ∈ (SignatureItem.standingAll items).flatMap (SignatureItem.declarations owner) →
      ∃ o ∈ SignatureItem.outlinesAll items, o.topic.id = d.id := by
    intro items h
    obtain ⟨item, hitem, hd⟩ := List.mem_flatMap.mp h
    obtain ⟨o, ho, hid⟩ := SignatureItem.exists_outline hd hpage
    rw [SignatureItem.outlinesAll_eq_flatMap]
    exact ⟨o, List.mem_flatMap.mpr ⟨item, hitem, ho⟩, hid⟩
  cases subject with
  | signature items => exact hitems items h
  | functor parameters result =>
    rcases List.mem_append.mp h with h | h
    · obtain ⟨o, ho, hid⟩ := FunctorParameter.exists_outline h hpage
      exact ⟨o, List.mem_append_left _ ho, hid⟩
    · obtain ⟨o, ho, hid⟩ := hitems result h
      exact ⟨o, List.mem_append_right _ ho, hid⟩
  | members items =>
    obtain ⟨item, -, hd⟩ := List.mem_flatMap.mp h
    cases item with
    | method | instanceVariable =>
      obtain rfl := List.mem_singleton.mp hd
      cases hpage
    | constraint | «inherit» | comment => simp [ClassItem.declarations] at hd
  | pack modules =>
    obtain ⟨m, -, rfl⟩ := List.mem_map.mp h
    cases hpage
  | text docs => simp [Subject.declarations] at h

/-! ## Declarations of a unit -/

namespace Outline

/-- What is known of a page when it is entered, the tables below it included. -/
structure FullyPlaced (packages : Packages) (above : PagePath) (o : Outline) : Prop
    extends Placed packages above o where
  rows : ∀ n ∈ o.nodes, ∀ d ∈ n.topic.subject.rowDeclarations, d.Proper

namespace FullyPlaced

variable {cfg : Settings} {above : PagePath} {o : Outline} {page : Page} {d : Declaration}

/-- What a page declares has its anchor on the page. -/
theorem anchored (hplaced : o.FullyPlaced cfg.packages above) (hd : o.Describes cfg above page)
    (h : d ∈ o.topic.declarations ++ o.topic.subject.rowDeclarations) :
    ∃ anchor ∈ Markup.ids page.body,
      d.id.location cfg.packages true = .ok ⟨page.path, some anchor⟩ ∧
        (d.kind.ownsPage = false →
          d.id.location cfg.packages false = .ok ⟨page.path, some anchor⟩) := by
  have hproper := hplaced.proper o o.mem_nodes_self
  have hrows := hplaced.rows o o.mem_nodes_self
  have hkind : d.id.kind = d.kind := by
    rcases List.mem_append.mp h with h | h
    · exact (hproper d h).kind
    · exact (hrows d h).kind
  have howner : o.topic.id.page cfg.packages = .ok page.path := by
    rw [hplaced.located, hd.path]
  have hin : Identifier.AnchoredIn o.topic.id d.id :=
    Subject.anchoredIn (Identifier.ownsPage_of_page howner) hproper hrows h
  obtain ⟨anchor, hanchor⟩ := hin.anchor
  obtain ⟨c, ns, hshown, hbody, -⟩ := hd.fits.content
  refine ⟨anchor, ?_, hin.location howner hanchor (by simp), fun hnone => ?_⟩
  · rw [hbody]
    exact Subject.anchors_shown hshown h anchor hanchor
  · exact hin.location howner hanchor (by simp [hkind, hnone])

/-- What a page declares with an expansion has its own page below. -/
theorem expanded (hplaced : o.FullyPlaced cfg.packages above) (hd : o.Describes cfg above page)
    (h : d ∈ o.topic.declarations) (hpage : d.hasPage = true) :
    ∃ child ∈ o.children, ∃ below ∈ page.children,
      child.topic.id = d.id ∧ child.topic.Fits ⟨cfg, below.path⟩ below ∧
        d.id.location cfg.packages false = .ok ⟨below.path, none⟩ := by
  obtain ⟨child, hchild, hid⟩ := Subject.exists_outline h hpage
  rw [← hplaced.grown o o.mem_nodes_self] at hchild
  obtain ⟨below, hbelow, hdbelow⟩ := hd.exists_child hchild
  obtain ⟨hlies, -, -⟩ := hplaced.children hd hchild
  have howner : o.topic.id.page cfg.packages = .ok page.path := by
    rw [hplaced.located, hd.path]
  refine ⟨child, hchild, below, hbelow, hid, hdbelow.fits, ?_⟩
  rw [← hid, hdbelow.path]
  exact hlies.location howner

end FullyPlaced

end Outline

/-- **Anchors stand where locations say.**  In a unit that is well scoped throughout, all that a
page declares, in its items and in their tables, is located on that page from outside, at an anchor
that is the id of a block or of a row there.  What owns no page has no other location.  What carries
an expansion is otherwise located at its own page, which lies below. -/
theorem CompilationUnit.declarations_anchored {cfg : Settings} {u : CompilationUnit}
    {out : Root.Rendered} (hu : u.FullyScoped) (h : (Root.unit u).render cfg = .ok out) :
    List.Forall₂
      (fun o page => o.topic.Fits ⟨cfg, page.path⟩ page ∧
        (∀ d ∈ o.topic.declarations ++ o.topic.subject.rowDeclarations,
          ∃ anchor ∈ Markup.ids page.body,
            d.id.location cfg.packages true = .ok ⟨page.path, some anchor⟩ ∧
              (d.kind.ownsPage = false →
                d.id.location cfg.packages false = .ok ⟨page.path, some anchor⟩)) ∧
        ∀ d ∈ o.topic.declarations, d.hasPage = true →
          ∃ child ∈ o.children, ∃ below ∈ page.children,
            child.topic.id = d.id ∧ child.topic.Fits ⟨cfg, below.path⟩ below ∧
              d.id.location cfg.packages false = .ok ⟨below.path, none⟩)
      (Root.unit u).outline.nodes out.page.pages := by
  obtain ⟨hd, -⟩ := Root.render_eq_ok h
  have hplaced : (Root.unit u).outline.FullyPlaced cfg.packages [cfg.packages.packageOf u.id] :=
    ⟨hu.placed cfg.packages, hu.rows⟩
  refine hd.forall_nodes ?_ hplaced
  intro above o page hd hplaced
  refine ⟨⟨hd.fits, fun d hmem => hplaced.anchored hd hmem,
    fun d hmem hpage => hplaced.expanded hd hmem hpage⟩, fun child hchild => ⟨?_, ?_⟩⟩
  · exact (hplaced.children hd hchild).2.2
  · intro n hn
    exact hplaced.rows n (Outline.mem_nodes_of_mem_children hchild hn)

/-- A unit with tables: a constructor with fields inside an include, an exception with a field, and
a module that has a page. -/
def sampleTables : CompilationUnit :=
  let lib := Identifier.top .root "Shapes"
  let shape := lib.child .type "shape"
  let circle := shape.child .constructor "Circle"
  let flat := lib.child .exception "Flat"
  let fields (owner : Identifier) (name : String) : ConstructorArguments :=
    .record [{ id := owner.child .field name, type := .any }]
  let constructors : TypeRepresentation :=
    .variant [{ id := circle, arguments := fields circle "radius" }]
  ⟨lib, [], .module [
    .include lib [] (.alias (.root "Other"))
      [.type .ordinary { id := shape, representation := some constructors }],
    .exception { id := flat, arguments := fields flat "side" },
    .module .ordinary (lib.child .module "Plane") [] (.moduleType (.signature []))
      (some .asDeclared)]⟩

theorem anchors_sampleTables : sampleTables.FullyScoped ∧
    ∃ out, (Root.unit sampleTables).render {} = .ok out ∧
      Markup.ids out.page.body =
        ["type-shape", "type-shape.Circle", "type-shape.Circle.radius", "exception-Flat",
          "exception-Flat.side", "module-Plane"] ∧
      List.Forall₂
        (fun o page => ∀ d ∈ o.topic.declarations ++ o.topic.subject.rowDeclarations,
          ∃ anchor ∈ Markup.ids page.body,
            d.id.location {} true = .ok ⟨page.path, some anchor⟩)
        (Root.unit sampleTables).outline.nodes out.page.pages := by
  have hscoped : sampleTables.FullyScoped := ⟨⟨rfl, by decide⟩, by decide⟩
  refine ⟨hscoped, _, rfl, rfl, ?_⟩
  have hrender : (Root.unit sampleTables).render {} = .ok _ := rfl
  have hpages := CompilationUnit.declarations_anchored hscoped hrender
  refine hpages.imp fun o page hpage d hd => ?_
  obtain ⟨anchor, hid, hlocation, -⟩ := hpage.2.1 d hd
  exact ⟨anchor, hid, hlocation⟩

end DocSite
