import DocSite.Proofs.Declarations
import DocSite.Proofs.TableRows

/-!
# Documentation shown on a page

A page shows more documentation than that of its topic: that of the items on it, cut to one
paragraph where an item has its own page, that of the rows of its tables, and the comments between
items unless a stop marker hides them.  `Topic.docs` is all of it, block by block.

The nodes of each block are nodes of the page (`Markup.Holds`), and running text stands in them
piece by piece.  So whatever a piece of documentation becomes on its page can be read off that piece
alone (`Topic.Fits.mem_allNodes`).
-/

namespace DocSite

/-! ## Nodes of nodes -/

theorem Node.mem_allNodes_self (n : Node) : n ∈ n.allNodes := by
  cases n <;> exact List.mem_cons_self

mutual

/-- The nodes below a node of a page are nodes of the page. -/
theorem Node.allNodes_subset {n : Node} : ∀ {m : Node}, n ∈ m.allNodes → n.allNodes ⊆ m.allNodes
  | .text _, h | .keyword _, h | .pre _, h | .anchor _, h => by
    obtain rfl := List.mem_singleton.mp h
    exact List.Subset.refl _
  | .link _ ns, h | .span _ ns, h | .code ns, h | .emphasis ns, h | .bold ns, h
  | .paragraph ns, h | .heading _ _ ns, h | .div _ _ ns, h => by
    rcases List.mem_cons.mp h with rfl | h
    · exact List.Subset.refl _
    · exact List.subset_cons_of_subset _ (Markup.allNodes_subset h)
  | .list _ items, h => by
    rcases List.mem_cons.mp h with rfl | h
    · exact List.Subset.refl _
    · exact List.subset_cons_of_subset _ (Node.allNodesOfItems_subset h)
  | .table _ rows, h => by
    rcases List.mem_cons.mp h with rfl | h
    · exact List.Subset.refl _
    · exact List.subset_cons_of_subset _ (Row.allNodes_subset h)
  | .details _ summary body, h => by
    rcases List.mem_cons.mp h with rfl | h
    · exact List.Subset.refl _
    · rcases List.mem_append.mp h with h | h
      · exact List.subset_cons_of_subset _
          (List.subset_append_of_subset_left _ (Markup.allNodes_subset h))
      · exact List.subset_cons_of_subset _
          (List.subset_append_of_subset_right _ (Markup.allNodes_subset h))

@[inherit_doc Node.allNodes_subset]
theorem Markup.allNodes_subset {n : Node} :
    ∀ {ns : List Node}, n ∈ Markup.allNodes ns → n.allNodes ⊆ Markup.allNodes ns
  | [], h => by cases h
  | m :: ns, h => by
    rcases List.mem_append.mp h with h | h
    · exact List.subset_append_of_subset_left _ (Node.allNodes_subset h)
    · exact List.subset_append_of_subset_right _ (Markup.allNodes_subset h)

@[inherit_doc Node.allNodes_subset]
theorem Node.allNodesOfItems_subset {n : Node} :
    ∀ {items : List (List Node)}, n ∈ Node.allNodesOfItems items →
      n.allNodes ⊆ Node.allNodesOfItems items
  | [], h => by cases h
  | ns :: items, h => by
    rcases List.mem_append.mp h with h | h
    · exact List.subset_append_of_subset_left _ (Markup.allNodes_subset h)
    · exact List.subset_append_of_subset_right _ (Node.allNodesOfItems_subset h)

@[inherit_doc Node.allNodes_subset]
theorem Row.allNodes_subset {n : Node} :
    ∀ {rows : List Row}, n ∈ Row.allNodes rows → n.allNodes ⊆ Row.allNodes rows
  | [], h => by cases h
  | .mk _ cells :: rows, h => by
    rcases List.mem_append.mp h with h | h
    · exact List.subset_append_of_subset_left _ (Cell.allNodes_subset h)
    · exact List.subset_append_of_subset_right _ (Row.allNodes_subset h)

@[inherit_doc Node.allNodes_subset]
theorem Cell.allNodes_subset {n : Node} :
    ∀ {cells : List Cell}, n ∈ Cell.allNodes cells → n.allNodes ⊆ Cell.allNodes cells
  | [], h => by cases h
  | .mk _ ns :: cells, h => by
    rcases List.mem_append.mp h with h | h
    · exact List.subset_append_of_subset_left _ (Markup.allNodes_subset h)
    · exact List.subset_append_of_subset_right _ (Cell.allNodes_subset h)

end

/-! ## Pieces of documentation -/

mutual

/-- A piece of running text and all pieces inside it. -/
def Inline.pieces : Inline → List Inline
  | .text s => [.text s]
  | .code s => [.code s]
  | .emphasis xs => .emphasis xs :: Inline.piecesAll xs
  | .bold xs => .bold xs :: Inline.piecesAll xs
  | .link target xs => .link target xs :: Inline.piecesAll xs
  | .reference target xs => .reference target xs :: Inline.piecesAll xs

@[inherit_doc Inline.pieces]
def Inline.piecesAll : List Inline → List Inline
  | [] => []
  | x :: xs => x.pieces ++ Inline.piecesAll xs

end

def Tag.pieces : Tag → List Inline
  | .deprecated xs | .return xs => Inline.piecesAll xs
  | .open | .closed | .inline | .author _ | .since _ | .version _ => []

mutual

/-- All pieces of running text in a block. -/
def Block.pieces : Block → List Inline
  | .paragraph xs | .heading _ _ xs => Inline.piecesAll xs
  | .codeBlock _ | .verbatim _ => []
  | .list _ items => Block.piecesItems items
  | .tag t => t.pieces

@[inherit_doc Block.pieces]
def Block.piecesAll : List Block → List Inline
  | [] => []
  | b :: bs => b.pieces ++ Block.piecesAll bs

@[inherit_doc Block.pieces]
def Block.piecesItems : List (List Block) → List Inline
  | [] => []
  | bs :: items => Block.piecesAll bs ++ Block.piecesItems items

end

/-- All pieces of running text in a comment. -/
def Docs.pieces (docs : Docs) : List Inline := Block.piecesAll docs

theorem Docs.mem_pieces {docs : Docs} {x : Inline} :
    x ∈ docs.pieces ↔ ∃ b ∈ docs, x ∈ b.pieces := by
  induction docs with
  | nil => simp [pieces, Block.piecesAll]
  | cons b docs ih =>
    rw [pieces, Block.piecesAll, List.mem_append, List.exists_mem_cons_iff]
    exact or_congr_right ih

section Pieces

variable {here : Here}

/-- A reference keeps its content whether or not it becomes a link. -/
theorem Here.allNodes_reference (target : Identifier) (children : Markup) :
    Markup.allNodes children ⊆ (Noted.orElse
      ((here.settings.href here.page target false).map fun href => Node.link href children)
      (.reference target) (.span "xref-unresolved" children)).value.allNodes := by
  cases here.settings.href here.page target false with
  | ok href => exact List.subset_cons_self _ _
  | error e => exact List.subset_cons_self _ _

mutual

/-- Every piece of running text becomes a node of the text. -/
theorem Inline.mem_allNodes_render {x : Inline} :
    ∀ {y : Inline}, x ∈ y.pieces → (x.render here).value ∈ (y.render here).value.allNodes
  | .text _, h | .code _, h => by
    obtain rfl := List.mem_singleton.mp h
    exact Node.mem_allNodes_self _
  | .emphasis xs, h | .bold xs, h => by
    rcases List.mem_cons.mp h with rfl | h
    · exact Node.mem_allNodes_self _
    · exact List.mem_cons_of_mem _ (Inline.mem_allNodes_renderAll h)
  | .link target xs, h => by
    rcases List.mem_cons.mp h with rfl | h
    · exact Node.mem_allNodes_self _
    · cases xs with
      | nil => cases h
      | cons y ys => exact List.mem_cons_of_mem _ (Inline.mem_allNodes_renderAll h)
  | .reference target xs, h => by
    rcases List.mem_cons.mp h with rfl | h
    · exact Node.mem_allNodes_self _
    · cases xs with
      | nil => cases h
      | cons y ys => exact Here.allNodes_reference target _ (Inline.mem_allNodes_renderAll h)

@[inherit_doc Inline.mem_allNodes_render]
theorem Inline.mem_allNodes_renderAll {x : Inline} :
    ∀ {ys : List Inline}, x ∈ Inline.piecesAll ys →
      (x.render here).value ∈ Markup.allNodes (Inline.renderAll here ys).value
  | [], h => by cases h
  | y :: ys, h => by
    rcases List.mem_append.mp h with h | h
    · exact List.mem_append_left _ (Inline.mem_allNodes_render h)
    · exact List.mem_append_right _ (Inline.mem_allNodes_renderAll h)

end

theorem Tag.allNodes_block (name : String) (content : Markup) :
    Markup.allNodes content ⊆ Markup.allNodes [Tag.block name content] := by
  cases content with
  | nil => exact List.nil_subset _
  | cons n ns =>
    intro m hm
    simp [Tag.block, Markup.block, Markup.allNodes, Node.allNodes] at hm ⊢
    simp [hm]

theorem Tag.mem_allNodes_render {x : Inline} {t : Tag} (h : x ∈ t.pieces) :
    (x.render here).value ∈ Markup.allNodes (t.render here).value := by
  cases t with
  | «open» | closed | inline | author | since | version => cases h
  | deprecated xs | «return» xs =>
    exact Tag.allNodes_block _ _ (Inline.mem_allNodes_renderAll h)

mutual

@[inherit_doc Inline.mem_allNodes_render]
theorem Block.mem_allNodes_render {x : Inline} :
    ∀ {b : Block}, x ∈ b.pieces → (x.render here).value ∈ Markup.allNodes (b.render here).value
  | .paragraph xs, h | .heading _ _ xs, h =>
    List.mem_append_left _ (List.mem_cons_of_mem _ (Inline.mem_allNodes_renderAll h))
  | .codeBlock _, h | .verbatim _, h => by cases h
  | .list _ items, h =>
    List.mem_append_left _ (List.mem_cons_of_mem _ (Block.mem_allNodes_renderItems h))
  | .tag t, h => Tag.mem_allNodes_render h

@[inherit_doc Inline.mem_allNodes_render]
theorem Block.mem_allNodes_renderAll {x : Inline} :
    ∀ {bs : List Block}, x ∈ Block.piecesAll bs →
      (x.render here).value ∈ Markup.allNodes (Block.renderAll here bs).value
  | [], h => by cases h
  | b :: bs, h => by
    rw [Block.renderAll, Noted.value_bind, Noted.value_bind, Noted.value_pure,
      Markup.allNodes_append]
    rcases List.mem_append.mp h with h | h
    · exact List.mem_append_left _ (Block.mem_allNodes_render h)
    · exact List.mem_append_right _ (Block.mem_allNodes_renderAll h)

@[inherit_doc Inline.mem_allNodes_render]
theorem Block.mem_allNodes_renderItems {x : Inline} :
    ∀ {items : List (List Block)}, x ∈ Block.piecesItems items →
      (x.render here).value ∈ Node.allNodesOfItems (Block.renderItems here items).value
  | [], h => by cases h
  | bs :: items, h => by
    rcases List.mem_append.mp h with h | h
    · exact List.mem_append_left _ (Block.mem_allNodes_renderAll h)
    · exact List.mem_append_right _ (Block.mem_allNodes_renderItems h)

end

end Pieces

/-! ## Documentation of items -/

namespace Docs

/-- What is shown of the documentation of an item: the first paragraph if the item has a page. -/
def ofItem (docs : Docs) (hasPage : Bool) : Docs :=
  if hasPage then docs.synopsis?.toList else docs

/-- What is shown of a comment between items. -/
def ofComment (docs : Docs) : Visibility → Docs
  | .visible => docs
  | .hidden => []

end Docs

/-- The documentation of all elements in some tables. -/
def Table.docs (ts : List (Table Element)) : Docs :=
  (ts.flatMap Table.entries).flatMap Element.doc

mutual

/-- The documentation shown with items, starting with comments shown or hidden. -/
def SignatureItem.docsAll (visibility : Visibility) : List SignatureItem → Docs
  | [] => []
  | item :: items =>
    item.docs visibility ++ SignatureItem.docsAll (item.visibilityAfter visibility) items

@[inherit_doc SignatureItem.docsAll]
def SignatureItem.docs (visibility : Visibility) : SignatureItem → Docs
  | .module _ _ doc _ expansion | .moduleType _ doc _ expansion => doc.ofItem expansion.isSome
  | .moduleSubstitution _ doc _ => doc
  | .type _ decl | .typeSubstitution decl => Table.docs decl.tables ++ decl.doc
  | .extension e => Table.docs e.tables ++ e.doc
  | .exception e => Table.docs (Element.constructor e).nested ++ e.doc
  | .value v => v.doc
  | .external e => e.doc
  | .class _ c => c.doc.ofItem c.expansion.isSome
  | .classType _ c => c.doc.ofItem c.expansion.isSome
  | .include _ doc _ expansion =>
    if doc.hasTag .inline then SignatureItem.docsAll visibility expansion
    else doc ++ SignatureItem.docsAll .visible expansion
  | .comment .stop => []
  | .comment (.docs docs) => docs.ofComment visibility

end

/-- The documentation shown with the members of a class. -/
def ClassItem.docsAll : Visibility → List ClassItem → Docs
  | _, [] => []
  | visibility, .comment .stop :: items => ClassItem.docsAll visibility.toggle items
  | visibility, .comment (.docs docs) :: items =>
    docs.ofComment visibility ++ ClassItem.docsAll visibility items
  | visibility, .method m :: items => m.doc ++ ClassItem.docsAll visibility items
  | visibility, .instanceVariable v :: items => v.doc ++ ClassItem.docsAll visibility items
  | visibility, .constraint _ _ :: items => ClassItem.docsAll visibility items
  | visibility, .inherit _ :: items => ClassItem.docsAll visibility items

/-- The documentation shown with a subject. -/
def Subject.docs : Subject → Docs
  | .signature items | .functor _ items => SignatureItem.docsAll .visible items
  | .members items => ClassItem.docsAll .visible items
  | .pack _ => []
  | .text docs => docs

/-- All documentation that the page about a topic shows. -/
def Topic.docs (t : Topic) : Docs := t.doc ++ t.subject.docs

/-! ## Markup that holds documentation -/

/-- All nodes of the documentation are nodes of the markup. -/
def Markup.Holds (here : Here) (docs : Docs) (ns : Markup) : Prop :=
  ∀ b ∈ docs, Markup.allNodes (b.render here).value ⊆ Markup.allNodes ns

namespace Markup.Holds

variable {here : Here} {docs docs' : Docs} {ns ms : Markup}

theorem nil : Holds here [] ns := fun _ h => absurd h List.not_mem_nil

theorem append (h : Holds here docs ns) (h' : Holds here docs' ns) :
    Holds here (docs ++ docs') ns :=
  List.forall_mem_append.mpr ⟨h, h'⟩

theorem mono (h : Holds here docs ns) (hsub : allNodes ns ⊆ allNodes ms) : Holds here docs ms :=
  fun b hb => List.Subset.trans (h b hb) hsub

theorem left (h : Holds here docs ns) : Holds here docs (ns ++ ms) :=
  h.mono (by simp)

theorem right (h : Holds here docs ms) : Holds here docs (ns ++ ms) :=
  h.mono (by simp)

theorem render (docs : Docs) : Holds here docs (docs.render here).value := by
  induction docs with
  | nil => exact nil
  | cons b docs ih =>
    change Holds here (b :: docs) ((b.render here).value ++ (Docs.render here docs).value)
    refine List.forall_mem_cons.mpr ⟨by simp, ih.right⟩

theorem renderSynopsis (docs : Docs) :
    Holds here docs.synopsis?.toList (docs.renderSynopsis here).value := by
  rw [Docs.renderSynopsis]
  cases docs.synopsis? with
  | none => exact nil
  | some b => exact List.forall_mem_singleton.mpr (List.Subset.refl _)

/-- The documentation of a declaration stands behind its definition. -/
theorem declaration (h : Holds here docs ns) (kind : String) (anchor : Option String)
    (definition : Markup) : Holds here docs [Markup.declaration kind anchor definition ns] := by
  refine h.mono ?_
  cases ns with
  | nil => exact List.nil_subset _
  | cons n ns =>
    intro m hm
    simp [Markup.declaration, block, allNodes, Node.allNodes] at hm ⊢
    simp [hm]

end Markup.Holds

/-- The documentation of an item stands beside its name. -/
theorem Here.holds_heading (here : Here) (kind : PageKind) (name : String) (doc : Docs)
    (hasPage : Bool) :
    Markup.Holds here (doc.ofItem hasPage) (here.heading kind name doc hasPage).value.2 := by
  cases hasPage with
  | true => exact .renderSynopsis doc
  | false => exact .render doc

/-! ### Documentation in tables -/

/-- Documentation without anything to show leaves no nodes. -/
theorem Docs.allNodes_of_isSilent (here : Here) {docs : Docs} (h : docs.isSilent = true) :
    ∀ b ∈ docs, (b.render here).value = [] := by
  intro b hb
  have hsilent := List.all_eq_true.mp h b hb
  cases b with
  | tag t =>
    cases t with
    | «open» | closed | inline => rfl
    | _ => cases hsilent
  | _ => cases hsilent

theorem Element.allNodes_doc (here : Here) (e : Element) {b : Block} (hb : b ∈ e.doc) :
    Markup.allNodes (b.render here).value ⊆ Row.allNodes [(e.row here).value] := by
  rw [value_row, Row.value_ofDefinition, Row.docCells]
  split
  · rename_i hsilent
    rw [Docs.allNodes_of_isSilent here hsilent b hb]
    exact List.nil_subset _
  · intro n hn
    have hdoc := Markup.Holds.render e.doc b hb hn
    simp [Row.allNodes, Cell.allNodes, hdoc]

/-- The documentation of elements stands in the tables of a node. -/
theorem Node.holds_of_tables {here : Here} {n : Node} {ts : List (Table Element)}
    (h : n.tables = ts.map (Table.shown here)) : Markup.Holds here (Table.docs ts) [n] := by
  intro b hb
  obtain ⟨e, he, hb⟩ := List.mem_flatMap.mp hb
  obtain ⟨t, ht, he⟩ := List.mem_flatMap.mp he
  have hshown : t.shown here ∈ n.tables := h ▸ List.mem_map_of_mem ht
  obtain ⟨m, hm, htable⟩ := List.mem_filterMap.mp hshown
  cases m with
  | table cls rows =>
    obtain rfl : rows = t.entries.map fun e => (e.row here).value :=
      congrArg Table.entries (Option.some.inj htable)
    intro k hk
    obtain ⟨row, hrow, cell, hcell, hk⟩ := Row.mem_allNodes.mp (e.allNodes_doc here hb hk)
    obtain rfl := List.mem_singleton.mp hrow
    have htable : k ∈ Row.allNodes (t.entries.map fun e => (e.row here).value) :=
      Row.mem_allNodes.mpr ⟨_, List.mem_map.mpr ⟨e, he, rfl⟩, cell, hcell, hk⟩
    exact List.mem_append_left _ (Node.allNodes_subset hm (List.mem_cons_of_mem _ htable))
  | _ => cases htable

/-! ## Texts that hold documentation -/

/-- The text holds the documentation, if it comes out. -/
def Checked.Holds (here : Here) (docs : Docs) (x : Checked Content) : Prop :=
  x.Ensures (fun _ => True) fun c => Markup.Holds here docs c.body

namespace Checked.Holds

variable {α : Type} {here : Here} {docs docs' : Docs}

theorem ofNoted {x : Noted Content} (h : Markup.Holds here docs x.value.body) :
    Checked.Holds here docs (liftM x) :=
  Checked.Ensures.lift ⟨h, fun _ _ => trivial⟩

/-- Whatever comes before a text, the text holds what it holds. -/
theorem after {x : Checked α} {f : α → Checked Content} (h : ∀ a, Checked.Holds here docs (f a)) :
    Checked.Holds here docs (x >>= f) := by
  have hx : x.Ensures (fun _ => True) fun _ => True := ⟨fun _ _ _ => trivial, fun _ _ => trivial⟩
  exact Checked.Ensures.bind hx fun a _ => h a

theorem append {x y : Checked Content} (hx : Checked.Holds here docs x)
    (hy : Checked.Holds here docs' y) :
    Checked.Holds here (docs ++ docs') (do let a ← x; let b ← y; return a ++ b) := by
  refine Checked.Ensures.bind hx fun a ha => ?_
  exact Checked.Ensures.bind hy fun b hb => .pure (Markup.Holds.append ha.left hb.right)

theorem ofNode {node : Noted Node} (h : Markup.Holds here docs [node.value]) :
    Checked.Holds here docs (do return .ofNode (← node)) :=
  .ofNoted (x := do return .ofNode (← node)) h

/-- A node in front of other content. -/
theorem node_append {node : Noted Node} {y : Checked Content}
    (h : Markup.Holds here docs [node.value]) (hy : Checked.Holds here docs' y) :
    Checked.Holds here (docs ++ docs') (do let n ← node; return .ofNode n ++ (← y)) := by
  have hnode : node.Ensures (fun _ => True) fun n => Markup.Holds here docs [n] :=
    ⟨h, fun _ _ => trivial⟩
  refine Checked.Ensures.bind (.lift hnode) fun n hn => ?_
  exact Checked.Ensures.bind hy fun c hc => .pure (Markup.Holds.append hn.left hc.right)

theorem item {Declared : Type} (declared : Checked Declared)
    {node : Declared → Bool → Noted Node} {hasPage : Bool}
    (h : ∀ d, Markup.Holds here docs [(node d hasPage).value]) :
    Checked.Holds here docs (Checked.item declared node hasPage) :=
  .after fun d => .ofNode (h d)

end Checked.Holds

section Texts

variable (here : Here)

theorem Docs.holds_comment (docs : Docs) (visibility : Visibility) :
    Markup.Holds here (docs.ofComment visibility) (docs.comment here visibility).value.body := by
  cases visibility with
  | hidden => exact .nil
  | visible =>
    refine (Markup.Holds.render docs).mono ?_
    change _ ⊆ Markup.allNodes (if (docs.render here).value.isEmpty then [] else _)
    cases (docs.render here).value with
    | nil => exact List.nil_subset _
    | cons n ns => simp [Markup.block, Markup.allNodes, Node.allNodes]

theorem Constructor.tables_renderException (e : Constructor) :
    (e.renderException here).value.tables =
      (Element.constructor e).nested.map (Table.shown here) := by
  have harguments := e.tables_argumentParts here e.result.isSome
  have hresult := (Constructor.rowless_resultParts here e.arguments e.result).value
  have hdoc := (e.doc.rowless_render here).value
  simp [renderException, parts, Definition.Part.nodes, Identifier.marked, harguments, hresult, hdoc]

/-- What stands above an include holds its documentation. -/
theorem holds_includeBody (parent : Identifier) (doc : Docs) (decl : ModuleDecl) {docs : Docs}
    {inner : Checked Content} (h : Checked.Holds here docs inner) :
    Checked.Holds here (doc ++ docs) (do
      let head ← includeHead here parent doc decl
      let inner ← inner
      return includeBody here.settings doc head inner) := by
  have hhead : (includeHead here parent doc decl).Ensures (fun _ => True)
      fun head => head.2 = (doc.render here).value := by
    have hsummary : (decl.renderBody here parent).Ensures (fun _ => True) fun _ => True :=
      ⟨fun _ _ _ => trivial, fun _ _ => trivial⟩
    refine hsummary.bind fun summary _ => ?_
    refine Checked.Ensures.bind (.lift ⟨rfl, fun _ _ => trivial⟩) fun markup hmarkup => .pure ?_
    exact hmarkup.symm
  refine hhead.bind fun head hdoc => Checked.Ensures.bind h fun inner hinner => .pure ?_
  refine Markup.Holds.append ?_ (hinner.mono (includeBody_allNodes_subset ..))
  refine (Markup.Holds.render doc).mono ?_
  rw [← hdoc]
  obtain ⟨summary, markup⟩ := head
  cases markup with
  | nil => exact List.nil_subset _
  | cons n ns =>
    intro m hm
    simp [includeBody, Markup.block, Markup.allNodes, Node.allNodes] at hm ⊢
    rcases hm with hm | hm <;> simp [hm]

mutual

/-- The text of items holds the documentation shown with them. -/
theorem SignatureItem.holds_shownAll :
    ∀ (items : List SignatureItem) (visibility : Visibility),
      Checked.Holds here (SignatureItem.docsAll visibility items)
        (SignatureItem.shownAll here visibility items)
  | [], _ => .pure .nil
  | item :: items, visibility =>
    .append (SignatureItem.holds_shown item visibility)
      (SignatureItem.holds_shownAll items (item.visibilityAfter visibility))

@[inherit_doc SignatureItem.holds_shownAll]
theorem SignatureItem.holds_shown :
    ∀ (item : SignatureItem) (visibility : Visibility),
      Checked.Holds here (item.docs visibility) (item.shown here visibility)
  | .module _ id doc decl expansion, _ =>
    .item _ fun _ => (here.holds_heading .module id.name doc expansion.isSome).declaration _ _ _
  | .moduleType id doc expr expansion, _ =>
    .item _ fun _ => (here.holds_heading .moduleType id.name doc expansion.isSome).declaration _ _ _
  | .class _ c, _ =>
    .item _ fun _ =>
      (here.holds_heading .class c.id.name c.doc c.expansion.isSome).declaration _ _ _
  | .classType _ c, _ =>
    .item _ fun _ =>
      (here.holds_heading .classType c.id.name c.doc c.expansion.isSome).declaration _ _ _
  | .moduleSubstitution _ doc _, _ => .ofNode ((Markup.Holds.render doc).declaration _ _ _)
  | .type recursion decl, _ =>
    .ofNode (.append (Node.holds_of_tables (decl.tables_render here recursion false))
      ((Markup.Holds.render decl.doc).declaration _ _ _))
  | .typeSubstitution decl, _ =>
    .ofNode (.append (Node.holds_of_tables (decl.tables_render here .ordinary true))
      ((Markup.Holds.render decl.doc).declaration _ _ _))
  | .extension e, _ =>
    .ofNode (.append (Node.holds_of_tables (e.tables_render here))
      ((Markup.Holds.render e.doc).declaration _ _ _))
  | .exception e, _ =>
    .ofNode (.append (Node.holds_of_tables (e.tables_renderException here))
      ((Markup.Holds.render e.doc).declaration _ _ _))
  | .value v, _ => .ofNode ((Markup.Holds.render v.doc).declaration _ _ _)
  | .external e, _ => .ofNode ((Markup.Holds.render e.doc).declaration _ _ _)
  | .include parent doc decl expansion, visibility => by
    rw [SignatureItem.docs, SignatureItem.shown]
    split
    · exact SignatureItem.holds_shownAll expansion visibility
    · exact holds_includeBody here parent doc decl
        (SignatureItem.holds_shownAll expansion .visible)
  | .comment .stop, _ => .pure .nil
  | .comment (.docs docs), visibility => .ofNoted (docs.holds_comment here visibility)

end

theorem ClassItem.holds_renderAll (items : List ClassItem) (visibility : Visibility) :
    Checked.Holds here (ClassItem.docsAll visibility items)
      (ClassItem.renderAll here visibility items) := by
  induction items generalizing visibility with
  | nil =>
    rw [ClassItem.docsAll, ClassItem.renderAll]
    exact .pure .nil
  | cons item items ih =>
    cases item with
    | comment c =>
      cases c with
      | stop =>
        rw [ClassItem.docsAll, ClassItem.renderAll]
        exact ih visibility.toggle
      | docs docs =>
        rw [ClassItem.docsAll, ClassItem.renderAll]
        exact .append (.ofNoted (docs.holds_comment here visibility)) (ih visibility)
    | «inherit» type =>
      cases type with
      | signature self members =>
        rw [ClassItem.renderAll]
        exact .throw _
      | constr path arguments =>
        rw [ClassItem.docsAll, ClassItem.renderAll]
        exact .node_append .nil (ih visibility)
    | method m =>
      rw [ClassItem.docsAll, ClassItem.renderAll]
      exact .node_append ((Markup.Holds.render m.doc).declaration _ _ _) (ih visibility)
    | instanceVariable v =>
      rw [ClassItem.docsAll, ClassItem.renderAll]
      exact .node_append ((Markup.Holds.render v.doc).declaration _ _ _) (ih visibility)
    | constraint a b =>
      rw [ClassItem.docsAll, ClassItem.renderAll]
      exact .node_append .nil (ih visibility)

/-- What is shown of a subject holds the documentation shown with it. -/
theorem Subject.holds_shown (subject : Subject) :
    Checked.Holds here subject.docs (subject.shown here) := by
  cases subject with
  | signature items => exact SignatureItem.holds_shownAll here items .visible
  | functor parameters result =>
    refine .after fun parameters => ?_
    have hresult := SignatureItem.holds_shownAll here result .visible
    exact Checked.Ensures.bind hresult fun result h =>
      .pure (h.mono (functorBody_result_subset parameters result))
  | members items => exact ClassItem.holds_renderAll here items .visible
  | pack modules => exact .ofNoted .nil
  | text docs => exact .ofNoted (.render docs)

end Texts

/-- **Documentation on a page.**  Every piece of running text in the documentation that a page shows
becomes a node of the page, as it is rendered there. -/
theorem Topic.Fits.mem_allNodes {here : Here} {t : Topic} {page : Page} (h : t.Fits here page)
    {x : Inline} (hx : x ∈ t.docs.pieces) :
    (x.render here).value ∈ Markup.allNodes (page.header ++ page.body) := by
  obtain ⟨c, ns, hshown, hbody, -⟩ := h.content
  have hsubject : Markup.Holds here t.subject.docs c.body :=
    (t.subject.holds_shown here).value c ns hshown
  have hholds : Markup.Holds here t.docs (page.header ++ page.body) := by
    rw [h.header, hbody]
    exact (Markup.Holds.render t.doc).left.append hsubject.right
  obtain ⟨b, hb, hpiece⟩ := Docs.mem_pieces.mp hx
  exact hholds b hb (Block.mem_allNodes_render hpiece)

end DocSite
