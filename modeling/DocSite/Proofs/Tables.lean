import DocSite.Proofs.TypeWriting

/-!
# Tables of a page

A table can stand inside the row of another one, and `Markup.tables` finds all of them.  There is
one equation for each way to put markup together.

Documentation and types have no tables and leave no notes about rows.  So a text has its tables, and
its notes about rows, from the declarations in it alone (`Noted.Rowless`).
-/

namespace DocSite

variable {α β : Type}

/-! ## Tables in markup -/

/-- A table of rows, or of what is to become rows. -/
@[ext] structure Table (α : Type) where
  cls : String
  entries : List α

def Table.map (f : α → β) (t : Table α) : Table β := ⟨t.cls, t.entries.map f⟩

def Node.table? : Node → Option (Table Row)
  | .table cls rows => some ⟨cls, rows⟩
  | _ => none

/-- The tables of a node, each before those inside it. -/
def Node.tables (n : Node) : List (Table Row) := n.allNodes.filterMap Node.table?

@[inherit_doc Node.tables]
def Markup.tables (ns : Markup) : List (Table Row) := (Markup.allNodes ns).filterMap Node.table?

@[inherit_doc Node.tables]
def Row.tables (row : Row) : List (Table Row) :=
  row.cells.flatMap fun cell => Markup.tables cell.children

namespace Markup

@[simp] theorem tables_nil : tables [] = [] := rfl

@[simp] theorem tables_cons (n : Node) (ns : Markup) : tables (n :: ns) = n.tables ++ tables ns :=
  List.filterMap_append

@[simp] theorem tables_append (a b : Markup) : tables (a ++ b) = tables a ++ tables b := by
  rw [tables, allNodes_append, List.filterMap_append]
  rfl

end Markup

namespace Node

@[simp] theorem tables_text (s : String) : (Node.text s).tables = [] := rfl

@[simp] theorem tables_keyword (s : String) : (Node.keyword s).tables = [] := rfl

@[simp] theorem tables_anchor (id : String) : (Node.anchor id).tables = [] := rfl

@[simp] theorem tables_pre (s : String) : (Node.pre s).tables = [] := rfl

@[simp] theorem tables_link (href : String) (ns : Markup) :
    (Node.link href ns).tables = Markup.tables ns := rfl

@[simp] theorem tables_span (cls : String) (ns : Markup) :
    (Node.span cls ns).tables = Markup.tables ns := rfl

@[simp] theorem tables_code (ns : Markup) : (Node.code ns).tables = Markup.tables ns := rfl

@[simp] theorem tables_emphasis (ns : Markup) : (Node.emphasis ns).tables = Markup.tables ns := rfl

@[simp] theorem tables_bold (ns : Markup) : (Node.bold ns).tables = Markup.tables ns := rfl

@[simp] theorem tables_paragraph (ns : Markup) :
    (Node.paragraph ns).tables = Markup.tables ns := rfl

@[simp] theorem tables_heading (level : UInt8) (id : Option String) (ns : Markup) :
    (Node.heading level id ns).tables = Markup.tables ns := rfl

@[simp] theorem tables_div (cls : String) (id : Option String) (ns : Markup) :
    (Node.div cls id ns).tables = Markup.tables ns := rfl

@[simp] theorem tables_list (ordered : Bool) (items : List Markup) :
    (Node.list ordered items).tables = items.flatMap Markup.tables := by
  have hitems : (Node.allNodesOfItems items).filterMap Node.table? =
      items.flatMap Markup.tables := by
    induction items with
    | nil => rfl
    | cons item items ih =>
      rw [Node.allNodesOfItems, List.filterMap_append, ih, List.flatMap_cons]
      rfl
  exact hitems

theorem tables_cells (cells : List Cell) :
    (Cell.allNodes cells).filterMap Node.table? =
      cells.flatMap fun cell => Markup.tables cell.children := by
  induction cells with
  | nil => rfl
  | cons cell cells ih =>
    obtain ⟨cls, ns⟩ := cell
    rw [Cell.allNodes, List.filterMap_append, ih, List.flatMap_cons]
    rfl

@[simp] theorem tables_table (cls : String) (rows : List Row) :
    (Node.table cls rows).tables = ⟨cls, rows⟩ :: rows.flatMap Row.tables := by
  have hrows : (Row.allNodes rows).filterMap Node.table? = rows.flatMap Row.tables := by
    induction rows with
    | nil => rfl
    | cons row rows ih =>
      obtain ⟨id, cells⟩ := row
      rw [Row.allNodes, List.filterMap_append, ih, tables_cells, List.flatMap_cons]
      rfl
  exact congrArg (⟨cls, rows⟩ :: ·) hrows

end Node

namespace Markup

@[simp] theorem tables_arrow : arrow.tables = [] := rfl

theorem tables_join (sep : Markup) {parts : List Markup} (hsep : tables sep = [])
    (h : ∀ part ∈ parts, tables part = []) : tables (join sep parts) = [] := by
  induction parts with
  | nil => rfl
  | cons part parts ih =>
    rw [List.forall_mem_cons] at h
    cases parts with
    | nil => exact h.1
    | cons next parts =>
      have hjoin : join sep (part :: next :: parts) = part ++ sep ++ join sep (next :: parts) := rfl
      rw [hjoin, tables_append, tables_append, h.1, hsep, ih h.2]
      rfl

@[simp] theorem tables_anchorOf (anchor : Option String) :
    tables (anchor.map Node.anchor).toList = [] := by
  cases anchor <;> rfl

@[simp] theorem tables_declaration (kind : String) (anchor : Option String)
    (definition doc : Markup) :
    (declaration kind anchor definition doc).tables = tables definition ++ tables doc := by
  cases doc <;> simp [declaration, block]

end Markup

namespace Definition

theorem tables_codeOf (tokens : Markup) :
    Markup.tables (codeOf tokens) = Markup.tables tokens := by
  cases tokens <;> simp [codeOf]

theorem tables_layoutFrom (pending : Markup) (parts : List Part) :
    Markup.tables (layoutFrom pending parts) =
      Markup.tables pending ++ Markup.tables (parts.flatMap Part.nodes) := by
  fun_induction layoutFrom pending parts with
  | case1 pending => simp [tables_codeOf]
  | case2 pending tokens parts ih => simp [ih, Part.nodes]
  | case3 pending node parts ih => simp [ih, tables_codeOf, Part.nodes]

/-- The layout leaves the tables of a definition as they are. -/
@[simp] theorem tables_layout (parts : List Part) :
    Markup.tables (layout parts) = Markup.tables (parts.flatMap Part.nodes) := by
  rw [layout, tables_layoutFrom, Markup.tables_nil, List.nil_append]

end Definition

/-! ## Notes about rows -/

/-- The note is about a row that lost its anchor. -/
def Note.isRow : Note → Bool
  | .row _ _ | .variantRow _ _ => true
  | .path _ _ | .fragment _ _ | .anchor _ _ | .reference _ _ => false

namespace Noted

/-- The notes about rows. -/
def rowNotes (x : Noted α) : List Note := x.notes.filter Note.isRow

@[simp] theorem rowNotes_pure (a : α) : (pure a : Noted α).rowNotes = [] := rfl

@[simp] theorem rowNotes_bind (x : Noted α) (f : α → Noted β) :
    (x >>= f).rowNotes = x.rowNotes ++ (f x.value).rowNotes :=
  List.filter_append ..

/-- The text comes out as `Q` says and leaves no note about a row. -/
abbrev Rowless (Q : α → Prop) (x : Noted α) : Prop := x.Ensures (fun note => note.isRow = false) Q

theorem Rowless.rowNotes_eq_nil {Q : α → Prop} {x : Noted α} (h : x.Rowless Q) :
    x.rowNotes = [] :=
  List.filter_eq_nil_iff.mpr fun note hnote => Bool.not_eq_true _ ▸ h.notes note hnote

end Noted

/-- The markup has no tables. -/
abbrev Markup.Tableless (ns : Markup) : Prop := Markup.tables ns = []

/-! ## Texts without rows -/

theorem Identifier.rowless_anchor (id : Identifier) : id.anchorOrNote.Rowless fun _ => True :=
  .orElse_map (fun _ _ => trivial) (fun _ _ => rfl) trivial

theorem Settings.tableless_pathMarkup (cfg : Settings) (source : PagePath) :
    ∀ (p : Path) (stopBefore : Bool) {ns : Markup},
      cfg.pathMarkup source stopBefore p = .ok ns → Markup.Tableless ns
  | .resolved p, stopBefore, ns, h => by
    rw [Settings.pathMarkup] at h
    split at h
    · cases h
      rfl
    · obtain ⟨href, -, ⟨⟩⟩ := except_bind_eq_ok.mp h
      rfl
  | .root _, _, ns, h | .forward _, _, ns, h => by
    cases h
    rfl
  | .dot p n, stopBefore, ns, h => by
    obtain ⟨parent, hparent, ⟨⟩⟩ := except_bind_eq_ok.mp h
    simp [Markup.Tableless, Settings.tableless_pathMarkup cfg source p true hparent]
  | .apply f a, stopBefore, ns, h => by
    obtain ⟨functor, hfunctor, h⟩ := except_bind_eq_ok.mp h
    obtain ⟨argument, hargument, ⟨⟩⟩ := except_bind_eq_ok.mp h
    simp [Markup.Tableless, Settings.tableless_pathMarkup cfg source f stopBefore hfunctor,
      Settings.tableless_pathMarkup cfg source a false hargument]

section Texts

variable (here : Here)

theorem Here.rowless_path (stopBefore : Bool) (p : Path) :
    (here.path stopBefore p).Rowless Markup.Tableless :=
  .orElse (fun _ h => here.settings.tableless_pathMarkup here.page p stopBefore h)
    (fun _ _ => rfl) rfl

theorem Here.rowless_fragmentOrText (base : Option Identifier) (f : Fragment) :
    (here.fragmentOrText base f).Rowless Markup.Tableless := by
  cases base with
  | none => exact .pure rfl
  | some base =>
    refine .orElse (fun ns h => ?_) (fun _ _ => rfl) rfl
    cases f with
    | root | dot =>
      cases h
      rfl
    | resolved f =>
      obtain ⟨href, -, ⟨⟩⟩ := except_bind_eq_ok.mp h
      rfl

mutual

theorem Inline.rowless_render : ∀ x : Inline, (x.render here).Rowless fun n => n.tables = []
  | .text _ | .code _ => .pure rfl
  | .emphasis xs | .bold xs =>
    (Inline.rowless_renderAll xs).bind fun _ hchildren => .pure hchildren
  | .link target xs => by
    rw [Inline.render]
    split
    · exact .pure rfl
    · exact (Inline.rowless_renderAll xs).bind fun _ hchildren => .pure hchildren
  | .reference target xs => by
    have hlink : ∀ children, Markup.Tableless children →
        (Noted.orElse
          ((here.settings.href here.page target false).map fun href => Node.link href children)
          (.reference target) (.span "xref-unresolved" children)).Rowless fun n => n.tables = [] :=
      fun children hchildren => .orElse_map (fun _ _ => hchildren) (fun _ _ => rfl) hchildren
    rw [Inline.render]
    split
    · exact hlink _ rfl
    · exact (Inline.rowless_renderAll xs).bind hlink

theorem Inline.rowless_renderAll :
    ∀ xs : List Inline, (Inline.renderAll here xs).Rowless Markup.Tableless
  | [] => .pure rfl
  | x :: xs => by
    refine (Inline.rowless_render x).bind fun n hn => ?_
    refine (Inline.rowless_renderAll xs).bind fun ns hns => .pure ?_
    simp [Markup.Tableless, hn, hns]

end

theorem Tag.tables_block (name : String) (content : Markup) :
    (Tag.block name content).tables = Markup.tables content := by
  cases content <;> simp [Tag.block, Markup.block]

theorem Tag.rowless_render (t : Tag) : (t.render here).Rowless Markup.Tableless := by
  cases t with
  | «open» | closed | inline | author | since | version => exact .pure rfl
  | deprecated xs | «return» xs =>
    refine (Inline.rowless_renderAll here xs).bind fun content hcontent => .pure ?_
    simp [Markup.Tableless, Tag.tables_block, hcontent]

mutual

theorem Block.rowless_render : ∀ b : Block, (b.render here).Rowless Markup.Tableless
  | .paragraph xs | .heading _ _ xs => by
    refine (Inline.rowless_renderAll here xs).bind fun content hcontent => .pure ?_
    simp [Markup.Tableless, hcontent]
  | .codeBlock _ | .verbatim _ => .pure rfl
  | .list ordered items => by
    refine (Block.rowless_renderItems items).bind fun items hitems => .pure ?_
    simpa [Markup.Tableless] using hitems
  | .tag t => Tag.rowless_render here t

theorem Block.rowless_renderAll :
    ∀ bs : List Block, (Block.renderAll here bs).Rowless Markup.Tableless
  | [] => .pure rfl
  | b :: bs => by
    refine (Block.rowless_render b).bind fun first hfirst => ?_
    refine (Block.rowless_renderAll bs).bind fun rest hrest => .pure ?_
    simp [Markup.Tableless, hfirst, hrest]

theorem Block.rowless_renderItems :
    ∀ items : List (List Block), (Block.renderItems here items).Rowless fun items =>
      ∀ item ∈ items, Markup.Tableless item
  | [] => .pure (by simp)
  | bs :: items => by
    refine (Block.rowless_renderAll bs).bind fun first hfirst => ?_
    refine (Block.rowless_renderItems items).bind fun rest hrest => .pure ?_
    exact List.forall_mem_cons.mpr ⟨hfirst, hrest⟩

end

theorem Docs.rowless_render (docs : Docs) : (docs.render here).Rowless Markup.Tableless :=
  Block.rowless_renderAll here docs

/-! ### Types -/

namespace TypeText

theorem tableless_enclose {parens : Bool} {inner : Markup} (h : Markup.Tableless inner) :
    Markup.Tableless (enclose parens inner) := by
  cases parens <;> simp [Markup.Tableless, enclose, Markup.inParentheses, h]

theorem tables_label (l : Option Label) : Markup.tables (label l) = [] := by
  rcases l with _ | _ | _ <;> rfl

theorem tableless_product {parts : List Markup} (h : ∀ part ∈ parts, Markup.Tableless part) :
    Markup.Tableless (product parts) :=
  Markup.tables_join _ rfl h

theorem tableless_application {brackets : Brackets} {arguments : List Markup} {path : Markup}
    (harguments : ∀ a ∈ arguments, Markup.Tableless a) (hpath : Markup.Tableless path) :
    Markup.Tableless (application brackets arguments path) := by
  rcases arguments with _ | ⟨a, _ | ⟨b, arguments⟩⟩
  · exact hpath
  · simp [Markup.Tableless, application, harguments a List.mem_cons_self, hpath]
  · have hjoin := Markup.tables_join [.text ("," ++ fixedBlank)] rfl harguments
    simp [Markup.Tableless, application, hjoin, hpath]

theorem tableless_tag {name : String} {arguments : List Markup}
    (h : ∀ a ∈ arguments, Markup.Tableless a) : Markup.Tableless (tag name arguments) := by
  have hproduct := tableless_product h
  cases arguments <;> simp [Markup.Tableless, tag, hproduct]

theorem tableless_object {fields : List Markup} {isOpen : Bool}
    (h : ∀ f ∈ fields, Markup.Tableless f) : Markup.Tableless (object fields isOpen) := by
  have hjoin := Markup.tables_join [.text "; "] rfl h
  rw [object]
  split
  · rfl
  · cases isOpen <;> simp [Markup.Tableless, hjoin]

end TypeText

open TypeText

mutual

theorem TypeExpr.rowless_render :
    ∀ (t : TypeExpr) (parens : Bool), (t.render here parens).Rowless Markup.Tableless
  | .var _, _ | .any, _ => .pure rfl
  | .alias t n, parens => by
    refine (TypeExpr.rowless_render t true).bind fun inner hinner => .pure ?_
    exact tableless_enclose (by simp [Markup.Tableless, hinner])
  | .arrow l s t, parens => by
    refine (TypeExpr.rowless_render s true).bind fun source hsource => ?_
    refine (TypeExpr.rowless_render t false).bind fun target htarget => .pure ?_
    exact tableless_enclose (by simp [Markup.Tableless, tables_label, hsource, htarget])
  | .tuple ts, parens => by
    refine (TypeExpr.rowless_renderAll ts true).bind fun parts hparts => .pure ?_
    exact tableless_enclose (tableless_product hparts)
  | .constr p ts, parens => by
    refine (here.rowless_path false p).bind fun path hpath => ?_
    refine (TypeExpr.rowless_renderAll ts _).bind fun arguments harguments => .pure ?_
    exact tableless_application harguments hpath
  | .variant k es, parens => by
    refine (VariantElement.rowless_renderAll es).bind fun parts hparts => .pure ?_
    have hjoin := Markup.tables_join [.text " | "] rfl hparts
    simp [Markup.Tableless, hjoin]
  | .object fs isOpen, parens => by
    refine (ObjectField.rowless_renderAll fs).bind fun fields hfields => .pure ?_
    exact tableless_object hfields
  | .class p ts, parens => by
    refine (here.rowless_path false p).bind fun path hpath => ?_
    refine (TypeExpr.rowless_renderAll ts _).bind fun arguments harguments => .pure ?_
    exact tableless_application harguments (by simp [Markup.Tableless, hpath])
  | .poly vs t, parens => by
    refine (TypeExpr.rowless_render t false).bind fun body hbody => .pure ?_
    simp [Markup.Tableless, hbody]
  | .package p ss, parens => by
    refine (here.rowless_path false p).bind fun path hpath => ?_
    refine (TypeExpr.rowless_renderSubstitutions ss _).bind fun constraints hconstraints =>
      .pure ?_
    have hjoin := Markup.tables_join [.keyword " and "] rfl hconstraints
    cases constraints <;> simp [Markup.Tableless, hpath, hjoin]

theorem TypeExpr.rowless_renderAll :
    ∀ (ts : List TypeExpr) (parens : Bool), (TypeExpr.renderAll here parens ts).Rowless fun parts =>
      ∀ part ∈ parts, Markup.Tableless part
  | [], _ => .pure (by simp)
  | t :: ts, parens => by
    refine (TypeExpr.rowless_render t parens).bind fun first hfirst => ?_
    refine (TypeExpr.rowless_renderAll ts parens).bind fun rest hrest => .pure ?_
    exact List.forall_mem_cons.mpr ⟨hfirst, hrest⟩

theorem TypeExpr.rowless_renderSubstitutions :
    ∀ (ss : List (Fragment × TypeExpr)) (base : Option Identifier),
      (TypeExpr.renderSubstitutions here base ss).Rowless fun parts =>
        ∀ part ∈ parts, Markup.Tableless part
  | [], _ => .pure (by simp)
  | (f, t) :: ss, base => by
    refine (here.rowless_fragmentOrText base f).bind fun name hname => ?_
    refine (TypeExpr.rowless_render t false).bind fun type htype => ?_
    refine (TypeExpr.rowless_renderSubstitutions ss base).bind fun rest hrest => .pure ?_
    exact List.forall_mem_cons.mpr ⟨by simp [Markup.Tableless, hname, htype], hrest⟩

theorem VariantElement.rowless_renderAll :
    ∀ es : List VariantElement, (VariantElement.renderAll here es).Rowless fun parts =>
      ∀ part ∈ parts, Markup.Tableless part
  | [] => .pure (by simp)
  | .inherit t :: es => by
    refine (TypeExpr.rowless_render t false).bind fun first hfirst => ?_
    refine (VariantElement.rowless_renderAll es).bind fun rest hrest => .pure ?_
    exact List.forall_mem_cons.mpr ⟨hfirst, hrest⟩
  | .tag n ts _ :: es => by
    refine (TypeExpr.rowless_renderAll ts true).bind fun arguments harguments => ?_
    refine (VariantElement.rowless_renderAll es).bind fun rest hrest => .pure ?_
    exact List.forall_mem_cons.mpr ⟨tableless_tag harguments, hrest⟩

theorem ObjectField.rowless_renderAll :
    ∀ fs : List ObjectField, (ObjectField.renderAll here fs).Rowless fun parts =>
      ∀ part ∈ parts, Markup.Tableless part
  | [] => .pure (by simp)
  | .method n t :: fs => by
    refine (TypeExpr.rowless_render t false).bind fun type htype => ?_
    refine (ObjectField.rowless_renderAll fs).bind fun rest hrest => .pure ?_
    exact List.forall_mem_cons.mpr ⟨by simp [Markup.Tableless, htype], hrest⟩
  | .inherit t :: fs => by
    refine (TypeExpr.rowless_render t false).bind fun type htype => ?_
    refine (ObjectField.rowless_renderAll fs).bind fun rest hrest => .pure ?_
    exact List.forall_mem_cons.mpr ⟨htype, hrest⟩

end

theorem TypeEquation.rowless_renderConstraints (constraints : List (TypeExpr × TypeExpr)) :
    (TypeEquation.renderConstraints here constraints).Rowless Markup.Tableless := by
  induction constraints with
  | nil => exact .pure rfl
  | cons c rest ih =>
    refine (TypeExpr.rowless_render here c.1 false).bind fun left hleft => ?_
    refine (TypeExpr.rowless_render here c.2 false).bind fun right hright => ?_
    refine ih.bind fun rest hrest => .pure ?_
    simp [Markup.Tableless, hleft, hright, hrest]

end Texts

end DocSite
