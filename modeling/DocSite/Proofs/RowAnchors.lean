import DocSite.Proofs.TableRows

/-!
# Tables and the anchors of their rows

Where an element of a type stands, that is, what its identifier says to contain it, decides the
anchor of its row and nothing else.  Two declarations that differ only in this are `Alike`, and any
subset of anchors may be found in the one and not in the other.  `Row.unanchored` is a row without
its id, and without the links to themselves of the row and of the rows inside it.  The tables of
declarations that are alike are the same when all their rows are taken without anchors.
-/

namespace DocSite

/-! ## Rows without anchors -/

mutual

/-- The node without what anchors leave in it: the ids of rows, and links of declarations to
themselves. -/
def Node.unanchored : Node → Markup
  | .anchor _ => []
  | .text s => [.text s]
  | .keyword s => [.keyword s]
  | .pre s => [.pre s]
  | .link href ns => [.link href (Markup.unanchored ns)]
  | .span cls ns => [.span cls (Markup.unanchored ns)]
  | .code ns => [.code (Markup.unanchored ns)]
  | .emphasis ns => [.emphasis (Markup.unanchored ns)]
  | .bold ns => [.bold (Markup.unanchored ns)]
  | .paragraph ns => [.paragraph (Markup.unanchored ns)]
  | .heading level id ns => [.heading level id (Markup.unanchored ns)]
  | .list ordered items => [.list ordered (Node.unanchoredItems items)]
  | .div cls id ns => [.div cls id (Markup.unanchored ns)]
  | .table cls rows => [.table cls (Row.unanchoredAll rows)]
  | .details isOpen summary body =>
    [.details isOpen (Markup.unanchored summary) (Markup.unanchored body)]

@[inherit_doc Node.unanchored]
def Markup.unanchored : List Node → Markup
  | [] => []
  | n :: ns => n.unanchored ++ Markup.unanchored ns

@[inherit_doc Node.unanchored]
def Node.unanchoredItems : List (List Node) → List Markup
  | [] => []
  | ns :: items => Markup.unanchored ns :: Node.unanchoredItems items

@[inherit_doc Node.unanchored]
def Row.unanchored : Row → Row
  | .mk _ cells => .mk none (Cell.unanchoredAll cells)

@[inherit_doc Node.unanchored]
def Row.unanchoredAll : List Row → List Row
  | [] => []
  | row :: rows => row.unanchored :: Row.unanchoredAll rows

@[inherit_doc Node.unanchored]
def Cell.unanchoredAll : List Cell → List Cell
  | [] => []
  | .mk cls ns :: cells => .mk cls (Markup.unanchored ns) :: Cell.unanchoredAll cells

end

theorem Row.unanchoredAll_eq_map (rows : List Row) :
    Row.unanchoredAll rows = rows.map Row.unanchored := by
  induction rows with
  | nil => rfl
  | cons row rows ih => rw [Row.unanchoredAll, ih, List.map_cons]

theorem Markup.unanchored_append (a b : Markup) :
    unanchored (a ++ b) = unanchored a ++ unanchored b := by
  induction a with
  | nil => rfl
  | cons n a ih => rw [List.cons_append, unanchored, ih, unanchored, List.append_assoc]

theorem Markup.unanchored_anchorOf (anchor : Option String) :
    unanchored (anchor.map Node.anchor).toList = [] := by
  cases anchor <;> rfl

/-- The row of a definition has its anchor in its id and before the definition, and nowhere else. -/
theorem Row.unanchored_ofDefinition (here : Here) {anchor anchor' : Option String} (kind : String)
    {definition definition' : Markup} (doc : Docs)
    (h : Markup.unanchored definition = Markup.unanchored definition') :
    (ofDefinition here anchor kind definition doc).value.unanchored =
      (ofDefinition here anchor' kind definition' doc).value.unanchored := by
  rw [value_ofDefinition, value_ofDefinition, unanchored, unanchored, Cell.unanchoredAll,
    Cell.unanchoredAll, Markup.unanchored_append, Markup.unanchored_append,
    Markup.unanchored_anchorOf, Markup.unanchored_anchorOf, h]

namespace Definition

/-- Parts of a definition that are the same but for the anchors in them. -/
inductive Part.Alike : Part → Part → Prop
  | inline (tokens : Markup) : Alike (.inline tokens) (.inline tokens)
  | block {n n' : Node} (h : n.unanchored = n'.unanchored) : Alike (.block n) (.block n')

theorem Part.Alike.refl : ∀ part : Part, part.Alike part
  | .inline tokens => .inline tokens
  | .block _ => .block rfl

theorem unanchored_layoutFrom {parts parts' : List Part} (h : List.Forall₂ Part.Alike parts parts')
    (pending : Markup) :
    Markup.unanchored (layoutFrom pending parts) =
      Markup.unanchored (layoutFrom pending parts') := by
  induction h generalizing pending with
  | nil => rfl
  | cons hpart _ ih =>
    cases hpart with
    | inline tokens => exact ih (pending ++ tokens)
    | block hblock =>
      rw [layoutFrom, layoutFrom, Markup.unanchored_append, Markup.unanchored_append,
        Markup.unanchored, Markup.unanchored, hblock, ih []]

end Definition

/-! ## Declarations that are alike -/

/-- The identifiers have the same kind and name, whatever contains them. -/
structure Identifier.Alike (i j : Identifier) : Prop where
  kind : i.kind = j.kind
  name : i.name = j.name

theorem Identifier.Alike.marked_eq {i j : Identifier} (h : i.Alike j) : i.marked = j.marked := by
  rw [Identifier.marked, Identifier.marked, h.kind, h.name]

/-- The fields are the same but for what contains them. -/
structure Field.Alike (f g : Field) : Prop where
  id : f.id.Alike g.id
  doc : f.doc = g.doc
  isMutable : f.isMutable = g.isMutable
  type : f.type = g.type

@[inherit_doc Field.Alike]
inductive ConstructorArguments.Alike : ConstructorArguments → ConstructorArguments → Prop
  | tuple (types : List TypeExpr) : Alike (.tuple types) (.tuple types)
  | record {fs gs : List Field} (h : List.Forall₂ Field.Alike fs gs) :
    Alike (.record fs) (.record gs)

/-- The constructors are the same but for what contains them and their fields. -/
structure Constructor.Alike (c d : Constructor) : Prop where
  id : c.id.Alike d.id
  doc : c.doc = d.doc
  arguments : c.arguments.Alike d.arguments
  result : c.result = d.result

@[inherit_doc Constructor.Alike]
inductive TypeRepresentation.Alike : TypeRepresentation → TypeRepresentation → Prop
  | variant {cs ds : List Constructor} (h : List.Forall₂ Constructor.Alike cs ds) :
    Alike (.variant cs) (.variant ds)
  | record {fs gs : List Field} (h : List.Forall₂ Field.Alike fs gs) :
    Alike (.record fs) (.record gs)
  | extensible : Alike .extensible .extensible

/-- The type declarations are the same but for what contains them, their constructors and their
fields. -/
structure TypeDecl.Alike (d d' : TypeDecl) : Prop where
  id : d.id.Alike d'.id
  doc : d.doc = d'.doc
  equation : d.equation = d'.equation
  representation : Option.Rel TypeRepresentation.Alike d.representation d'.representation

/-- The extensions are the same but for what contains their constructors and fields. -/
structure Extension.Alike (e e' : Extension) : Prop where
  path : e.path = e'.path
  doc : e.doc = e'.doc
  parameters : e.parameters = e'.parameters
  isPrivate : e.isPrivate = e'.isPrivate
  constructors : List.Forall₂ Constructor.Alike e.constructors e'.constructors

/-- Elements that are the same but for what contains them. -/
inductive Element.Alike : Element → Element → Prop
  | field {f g : Field} (h : f.Alike g) : Alike (.field f) (.field g)
  | constructor {c d : Constructor} (h : c.Alike d) : Alike (.constructor c) (.constructor d)
  | variant (i j : Identifier) (e : VariantElement) : Alike (.variant i e) (.variant j e)

/-- Tables of elements that are alike. -/
structure Table.Alike (t u : Table Element) : Prop where
  cls : t.cls = u.cls
  entries : List.Forall₂ Element.Alike t.entries u.entries

/-! ## Rows that are alike -/

theorem map_eq_map_of_forall₂ {α β γ : Type} {R : α → β → Prop} {f : α → γ} {g : β → γ}
    {xs : List α} {ys : List β} (h : List.Forall₂ R xs ys) (hR : ∀ x y, R x y → f x = g y) :
    xs.map f = ys.map g := by
  induction h with
  | nil => rfl
  | cons hxy _ ih => rw [List.map_cons, List.map_cons, hR _ _ hxy, ih]

section Rows

variable (here : Here)

/-- Rows with the same definition, class and documentation are the same but for their anchors. -/
theorem Element.unanchored_row_eq {e e' : Element}
    (hdefinition : Markup.unanchored (e.definition here).value =
      Markup.unanchored (e'.definition here).value)
    (hcls : e.cls = e'.cls) (hdoc : e.doc = e'.doc) :
    (e.row here).value.unanchored = (e'.row here).value.unanchored := by
  rw [value_row, value_row, hcls, hdoc]
  exact Row.unanchored_ofDefinition here _ _ hdefinition

theorem Field.Alike.unanchored_row {f g : Field} (h : f.Alike g) :
    (f.row here).value.unanchored = (g.row here).value.unanchored := by
  have hdefinition : (Element.field f).definition here = (Element.field g).definition here := by
    rw [Element.definition, Element.definition, h.type, h.isMutable, h.id.marked_eq]
  have hcls : (Element.field f).cls = (Element.field g).cls := by
    rw [Element.cls, Element.cls, h.id.kind]
  exact Element.unanchored_row_eq here (by rw [hdefinition]) hcls h.doc

theorem Field.alike_record {fs gs : List Field} (h : List.Forall₂ Field.Alike fs gs) :
    List.Forall₂ Definition.Part.Alike (Field.record here fs).value
      (Field.record here gs).value := by
  have hrows : Row.unanchoredAll (Field.rows here fs).value =
      Row.unanchoredAll (Field.rows here gs).value := by
    rw [Row.unanchoredAll_eq_map, Row.unanchoredAll_eq_map,
      Noted.value_each (Field.row here) (Field.rows here) rfl (fun _ _ => rfl) fs,
      Noted.value_each (Field.row here) (Field.rows here) rfl (fun _ _ => rfl) gs,
      List.map_map, List.map_map]
    exact map_eq_map_of_forall₂ h fun f g hfg => hfg.unanchored_row here
  refine .cons (.inline _) (.cons (.block ?_) (.cons (.inline _) .nil))
  rw [Node.unanchored, Node.unanchored, hrows]

namespace Constructor.Alike

variable {c d : Constructor}

/-- The parts of constructors that are alike differ in the rows of their fields only. -/
theorem parts (h : c.Alike d) :
    List.Forall₂ Definition.Part.Alike (c.parts here).value (d.parts here).value := by
  obtain ⟨id, doc, arguments, result⟩ := c
  obtain ⟨id', doc', arguments', result'⟩ := d
  obtain ⟨hid, -, harguments, hresult⟩ := h
  obtain rfl : result = result' := hresult
  have hname : Definition.Part.Alike (.inline [id.marked]) (.inline [id'.marked]) :=
    hid.marked_eq ▸ .inline _
  have hsame (parts : List Definition.Part) : List.Forall₂ Definition.Part.Alike parts parts :=
    List.forall₂_same.mpr fun part _ => .refl part
  cases harguments with
  | tuple types => exact .cons hname (hsame _)
  | record hfields =>
    have hrecord := Field.alike_record here hfields
    refine .cons hname (List.rel_append (.cons (.inline _) hrecord) ?_)
    cases result with
    | none => exact .nil
    | some t => exact hsame _

theorem unanchored_row (h : c.Alike d) :
    (c.row here).value.unanchored = (d.row here).value.unanchored := by
  have hparts := List.Forall₂.cons (.inline [.text "| "]) (h.parts here)
  have hdefinition : Markup.unanchored ((Element.constructor c).definition here).value =
      Markup.unanchored ((Element.constructor d).definition here).value :=
    Definition.unanchored_layoutFrom hparts []
  have hcls : (Element.constructor c).cls = (Element.constructor d).cls := by
    rw [Element.cls, Element.cls, h.id.kind]
  exact Element.unanchored_row_eq here hdefinition hcls h.doc

theorem nested (h : c.Alike d) :
    List.Forall₂ Table.Alike (Element.constructor c).nested (Element.constructor d).nested := by
  obtain ⟨id, doc, arguments, result⟩ := c
  obtain ⟨id', doc', arguments', result'⟩ := d
  obtain ⟨-, -, harguments, -⟩ := h
  cases harguments with
  | tuple types => exact .nil
  | record hfields =>
    refine .cons ⟨rfl, ?_⟩ .nil
    exact List.rel_map (fun _ _ hfg => .field hfg) hfields

end Constructor.Alike

namespace Element.Alike

variable {e e' : Element}

theorem unanchored_row (h : e.Alike e') :
    (e.row here).value.unanchored = (e'.row here).value.unanchored := by
  cases h with
  | field h => exact h.unanchored_row here
  | constructor h => exact h.unanchored_row here
  | variant i j e =>
    have hcls : (Element.variant i e).cls = (Element.variant j e).cls := by
      cases e <;> rfl
    have hdoc : (Element.variant i e).doc = (Element.variant j e).doc := by
      cases e <;> rfl
    exact Element.unanchored_row_eq here rfl hcls hdoc

theorem nested (h : e.Alike e') : List.Forall₂ Table.Alike e.nested e'.nested := by
  cases h with
  | field => exact .nil
  | constructor h => exact h.nested
  | variant => exact .nil

end Element.Alike

end Rows

/-! ## Tables that are alike -/

namespace Table.Alike

variable {t u : Table Element}

theorem withNested (h : t.Alike u) : List.Forall₂ Table.Alike t.withNested u.withNested :=
  .cons h (List.rel_flatMap h.entries fun _ _ he => he.nested)

theorem shown (here : Here) (h : t.Alike u) :
    (t.shown here).map Row.unanchored = (u.shown here).map Row.unanchored := by
  have hrows : (t.entries.map fun e => (e.row here).value).map Row.unanchored =
      (u.entries.map fun e => (e.row here).value).map Row.unanchored := by
    rw [List.map_map, List.map_map]
    exact map_eq_map_of_forall₂ h.entries fun e e' he => he.unanchored_row here
  exact Table.ext h.cls hrows

end Table.Alike

namespace TypeDecl.Alike

variable {d d' : TypeDecl}

theorem outerTables (h : d.Alike d') :
    List.Forall₂ Table.Alike d.outerTables d'.outerTables := by
  obtain ⟨id, doc, equation, representation⟩ := d
  obtain ⟨id', doc', equation', representation'⟩ := d'
  obtain ⟨-, -, hequation, hrepresentation⟩ := h
  obtain rfl : equation = equation' := hequation
  refine List.rel_append ?_ ?_
  · cases equation.manifest with
    | none => exact .nil
    | some t =>
      cases t with
      | variant kind elements =>
        refine .cons ⟨rfl, ?_⟩ .nil
        change List.Forall₂ _ (elements.map (Element.variant id))
          (elements.map (Element.variant id'))
        rw [List.forall₂_map_left_iff, List.forall₂_map_right_iff, List.forall₂_same]
        exact fun e _ => .variant id id' e
      | _ => exact .nil
  · cases hrepresentation with
    | none => exact .nil
    | some h =>
      cases h with
      | variant h => exact .cons ⟨rfl, List.rel_map (fun _ _ h => .constructor h) h⟩ .nil
      | record h => exact .cons ⟨rfl, List.rel_map (fun _ _ h => .field h) h⟩ .nil
      | extensible => exact .nil

theorem tables (h : d.Alike d') : List.Forall₂ Table.Alike d.tables d'.tables :=
  List.rel_flatMap h.outerTables fun _ _ ht => ht.withNested

end TypeDecl.Alike

theorem Extension.Alike.tables {e e' : Extension} (h : e.Alike e') :
    List.Forall₂ Table.Alike e.tables e'.tables :=
  Table.Alike.withNested ⟨rfl, List.rel_map (fun _ _ hc => .constructor hc) h.constructors⟩

/-- The texts have the same tables but for the anchors of rows. -/
def Noted.SameTables (x y : Noted Node) : Prop :=
  x.value.tables.map (Table.map Row.unanchored) = y.value.tables.map (Table.map Row.unanchored)

theorem sameTables_of_alike {here : Here} {x y : Noted Node} {ts us : List (Table Element)}
    (h : List.Forall₂ Table.Alike ts us) (hx : x.value.tables = ts.map (Table.shown here))
    (hy : y.value.tables = us.map (Table.shown here)) : x.SameTables y := by
  rw [Noted.SameTables, hx, hy, List.map_map, List.map_map]
  exact map_eq_map_of_forall₂ h fun t u htu => htu.shown here

/-- **A bad row never damages its table.**  On whatever page, the tables of a type declaration have
one row for each constructor, field and variant element, in the order of the declaration.  A row has
an id exactly if its anchor can be found, and one note is left for each row that has none.  What
contains the elements does not matter for the tables, but for ids of rows and links of rows to
themselves.  The same holds of the tables of an extension. -/
theorem Here.rows_keep_tables (here : Here) :
    (∀ (recursion : Recursion) (substitution : Bool) (d : TypeDecl),
      (d.render here recursion substitution).ShowsTables d.tables ∧
        ∀ d', d.Alike d' → (d.render here recursion substitution).SameTables
          (d'.render here recursion substitution)) ∧
    ∀ e : Extension, (e.render here).ShowsTables e.tables ∧
      ∀ e', e.Alike e' → (e.render here).SameTables (e'.render here) := by
  constructor
  · intro recursion substitution d
    refine ⟨d.showsTables_render here recursion substitution, ?_⟩
    intro d' h
    exact sameTables_of_alike h.tables (d.tables_render here recursion substitution)
      (d'.tables_render here recursion substitution)
  · intro e
    refine ⟨e.showsTables_render here, ?_⟩
    intro e' h
    exact sameTables_of_alike h.tables (e.tables_render here) (e'.tables_render here)

/-- A type with a constructor that has a field, and with a constant one. -/
def sampleVariant (first field : Identifier) : TypeDecl where
  id := .child (.top .root "A") .type "t"
  representation := some (.variant [
    { id := first, arguments := .record [{ id := field, type := .any }] },
    { id := .child (.child (.top .root "A") .type "t") .constructor "D" }])

def sampleScoped : TypeDecl :=
  sampleVariant (.child (.child (.top .root "A") .type "t") .constructor "C")
    (.child (.child (.child (.top .root "A") .type "t") .constructor "C") .field "x")

/-- The same type, but nothing contains the first constructor and its field. -/
def sampleUnscoped : TypeDecl := sampleVariant (.top .constructor "C") (.top .field "x")

/-- Two rows without ids leave two notes, and the tables are the same but for the anchors. -/
theorem tables_sampleVariant :
    (sampleScoped.render ⟨{}, ["A", "A"]⟩ .ordinary false).rowNotes.length = 0 ∧
    (sampleUnscoped.render ⟨{}, ["A", "A"]⟩ .ordinary false).rowNotes.length = 2 ∧
    (sampleScoped.render ⟨{}, ["A", "A"]⟩ .ordinary false).SameTables
      (sampleUnscoped.render ⟨{}, ["A", "A"]⟩ .ordinary false) := by
  obtain ⟨hscoped, halike⟩ :=
    (Here.rows_keep_tables ⟨{}, ["A", "A"]⟩).1 .ordinary false sampleScoped
  obtain ⟨hunscoped, -⟩ := (Here.rows_keep_tables ⟨{}, ["A", "A"]⟩).1 .ordinary false sampleUnscoped
  have hfield : List.Forall₂ Field.Alike
      [{ id := .child (.child (.child (.top .root "A") .type "t") .constructor "C") .field "x",
         type := .any }]
      [{ id := .top .field "x", type := .any }] :=
    .cons ⟨⟨rfl, rfl⟩, rfl, rfl, rfl⟩ .nil
  refine ⟨?_, ?_, halike _ ⟨⟨rfl, rfl⟩, rfl, rfl, .some (.variant (.cons ?_ (.cons ?_ .nil)))⟩⟩
  · rw [← hscoped.notes.length_eq]
    decide
  · rw [← hunscoped.notes.length_eq]
    decide
  · exact ⟨⟨rfl, rfl⟩, rfl, .record hfield, rfl⟩
  · exact ⟨⟨rfl, rfl⟩, rfl, .tuple [], rfl⟩

end DocSite
