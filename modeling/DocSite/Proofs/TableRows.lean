import DocSite.Proofs.Tables
import Mathlib.Data.List.Perm.Basic

/-!
# Rows of tables

What a type declaration or extension declares by rows are constructors, fields and the elements of
polymorphic variants.  Each of them makes one row, in the order of the declaration, whether or not
its anchor can be found (`Element.row`).  An anchor that cannot be found costs the row its id and
the link to itself, and leaves one note about a row; nothing else on the page leaves such notes.

The anchor of a row comes from the chain of what contains the element, and nothing else in the row
does.  So two declarations that differ only in these chains (`TypeDecl.Alike`) have the same tables,
but for ids of rows and links of rows to themselves (`Row.unanchored`).
-/

namespace DocSite

/-! ## Elements -/

/-- What is declared by a row of a table.  The elements of a polymorphic variant are anchored below
the type that is declared to be the variant. -/
inductive Element where
  | field (field : Field)
  | constructor (constructor : Constructor)
  | variant (typeId : Identifier) (element : VariantElement)

/-- The note about a failure, if there is one. -/
def Note.ofFailure? (note : ResolveError → Note) : Except ResolveError String → Option Note
  | .ok _ => none
  | .error error => some (note error)

namespace Element

def anchor : Element → Except ResolveError String
  | .field f => f.id.anchor
  | .constructor c => c.id.anchor
  | .variant typeId e => e.anchor typeId

def note : Element → ResolveError → Note
  | .field f => .row f.id
  | .constructor c => .row c.id
  | .variant typeId _ => .variantRow typeId

/-- The note that the anchor of the element cannot be found, if it cannot. -/
def lost? (e : Element) : Option Note := Note.ofFailure? e.note e.anchor

/-- What the text of the row begins with. -/
def lead : Element → String
  | .field f => (if f.isMutable then "mutable " else "") ++ (f.id.name ++ " : ")
  | .constructor c => "| " ++ c.id.name
  | .variant _ (.tag n _ _) => "| " ++ ("`" ++ n)
  | .variant _ (.inherit _) => "| "

/-- The tables inside the row: a record of arguments has its own. -/
def nested : Element → List (Table Element)
  | .constructor { arguments := .record fields, .. } => [⟨"record", fields.map .field⟩]
  | _ => []

def row (here : Here) : Element → Noted Row
  | .field f => f.row here
  | .constructor c => c.row here
  | .variant typeId e => e.row here typeId

@[simp] theorem row_field (here : Here) (f : Field) : (Element.field f).row here = f.row here := rfl

@[simp] theorem row_constructor (here : Here) (c : Constructor) :
    (Element.constructor c).row here = c.row here := rfl

@[simp] theorem row_variant (here : Here) (typeId : Identifier) (e : VariantElement) :
    (Element.variant typeId e).row here = e.row here typeId := rfl

/-- The row says which element it is about, and it has an id exactly if the anchor of the element
can be found. -/
structure ShownBy (e : Element) (row : Row) : Prop where
  id : row.id? = e.anchor.toOption
  text : ∃ rest, row.plainText = e.lead ++ rest

end Element

/-- A table of elements, followed by the tables inside its rows. -/
def Table.withNested (t : Table Element) : List (Table Element) :=
  t :: t.entries.flatMap Element.nested

namespace TypeDecl

/-- A type that is equal to a polymorphic variant has a table of its elements. -/
def manifestTables (id : Identifier) : Option TypeExpr → List (Table Element)
  | some (.variant _ elements) => [⟨"variant", elements.map (.variant id)⟩]
  | _ => []

/-- A type has a table of its constructors or fields. -/
def representationTables : Option TypeRepresentation → List (Table Element)
  | some (.variant constructors) => [⟨"variant", constructors.map .constructor⟩]
  | some (.record fields) => [⟨"record", fields.map .field⟩]
  | some .extensible | none => []

/-- The tables of a type declaration that are inside no others. -/
def outerTables (d : TypeDecl) : List (Table Element) :=
  manifestTables d.id d.equation.manifest ++ representationTables d.representation

/-- All tables of a type declaration. -/
def tables (d : TypeDecl) : List (Table Element) := d.outerTables.flatMap Table.withNested

end TypeDecl

namespace Extension

def outerTable (e : Extension) : Table Element := ⟨"extension", e.constructors.map .constructor⟩

/-- All tables of an extension. -/
def tables (e : Extension) : List (Table Element) := e.outerTable.withNested

end Extension

/-! ## One row -/

namespace Noted

variable {α β : Type}

theorem value_orElse_some (x : Except ResolveError String) (note : ResolveError → Note) :
    (Noted.orElse (x.map some) note none).value = x.toOption := by
  cases x <;> rfl

theorem rowNotes_orElse_some (x : Except ResolveError String) (note : ResolveError → Note)
    (hnote : ∀ error, (note error).isRow = true) :
    (Noted.orElse (x.map some) note none).rowNotes = (Note.ofFailure? note x).toList := by
  cases x with
  | ok a => rfl
  | error error => simp [Except.map, Noted.orElse, rowNotes, Note.ofFailure?, hnote]

section Each

variable (f : α → Noted β) (g : List α → Noted (List β)) (hnil : g [] = pure [])
  (hcons : ∀ x xs, g (x :: xs) = do return (← f x) :: (← g xs))

include hnil hcons

theorem value_each (xs : List α) : (g xs).value = xs.map fun x => (f x).value := by
  induction xs with
  | nil => rw [hnil]; rfl
  | cons x xs ih => rw [hcons, List.map_cons, ← ih]; rfl

theorem rowNotes_each (xs : List α) : (g xs).rowNotes = xs.flatMap fun x => (f x).rowNotes := by
  induction xs with
  | nil => rw [hnil]; rfl
  | cons x xs ih => simp [hcons, ih]

end Each

end Noted

namespace Row

variable (here : Here) (anchor : Option String) (kind : String) (definition : Markup) (doc : Docs)

/-- The cells behind the definition. -/
def docCells : List Cell :=
  if doc.isSilent then [] else [.mk "doc" (doc.render here).value]

theorem value_ofDefinition :
    (ofDefinition here anchor kind definition doc).value =
      .mk anchor (.mk ("def " ++ kind) ((anchor.map Node.anchor).toList ++ definition) ::
        docCells here doc) := by
  rw [ofDefinition, docCells]
  split <;> rfl

theorem rowNotes_ofDefinition :
    (ofDefinition here anchor kind definition doc).rowNotes = [] := by
  rw [ofDefinition]
  split
  · rfl
  · rw [Noted.rowNotes_bind, (doc.rowless_render here).rowNotes_eq_nil]
    rfl

theorem tables_ofDefinition :
    (ofDefinition here anchor kind definition doc).value.tables = Markup.tables definition := by
  have hdoc : (docCells here doc).flatMap (fun cell => Markup.tables cell.children) = [] := by
    rw [docCells]
    split
    · rfl
    · simp [Cell.children, (doc.rowless_render here).value]
  rw [value_ofDefinition, Row.tables, Row.cells, List.flatMap_cons, hdoc]
  simp [Cell.children]

theorem plainText_ofDefinition :
    ∃ rest, (ofDefinition here anchor kind definition doc).value.plainText =
      Markup.plainText definition ++ rest := by
  have hanchor : Markup.plainText (anchor.map Node.anchor).toList = "" := by
    cases anchor <;> rfl
  refine ⟨Cell.plainTexts (docCells here doc), ?_⟩
  rw [value_ofDefinition, Row.plainText, Cell.plainTexts, Markup.plainText_append, hanchor,
    String.empty_append]

end Row

namespace Element

/-- The class of the row. -/
def cls : Element → String
  | .field f => f.id.kind.cssClass
  | .constructor c => c.id.kind.cssClass
  | .variant _ (.inherit _) => "type"
  | .variant _ (.tag _ _ _) => "constructor"

def doc : Element → Docs
  | .field f => f.doc
  | .constructor c => c.doc
  | .variant _ (.inherit _) => []
  | .variant _ (.tag _ _ doc) => doc

/-- The definition in the row, without its anchor. -/
def definition (here : Here) : Element → Noted Markup
  | .field f => do
    let type ← f.type.render here false
    return [.code ((if f.isMutable then [.keyword "mutable "] else []) ++
      f.id.marked :: .text " : " :: type ++ [.text ";"])]
  | .constructor c => do
    let parts ← c.parts here
    return Definition.layout (.inline [.text "| "] :: parts)
  | .variant _ e => do
    let case ← e.text here
    return [.code (.text "| " :: case)]

variable (here : Here)

theorem value_row (e : Element) :
    (e.row here).value = (Row.ofDefinition here e.anchor.toOption e.cls (e.definition here).value
      e.doc).value := by
  cases e with
  | field f =>
    change (Row.ofDefinition here f.id.rowAnchorOrNote.value _ _ _).value = _
    rw [Identifier.rowAnchorOrNote, Noted.value_orElse_some]
    rfl
  | constructor c =>
    change (Row.ofDefinition here c.id.rowAnchorOrNote.value _ _ _).value = _
    rw [Identifier.rowAnchorOrNote, Noted.value_orElse_some]
    rfl
  | variant typeId e =>
    rw [anchor, ← Noted.value_orElse_some _ (.variantRow typeId)]
    cases e <;> rfl

theorem rowless_text (e : VariantElement) : (e.text here).Rowless Markup.Tableless := by
  cases e with
  | «inherit» t => exact t.rowless_render here false
  | tag n ts doc =>
    refine (TypeExpr.rowless_renderAll here ts true).bind fun arguments harguments => .pure ?_
    exact TypeText.tableless_tag harguments

/-- A row leaves the note about its own anchor and those of its definition. -/
theorem rowNotes_row (e : Element) :
    (e.row here).rowNotes = e.lost?.toList ++ (e.definition here).rowNotes := by
  cases e with
  | field f =>
    have hanchor := Noted.rowNotes_orElse_some f.id.anchor (.row f.id) fun _ => rfl
    simp [Field.row, definition, Row.rowNotes_ofDefinition, Identifier.rowAnchorOrNote, hanchor,
      lost?, note, anchor]
  | constructor c =>
    have hanchor := Noted.rowNotes_orElse_some c.id.anchor (.row c.id) fun _ => rfl
    simp [Constructor.row, definition, Row.rowNotes_ofDefinition, Identifier.rowAnchorOrNote,
      hanchor, lost?, note, anchor]
  | variant typeId e =>
    -- here the anchor is looked up behind the text, but the text leaves no such notes
    have hanchor := Noted.rowNotes_orElse_some (e.anchor typeId) (.variantRow typeId) fun _ => rfl
    have htext := (rowless_text here e).rowNotes_eq_nil
    cases e <;>
      simp [VariantElement.row, definition, Row.rowNotes_ofDefinition, hanchor, lost?, note,
        anchor, htext]

/-! ## Tables inside rows -/

theorem rowless_definition_field (f : Field) :
    ((Element.field f).definition here).Rowless Markup.Tableless := by
  refine (f.type.rowless_render here false).bind fun type htype => .pure ?_
  cases f.isMutable <;> simp [Markup.Tableless, Identifier.marked, htype]

theorem rowless_definition_variant (typeId : Identifier) (e : VariantElement) :
    ((Element.variant typeId e).definition here).Rowless Markup.Tableless := by
  refine (rowless_text here e).bind fun case hcase => .pure ?_
  simp [Markup.Tableless, hcase]

theorem tables_row_field (f : Field) : (f.row here).value.tables = [] := by
  rw [← row_field, value_row, Row.tables_ofDefinition]
  exact (rowless_definition_field here f).value

theorem rowNotes_row_field (f : Field) :
    (f.row here).rowNotes = (Element.field f).lost?.toList := by
  rw [← row_field, rowNotes_row, (rowless_definition_field here f).rowNotes_eq_nil, List.append_nil]

end Element

/-- The table of the rows of some elements. -/
def Table.shown (here : Here) (t : Table Element) : Table Row := t.map fun e => (e.row here).value

/-- A loop over elements makes one row for each. -/
theorem Table.value_rows {α : Type} {here : Here} (f : α → Element)
    (rows : List α → Noted (List Row)) (hnil : rows [] = pure [])
    (hcons : ∀ x xs, rows (x :: xs) = do return (← (f x).row here) :: (← rows xs)) (xs : List α) :
    (rows xs).value = (xs.map f).map fun e => (e.row here).value := by
  rw [Noted.value_each _ rows hnil hcons, List.map_map]
  rfl

namespace Field

variable (here : Here)

theorem value_rows (fields : List Field) :
    (rows here fields).value = (fields.map Element.field).map fun e => (e.row here).value :=
  Table.value_rows .field (rows here) rfl (fun _ _ => rfl) fields

theorem tables_record (fields : List Field) :
    Markup.tables ((record here fields).value.flatMap Definition.Part.nodes) =
      [Table.shown here ⟨"record", fields.map .field⟩] := by
  simp [record, Definition.Part.nodes, value_rows, Element.tables_row_field, Table.shown,
    Table.map]

theorem rowNotes_record (fields : List Field) :
    (record here fields).rowNotes = (fields.map Element.field).filterMap Element.lost? := by
  have hrows : (rows here fields).rowNotes = fields.flatMap fun f => (f.row here).rowNotes :=
    Noted.rowNotes_each (row here) (rows here) rfl (fun _ _ => rfl) fields
  simp [record, hrows, Element.rowNotes_row_field, List.filterMap_eq_flatMap_toList,
    List.flatMap_map]

end Field

namespace Constructor

variable (here : Here)

theorem tables_argumentParts (hasResult : Bool) (c : Constructor) :
    Markup.tables
        ((argumentParts here hasResult c.arguments).value.flatMap Definition.Part.nodes) =
      (Element.constructor c).nested.map (Table.shown here) := by
  have hseparator : (separator hasResult).tables = [] := by
    cases hasResult <;> rfl
  obtain ⟨id, doc, arguments, result⟩ := c
  cases arguments with
  | tuple ts =>
    cases ts with
    | nil => rfl
    | cons t ts =>
      have hproduct :=
        TypeText.tableless_product (TypeExpr.rowless_renderAll here (t :: ts) true).value
      simp [argumentParts, Definition.Part.nodes, hseparator, Element.nested, hproduct]
  | record fields =>
    simp [argumentParts, Definition.Part.nodes, hseparator, Element.nested, Field.tables_record]

theorem rowNotes_argumentParts (hasResult : Bool) (c : Constructor) :
    (argumentParts here hasResult c.arguments).rowNotes =
      ((Element.constructor c).nested.flatMap Table.entries).filterMap Element.lost? := by
  obtain ⟨id, doc, arguments, result⟩ := c
  cases arguments with
  | tuple ts =>
    cases ts with
    | nil => rfl
    | cons t ts =>
      have hnotes := (TypeExpr.rowless_renderAll here (t :: ts) true).rowNotes_eq_nil
      simp [argumentParts, Element.nested, hnotes]
  | record fields => simp [argumentParts, Element.nested, Field.rowNotes_record]

theorem rowless_resultParts (arguments : ConstructorArguments) (result : Option TypeExpr) :
    (resultParts here arguments result).Rowless fun parts =>
      Markup.Tableless (parts.flatMap Definition.Part.nodes) := by
  cases result with
  | none => exact .pure rfl
  | some t =>
    refine (t.rowless_render here false).bind fun type htype => .pure ?_
    rcases arguments with (_ | ⟨t', ts⟩) | fields <;>
      simp [Markup.Tableless, Definition.Part.nodes, htype]

end Constructor

namespace Element

variable (here : Here)

theorem tables_definition (e : Element) :
    Markup.tables (e.definition here).value = e.nested.map (Table.shown here) := by
  cases e with
  | field f => exact (rowless_definition_field here f).value
  | variant typeId e => exact (rowless_definition_variant here typeId e).value
  | constructor c =>
    have harguments := c.tables_argumentParts here c.result.isSome
    have hresult := (Constructor.rowless_resultParts here c.arguments c.result).value
    simp [definition, Constructor.parts, Definition.Part.nodes, Identifier.marked, harguments,
      hresult]

theorem rowNotes_definition (e : Element) :
    (e.definition here).rowNotes = (e.nested.flatMap Table.entries).filterMap lost? := by
  cases e with
  | field f => exact (rowless_definition_field here f).rowNotes_eq_nil
  | variant typeId e => exact (rowless_definition_variant here typeId e).rowNotes_eq_nil
  | constructor c =>
    have harguments := c.rowNotes_argumentParts here c.result.isSome
    have hresult := (Constructor.rowless_resultParts here c.arguments c.result).rowNotes_eq_nil
    simp [definition, Constructor.parts, harguments, hresult]

/-- The tables inside the row of an element. -/
theorem tables_row (e : Element) :
    (e.row here).value.tables = e.nested.map (Table.shown here) := by
  rw [value_row, Row.tables_ofDefinition, tables_definition]

/-- A row and the rows inside it leave one note for each anchor that cannot be found. -/
theorem rowNotes_row_eq (e : Element) :
    (e.row here).rowNotes = (e :: e.nested.flatMap Table.entries).filterMap lost? := by
  rw [rowNotes_row, rowNotes_definition, List.filterMap_cons]
  cases e.lost? <;> rfl

/-- The text of a definition begins with the name of the element. -/
theorem plainText_definition (e : Element) :
    ∃ rest, Markup.plainText (e.definition here).value = e.lead ++ rest := by
  have hcode (ns : Markup) : (Node.code ns).plainText = Markup.plainText ns := rfl
  have hmarked (id : Identifier) : id.marked.plainText = id.name := String.append_empty
  cases e with
  | field f =>
    refine ⟨Markup.plainText (f.type.render here false).value ++ ";", ?_⟩
    cases hmutable : f.isMutable <;>
      simp [definition, lead, hmutable, hcode, hmarked, String.append_assoc]
  | constructor c =>
    let others := (Constructor.argumentParts here c.result.isSome c.arguments).value ++
      (Constructor.resultParts here c.arguments c.result).value
    refine ⟨Markup.plainText (others.flatMap Definition.Part.nodes), ?_⟩
    simp [definition, Constructor.parts, Definition.plainText_layout, Definition.Part.nodes,
      hmarked, lead, others, String.append_assoc]
  | variant typeId e =>
    cases e with
    | «inherit» t =>
      refine ⟨Markup.plainText (t.render here false).value, ?_⟩
      simp [definition, lead, hcode, VariantElement.text]
    | tag n ts doc =>
      have htag := Markup.plainText_cons (.text ("`" ++ n))
        (TypeText.tag n (TypeExpr.renderAll here true ts).value).tail
      refine ⟨Markup.plainText (TypeText.tag n (TypeExpr.renderAll here true ts).value).tail, ?_⟩
      change "| " ++ Markup.plainText (TypeText.tag n (TypeExpr.renderAll here true ts).value) ++
        "" = _
      rw [String.append_empty, lead, String.append_assoc]
      exact congrArg ("| " ++ ·) htag

theorem shownBy_row (e : Element) : e.ShownBy (e.row here).value := by
  constructor
  · rw [value_row, Row.value_ofDefinition]
    rfl
  · obtain ⟨rest, hrest⟩ := Row.plainText_ofDefinition here e.anchor.toOption e.cls
      (e.definition here).value e.doc
    obtain ⟨rest', hrest'⟩ := e.plainText_definition here
    refine ⟨rest' ++ rest, ?_⟩
    rw [value_row, hrest, hrest', String.append_assoc]

end Element

/-! ## All tables of a declaration -/

/-- The notes about the rows of a table and the rows inside these. -/
def Table.lostNotes (t : Table Element) : List Note :=
  t.entries.flatMap fun e => (e :: e.nested.flatMap Table.entries).filterMap Element.lost?

/-- The parts of a definition have the given tables, and leave the notes of their rows. -/
structure Definition.Shows (here : Here) (ts : List (Table Element))
    (x : Noted (List Definition.Part)) : Prop where
  tables : Markup.tables (x.value.flatMap Part.nodes) =
    (ts.flatMap Table.withNested).map (Table.shown here)
  notes : x.rowNotes = ts.flatMap Table.lostNotes

namespace Table

variable (here : Here)

/-- The table of some rows, with the tables inside it. -/
theorem tables_node (cls : String) {rows : List Row} {es : List Element}
    (h : rows = es.map fun e => (e.row here).value) :
    (Node.table cls rows).tables =
      (Table.withNested ⟨cls, es⟩).map (Table.shown here) := by
  subst h
  simp [withNested, shown, map, List.map_flatMap, List.flatMap_map, Element.tables_row]

/-- The rows of fields have no tables inside. -/
@[simp] theorem withNested_fields (cls : String) (fields : List Field) :
    Table.withNested ⟨cls, fields.map .field⟩ = [⟨cls, fields.map .field⟩] := by
  simp [withNested, Element.nested]

@[simp] theorem lostNotes_fields (cls : String) (fields : List Field) :
    Table.lostNotes ⟨cls, fields.map .field⟩ =
      (fields.map Element.field).filterMap Element.lost? := by
  simp [lostNotes, Element.nested, List.filterMap_eq_flatMap_toList, List.flatMap_map]

end Table

/-- A loop over elements leaves the notes of its rows and of the rows inside these. -/
theorem Table.rowNotes_rows {α : Type} {here : Here} (f : α → Element)
    (rows : List α → Noted (List Row)) (hnil : rows [] = pure [])
    (hcons : ∀ x xs, rows (x :: xs) = do return (← (f x).row here) :: (← rows xs)) (xs : List α)
    (cls : String) : (rows xs).rowNotes = Table.lostNotes ⟨cls, xs.map f⟩ := by
  rw [Noted.rowNotes_each _ rows hnil hcons, lostNotes, List.flatMap_map]
  exact congrArg (xs.flatMap ·) (funext fun x => (f x).rowNotes_row_eq here)

namespace Constructor

variable (here : Here) (constructors : List Constructor)

theorem value_rows : (rows here constructors).value =
    (constructors.map Element.constructor).map fun e => (e.row here).value :=
  Table.value_rows .constructor (rows here) rfl (fun _ _ => rfl) constructors

theorem rowNotes_rows (cls : String) : (rows here constructors).rowNotes =
    Table.lostNotes ⟨cls, constructors.map .constructor⟩ :=
  Table.rowNotes_rows .constructor (rows here) rfl (fun _ _ => rfl) constructors cls

end Constructor

namespace VariantElement

variable (here : Here) (typeId : Identifier) (elements : List VariantElement)

theorem value_rows : (rows here typeId elements).value =
    (elements.map (Element.variant typeId)).map fun e => (e.row here).value :=
  Table.value_rows (.variant typeId) (rows here typeId) rfl (fun _ _ => rfl) elements

theorem rowNotes_rows (cls : String) : (rows here typeId elements).rowNotes =
    Table.lostNotes ⟨cls, elements.map (.variant typeId)⟩ :=
  Table.rowNotes_rows (.variant typeId) (rows here typeId) rfl (fun _ _ => rfl) elements cls

end VariantElement

namespace TypeDecl

variable (here : Here) (isPrivate : Bool)

theorem tables_privacy : Markup.tables (privacy isPrivate) = [] := by
  cases isPrivate <;> rfl

theorem shows_manifestParts (id : Identifier) (sign : String) (manifest : Option TypeExpr) :
    Definition.Shows here (manifestTables id manifest)
      (manifestParts here id sign isPrivate manifest) := by
  have hplain (t : TypeExpr) : Definition.Shows here [] (do
      return [.inline (.text sign :: privacy isPrivate ++ (← t.render here false))]) := by
    have ht := t.rowless_render here false
    exact ⟨by simp [Definition.Part.nodes, tables_privacy, ht.value], by simp [ht.rowNotes_eq_nil]⟩
  cases manifest with
  | none => exact ⟨rfl, rfl⟩
  | some t =>
    cases t with
    | variant kind elements =>
      have htables := Table.tables_node here "variant"
        (VariantElement.value_rows here id elements)
      have hnotes := VariantElement.rowNotes_rows here id elements "variant"
      constructor
      · simp [manifestParts, manifestTables, Definition.Part.nodes, tables_privacy, htables]
      · simp [manifestParts, manifestTables, hnotes]
    | _ => exact hplain _

theorem shows_representationParts (representation : Option TypeRepresentation) :
    Definition.Shows here (representationTables representation)
      (representationParts here isPrivate representation) := by
  rcases representation with _ | constructors | fields | _
  · exact ⟨rfl, rfl⟩
  · have htables := Table.tables_node here "variant" (Constructor.value_rows here constructors)
    have hnotes := Constructor.rowNotes_rows here constructors "variant"
    constructor
    · simp [representationParts, representationTables, Definition.Part.nodes, tables_privacy,
        htables]
    · simp [representationParts, representationTables, hnotes]
  · constructor
    · simp [representationParts, representationTables, Definition.Part.nodes, tables_privacy,
        Field.tables_record]
    · simp [representationParts, representationTables, Field.rowNotes_record]
  · constructor
    · simp [representationParts, representationTables, Definition.Part.nodes, tables_privacy]
    · simp [representationParts, representationTables]

theorem tables_render (recursion : Recursion) (substitution : Bool) (d : TypeDecl) :
    (d.render here recursion substitution).value.tables = d.tables.map (Table.shown here) := by
  have hmanifest := (shows_manifestParts here d.equation.isPrivate d.id
    (if substitution then " := " else " = ") d.equation.manifest).tables
  have hrepresentation := (shows_representationParts here
    (d.equation.isPrivate && d.equation.manifest.isNone) d.representation).tables
  have hconstraints := (TypeEquation.rowless_renderConstraints here d.equation.constraints).value
  have hdoc := (d.doc.rowless_render here).value
  simp [render, Definition.Part.nodes, hmanifest, hrepresentation, hconstraints, hdoc, tables,
    outerTables]

theorem rowNotes_render (recursion : Recursion) (substitution : Bool) (d : TypeDecl) :
    (d.render here recursion substitution).rowNotes = d.outerTables.flatMap Table.lostNotes := by
  have hmanifest := (shows_manifestParts here d.equation.isPrivate d.id
    (if substitution then " := " else " = ") d.equation.manifest).notes
  have hrepresentation := (shows_representationParts here
    (d.equation.isPrivate && d.equation.manifest.isNone) d.representation).notes
  have hconstraints :=
    (TypeEquation.rowless_renderConstraints here d.equation.constraints).rowNotes_eq_nil
  have hanchor := d.id.rowless_anchor.rowNotes_eq_nil
  have hdoc := (d.doc.rowless_render here).rowNotes_eq_nil
  simp [render, hmanifest, hrepresentation, hconstraints, hanchor, hdoc, outerTables]

end TypeDecl

namespace Extension

variable (here : Here) (e : Extension)

theorem tables_render : (e.render here).value.tables = e.tables.map (Table.shown here) := by
  have htables := Table.tables_node here "extension" (Constructor.value_rows here e.constructors)
  have hpath := (here.rowless_path false e.path).value
  have hdoc := (e.doc.rowless_render here).value
  simp [render, Definition.Part.nodes, TypeDecl.tables_privacy, hpath, htables, hdoc, tables,
    outerTable]

theorem rowNotes_render : (e.render here).rowNotes = e.outerTable.lostNotes := by
  have hrows := Constructor.rowNotes_rows here e.constructors "extension"
  have hpath := (here.rowless_path false e.path).rowNotes_eq_nil
  have hdoc := (e.doc.rowless_render here).rowNotes_eq_nil
  simp [render, hrows, hpath, hdoc, outerTable]

end Extension

/-- All rows of a table come before the rows inside them, while the notes come row by row.  But they
are the same notes. -/
theorem Table.lostNotes_perm (t : Table Element) :
    ((t.withNested.flatMap Table.entries).filterMap Element.lost?).Perm t.lostNotes := by
  have hflat : t.withNested.flatMap Table.entries =
      t.entries.map id ++ t.entries.flatMap fun e => e.nested.flatMap Table.entries := by
    simp [withNested, List.flatMap_assoc]
  rw [lostNotes, ← List.filterMap_flatMap, hflat]
  exact (List.map_append_flatMap_perm t.entries id fun e =>
    e.nested.flatMap Table.entries).filterMap Element.lost?

/-- A text has the given tables, with one row for each element in the order of the elements, and
leaves one note for each element whose anchor cannot be found. -/
structure Noted.ShowsTables (ts : List (Table Element)) (x : Noted Node) : Prop where
  rows : List.Forall₂
    (fun t shown => t.cls = shown.cls ∧ List.Forall₂ Element.ShownBy t.entries shown.entries)
    ts x.value.tables
  notes : ((ts.flatMap Table.entries).filterMap Element.lost?).Perm x.rowNotes

theorem Table.forall₂_shownBy (here : Here) (ts : List (Table Element)) :
    List.Forall₂
      (fun t shown => t.cls = shown.cls ∧ List.Forall₂ Element.ShownBy t.entries shown.entries)
      ts (ts.map (Table.shown here)) := by
  rw [List.forall₂_map_right_iff, List.forall₂_same]
  intro t _
  refine ⟨rfl, ?_⟩
  change List.Forall₂ _ t.entries (t.entries.map _)
  rw [List.forall₂_map_right_iff, List.forall₂_same]
  intro e _
  exact e.shownBy_row here

theorem TypeDecl.showsTables_render (here : Here) (recursion : Recursion) (substitution : Bool)
    (d : TypeDecl) : (d.render here recursion substitution).ShowsTables d.tables := by
  constructor
  · rw [d.tables_render]
    exact Table.forall₂_shownBy here d.tables
  · rw [d.rowNotes_render, TypeDecl.tables, List.flatMap_assoc, List.filterMap_flatMap]
    exact List.Perm.flatMap_left _ fun t _ => t.lostNotes_perm

theorem Extension.showsTables_render (here : Here) (e : Extension) :
    (e.render here).ShowsTables e.tables := by
  constructor
  · rw [e.tables_render]
    exact Table.forall₂_shownBy here e.tables
  · rw [e.rowNotes_render]
    exact e.outerTable.lostNotes_perm

end DocSite
