import DocSite.Exchange.Slot

/-!
# The format of interface files

The table of the exchange format.  Types whose values nest have a name; the others are spelled out
where they stand.
-/

namespace DocSite.Exchange

/-- The slots that refer to one another. -/
inductive Name where
  | identifier
  | resolvedPath
  | path
  | resolvedFragment
  | fragment
  | inline
  | block
  | typeExpr
  | variantElement
  | objectField
  | classTypeExpr
  | classItem
  | classDecl
  | moduleDecl
  | functorParameter
  | moduleExpansion
  | substitution
  | moduleTypeExpr
  | signatureItem
  deriving DecidableEq

namespace Format

/-- A field that has to be there. -/
def field (name : String) (slot : Slot Name) : Field (Slot Name) := ⟨name, slot, none, false⟩

/-- A field that stands for `default` when it is missing. -/
def defaulted (name : String) (slot : Slot Name) (default : Datum) : Field (Slot Name) :=
  ⟨name, slot, some default, false⟩

/-- A flag, down when missing. -/
def flag (name : String) : Field (Slot Name) := defaulted name .flag (.flag false)

/-- A list, empty when missing. -/
def many (name : String) (item : Slot Name) : Field (Slot Name) :=
  defaulted name (.list item) (.list [])

/-- A field that may be null, and is when missing. -/
def optional (name : String) (slot : Slot Name) : Field (Slot Name) :=
  defaulted name (.nullable slot) .null

/-- The enclosing thing, which is not written at all when there is none. -/
def parent (slot : Slot Name) : Field (Slot Name) := ⟨"parent", .nullable slot, some .null, true⟩

/-- A variant without payload. -/
def bare (name : String) : String × Option (Slot Name) := (name, none)

/-- A variant with one. -/
def tagged (name : String) (payload : Slot Name) : String × Option (Slot Name) :=
  (name, some payload)

/-! ## Names and paths -/

def kind : Slot Name :=
  .choice [bare "root", bare "page", bare "module",
    tagged "argument" (.record [field "position" (.number UInt64.size)]),
    bare "module_type", bare "type", bare "core_type", bare "constructor", bare "field",
    bare "extension", bare "exception", bare "core_exception", bare "value", bare "class",
    bare "class_type", bare "method", bare "instance_variable"]

def identifier : Slot Name :=
  .record [field "kind" kind, field "name" .text, parent (.ref .identifier)]

def resolvedPath : Slot Name :=
  .choice [tagged "identifier" (.ref .identifier),
    tagged "dot" (.record [field "parent" (.ref .resolvedPath), field "kind" kind,
      field "name" .text]),
    tagged "apply" (.record [field "functor" (.ref .resolvedPath), field "argument" (.ref .path)])]

def path : Slot Name :=
  .choice [tagged "resolved" (.ref .resolvedPath), tagged "root" .text, tagged "forward" .text,
    tagged "dot" (.tuple [.ref .path, .text]), tagged "apply" (.tuple [.ref .path, .ref .path])]

def resolvedFragment : Slot Name :=
  .record [field "kind" kind, field "name" .text, parent (.ref .resolvedFragment)]

def fragment : Slot Name :=
  .choice [tagged "resolved" (.ref .resolvedFragment), bare "root",
    tagged "dot" (.tuple [.ref .fragment, .text])]

/-! ## Documentation -/

def inlines : Slot Name := .list (.ref .inline)

def inline : Slot Name :=
  .choice [tagged "text" .text, tagged "code" .text, tagged "emphasis" inlines,
    tagged "bold" inlines,
    tagged "link" (.record [field "target" .text, many "content" (.ref .inline)]),
    tagged "reference" (.record [field "target" (.ref .identifier),
      many "content" (.ref .inline)])]

def tag : Slot Name :=
  .choice [bare "open", bare "closed", bare "inline", tagged "author" .text,
    tagged "deprecated" inlines, tagged "since" .text, tagged "version" .text,
    tagged "return" inlines]

def block : Slot Name :=
  .choice [tagged "paragraph" inlines,
    tagged "heading" (.record [field "level" (.number UInt8.size), optional "label" .text,
      field "text" inlines]),
    tagged "code_block" .text, tagged "verbatim" .text,
    tagged "list" (.record [flag "ordered", field "items" (.list (.list (.ref .block)))]),
    tagged "tag" tag]

def docs : Slot Name := .list (.ref .block)

def comment : Slot Name := .choice [tagged "docs" docs, bare "stop"]

/-- The comment on a declaration. -/
def doc : Field (Slot Name) := many "doc" (.ref .block)

/-! ## Types -/

def types : Slot Name := .list (.ref .typeExpr)

def label : Slot Name := .choice [tagged "label" .text, tagged "optional" .text]

def variantKind : Slot Name := .choice [bare "fixed", bare "open", tagged "closed" (.list .text)]

def variantElement : Slot Name :=
  .choice [tagged "type" (.ref .typeExpr),
    tagged "constructor" (.record [field "name" .text, many "arguments" (.ref .typeExpr), doc])]

def objectField : Slot Name :=
  .choice [tagged "method" (.record [field "name" .text, field "type_" (.ref .typeExpr)]),
    tagged "inherit" (.ref .typeExpr)]

def typeExpr : Slot Name :=
  .choice [tagged "var" .text, bare "any", tagged "alias" (.tuple [.ref .typeExpr, .text]),
    tagged "arrow" (.tuple [.nullable label, .ref .typeExpr, .ref .typeExpr]),
    tagged "tuple" types, tagged "constr" (.tuple [.ref .path, types]),
    tagged "polymorphic_variant" (.record [field "kind" variantKind,
      field "elements" (.list (.ref .variantElement))]),
    tagged "object" (.record [field "fields" (.list (.ref .objectField)), flag "open"]),
    tagged "class" (.tuple [.ref .path, types]),
    tagged "poly" (.tuple [.list .text, .ref .typeExpr]),
    tagged "package" (.record [field "path" (.ref .path),
      many "substitutions" (.tuple [.ref .fragment, .ref .typeExpr])])]

/-! ## Declarations -/

def id : Field (Slot Name) := field "id" (.ref .identifier)

def type : Field (Slot Name) := field "type_" (.ref .typeExpr)

def variance : Slot Name := .choice [bare "pos", bare "neg"]

def parameterName : Slot Name := .choice [bare "any", tagged "var" .text]

def typeParameter : Slot Name :=
  .record [field "desc" parameterName, optional "variance" variance]

def typeEquation : Slot Name :=
  .record [many "params" typeParameter, flag "private", optional "manifest" (.ref .typeExpr),
    many "constraints" (.tuple [.ref .typeExpr, .ref .typeExpr])]

/-- The equation that says nothing. -/
def noEquation : Datum := .list [.list [], .flag false, .null, .list []]

def recordField : Slot Name := .record [id, doc, flag "mutable", type]

def constructorArguments : Slot Name :=
  .choice [tagged "tuple" types, tagged "record" (.list recordField)]

/-- The arguments of a constant constructor. -/
def noArguments : Datum := .variant "tuple" (.list [])

def constructor : Slot Name :=
  .record [id, doc, defaulted "args" constructorArguments noArguments,
    optional "res" (.ref .typeExpr)]

def typeRepresentation : Slot Name :=
  .choice [tagged "variant" (.list constructor), tagged "record" (.list recordField),
    bare "extensible"]

def typeDecl : Slot Name :=
  .record [id, doc, defaulted "equation" typeEquation noEquation,
    optional "representation" typeRepresentation]

def extension : Slot Name :=
  .record [field "type_path" (.ref .path), doc, many "type_params" typeParameter, flag "private",
    field "constructors" (.list constructor)]

def value : Slot Name := .record [id, doc, type]

def external : Slot Name := .record [id, doc, type, field "primitives" (.list .text)]

/-! ## Classes -/

def method : Slot Name := .record [id, doc, flag "private", flag "virtual_", type]

def instanceVariable : Slot Name := .record [id, doc, flag "mutable", flag "virtual_", type]

def classSignature : Slot Name :=
  .record [optional "self_" (.ref .typeExpr), field "items" (.list (.ref .classItem))]

def classTypeExpr : Slot Name :=
  .choice [tagged "constr" (.tuple [.ref .path, types]), tagged "signature" classSignature]

def classItem : Slot Name :=
  .choice [tagged "method" method, tagged "instance_variable" instanceVariable,
    tagged "constraint" (.tuple [.ref .typeExpr, .ref .typeExpr]),
    tagged "inherit" (.ref .classTypeExpr), tagged "comment" comment]

def classDecl : Slot Name :=
  .choice [tagged "class_type" (.ref .classTypeExpr),
    tagged "arrow" (.tuple [.nullable label, .ref .typeExpr, .ref .classDecl])]

def classDefinition : Slot Name :=
  .record [id, doc, flag "virtual_", many "params" typeParameter, field "type_" (.ref .classDecl),
    optional "expansion" classSignature]

def classType : Slot Name :=
  .record [id, doc, flag "virtual_", many "params" typeParameter,
    field "expr" (.ref .classTypeExpr), optional "expansion" classSignature]

/-! ## Signatures -/

def recursion : Slot Name := .choice [bare "ordinary", bare "rec", bare "and", bare "nonrec"]

def signature : Slot Name := .list (.ref .signatureItem)

def moduleDecl : Slot Name :=
  .choice [tagged "alias" (.ref .path), tagged "module_type" (.ref .moduleTypeExpr)]

/-- A named parameter.  The empty parameter is null, which the places of parameters admit. -/
def functorParameter : Slot Name :=
  .record [id, field "expr" (.ref .moduleTypeExpr), optional "expansion" (.ref .moduleExpansion)]

def moduleExpansion : Slot Name :=
  .choice [bare "already_a_sig", tagged "signature" signature,
    tagged "functor" (.tuple [.list (.nullable (.ref .functorParameter)), signature])]

def substitution : Slot Name :=
  .choice [tagged "module_eq" (.tuple [.ref .fragment, .ref .moduleDecl]),
    tagged "type_eq" (.tuple [.ref .fragment, typeEquation]),
    tagged "module_subst" (.tuple [.ref .fragment, .ref .path]),
    tagged "type_subst" (.tuple [.ref .fragment, typeEquation])]

def moduleTypeExpr : Slot Name :=
  .choice [tagged "path" (.ref .path), tagged "signature" signature,
    tagged "functor" (.tuple [.nullable (.ref .functorParameter), .ref .moduleTypeExpr]),
    tagged "with" (.tuple [.ref .moduleTypeExpr, .list (.ref .substitution)]),
    tagged "type_of" (.ref .moduleDecl)]

def moduleItem : Slot Name :=
  .record [id, doc, field "type_" (.ref .moduleDecl), optional "expansion" (.ref .moduleExpansion)]

def moduleTypeItem : Slot Name :=
  .record [id, doc, optional "expr" (.ref .moduleTypeExpr),
    optional "expansion" (.ref .moduleExpansion)]

def moduleSubstitution : Slot Name := .record [id, doc, field "manifest" (.ref .path)]

def includeItem : Slot Name :=
  .record [field "parent" (.ref .identifier), doc, field "decl" (.ref .moduleDecl),
    field "expansion" signature]

def signatureItem : Slot Name :=
  .choice [tagged "module" (.tuple [recursion, moduleItem]), tagged "module_type" moduleTypeItem,
    tagged "module_substitution" moduleSubstitution,
    tagged "type" (.tuple [recursion, typeDecl]), tagged "type_substitution" typeDecl,
    tagged "type_extension" extension, tagged "exception" constructor, tagged "value" value,
    tagged "external" external, tagged "class" (.tuple [recursion, classDefinition]),
    tagged "class_type" (.tuple [recursion, classType]), tagged "include" includeItem,
    tagged "comment" comment]

/-! ## Roots -/

def packedModule : Slot Name := .record [id, field "path" (.ref .path)]

def unitContent : Slot Name :=
  .choice [tagged "module" signature, tagged "pack" (.list packedModule)]

def compilationUnit : Slot Name := .record [id, doc, field "content" unitContent]

def docPage : Slot Name := .record [field "name" (.ref .identifier), field "content" docs]

def root : Slot Name := .choice [tagged "unit" compilationUnit, tagged "page" docPage]

end Format

/-- What each name stands for. -/
def table : Name → Slot Name
  | .identifier => Format.identifier
  | .resolvedPath => Format.resolvedPath
  | .path => Format.path
  | .resolvedFragment => Format.resolvedFragment
  | .fragment => Format.fragment
  | .inline => Format.inline
  | .block => Format.block
  | .typeExpr => Format.typeExpr
  | .variantElement => Format.variantElement
  | .objectField => Format.objectField
  | .classTypeExpr => Format.classTypeExpr
  | .classItem => Format.classItem
  | .classDecl => Format.classDecl
  | .moduleDecl => Format.moduleDecl
  | .functorParameter => Format.functorParameter
  | .moduleExpansion => Format.moduleExpansion
  | .substitution => Format.substitution
  | .moduleTypeExpr => Format.moduleTypeExpr
  | .signatureItem => Format.signatureItem

/-- How many brackets may be open at once. -/
def nestingLimit : Nat := 127

/-- A type with a place in the format: the slot of its values, and the datum of each. -/
class Exchanged (α : Type) where
  slot : Slot Name
  toDatum : α → Datum
  ofDatum? : Datum → Option α

export Exchanged (toDatum ofDatum?)

section

variable {α : Type} [Exchanged α]

/-- The value that a JSON tree spells. -/
def decode (j : Json) : Option α :=
  (read table nestingLimit (Exchanged.slot α) j).bind ofDatum?

/-- The JSON tree that a value is written as. -/
def encode (a : α) : Json := write table (Exchanged.slot α) (toDatum a)

end

/-! ## Strings, flags, lists and optional values -/

instance : Exchanged String where
  slot := .text
  toDatum := .text
  ofDatum? := fun
    | .text s => some s
    | _ => none

instance : Exchanged Bool where
  slot := .flag
  toDatum := .flag
  ofDatum? := fun
    | .flag b => some b
    | _ => none

/-- The data of a list, each read on its own. -/
def ofData? {α : Type} [Exchanged α] : List Datum → Option (List α)
  | [] => some []
  | d :: ds => do return (← ofDatum? d) :: (← ofData? ds)

instance {α : Type} [Exchanged α] : Exchanged (List α) where
  slot := .list (Exchanged.slot α)
  toDatum := fun xs => .list (xs.map toDatum)
  ofDatum? := fun
    | .list ds => ofData? ds
    | _ => none

instance {α : Type} [Exchanged α] : Exchanged (Option α) where
  slot := .nullable (Exchanged.slot α)
  toDatum := fun
    | none => .null
    | some a => toDatum a
  ofDatum? := fun
    | .null => some none
    | d => (ofDatum? d).map some

instance {α β : Type} [Exchanged α] [Exchanged β] : Exchanged (α × β) where
  slot := .tuple [Exchanged.slot α, Exchanged.slot β]
  toDatum := fun p => .list [toDatum p.1, toDatum p.2]
  ofDatum? := fun
    | .list [a, b] => do return (← ofDatum? a, ← ofDatum? b)
    | _ => none

end DocSite.Exchange
