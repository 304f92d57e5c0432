import DocSite.Toml.Basic
import DocSite.Toml.Token

/-!
# Reading TOML

Tokens are put together by a machine with a stack of the values still open, over the document read
so far.  How many parts a key may have and how many values may be open at once is limited.
-/

namespace DocSite.Toml

/-! ## Keys -/

/-- What a key is made of. -/
inductive KeyPiece where
  | part (name : String)
  | dot
  deriving DecidableEq

namespace KeyPiece

/-- The pieces of a word, cut at its dots. -/
def ofChars : List Char → List (List Char ⊕ Unit)
  | [] => []
  | c :: cs =>
    if c = '.' then .inr () :: ofChars cs
    else
      match ofChars cs with
      | .inl name :: pieces => .inl (c :: name) :: pieces
      | pieces => .inl [c] :: pieces

/-- A piece of a word, if it may stand in a key. -/
def ofPiece? : List Char ⊕ Unit → Option KeyPiece
  | .inl name => if name.all Lexer.isBare then some (part (String.ofList name)) else none
  | .inr () => some dot

/-- The pieces of a key that a token is. -/
def ofToken? : Token → Option (List KeyPiece)
  | .word text => (ofChars text.toList).mapM ofPiece?
  | .quoted text => some [part text]
  | _ => none

end KeyPiece

/-! ## The machine -/

/-- A key has fewer parts than this, and fewer arrays and tables than this are open at once. -/
def depthLimit : Nat := 80

/-- A value still open, waiting for one inside it: the line it stands on, an array with the items
so far, last one first, or a table with its members so far and the key of the next. -/
inductive Frame where
  | line (key : List String)
  | array (items : List Value)
  | table (members : Members) (key : List String)

/-- What a key is for. -/
inductive KeyUse where
  | header
  /-- A double header. -/
  | row
  | line
  | inline (members : Members) (stack : List Frame)

/-- What the machine expects next.  The parts of a key come last one first. -/
inductive Expect where
  | line
  | key (use : KeyUse) (parts : List String)
  | afterKey (use : KeyUse) (parts : List String)
  /-- The second bracket at the end of a double header. -/
  | rowEnd (parts : List String)
  | value (stack : List Frame)
  /-- An item of the array on top of the stack, or the end of that array. -/
  | item (items : List Value) (stack : List Frame)
  /-- The first member of a table, or its end. -/
  | firstMember (stack : List Frame)
  | complete (value : Value) (stack : List Frame)
  | lineEnd

/-- The machine: the document so far, the header it is under, and what comes next. -/
structure Reader where
  document : Members
  header : List String
  expect : Expect

namespace Reader

/-- A token that begins a value.  On the stack are the line and the values around this one. -/
def beginValue (stack : List Frame) : Token → Option Expect
  | .word text => (Value.ofWord? text).map fun v => .complete v stack
  | .quoted text => some (.complete (.string text) stack)
  | .block text => some (.complete (.string text) stack)
  | .openBracket _ => if stack.length < depthLimit then some (.item [] stack) else none
  | .openBrace => if stack.length < depthLimit then some (.firstMember stack) else none
  | _ => none

/-- A piece of a key. -/
def readPiece : Expect → KeyPiece → Option Expect
  | .key use parts, .part name =>
    if parts.length + 1 < depthLimit then some (.afterKey use (name :: parts)) else none
  | .afterKey use parts, .dot => some (.key use parts)
  | _, _ => none

/-- A token that begins or goes on with a key. -/
def readKey (e : Expect) (t : Token) : Option Expect :=
  (KeyPiece.ofToken? t).bind fun pieces => pieces.foldlM readPiece e

/-- A token inside a line, where the document does not change. -/
def inside : Expect → Token → Option Expect
  | .key .header [], .openBracket true => some (.key .row [])
  | .key use parts, t => readKey (.key use parts) t
  | .afterKey .line parts, .equals => some (.value [.line parts.reverse])
  | .afterKey (.inline members stack) parts, .equals =>
    some (.value (.table members parts.reverse :: stack))
  | .afterKey .row parts, .closeBracket _ => some (.rowEnd parts)
  | .afterKey use parts, t => readKey (.afterKey use parts) t
  | .value stack, t => beginValue stack t
  | .item items stack, .newline => some (.item items stack)
  | .item items stack, .closeBracket _ => some (.complete (.array items.reverse) stack)
  | .item items stack, t => beginValue (.array items :: stack) t
  | .firstMember stack, .closeBrace => some (.complete (.table .inline []) stack)
  | .firstMember stack, t => readKey (.key (.inline [] stack) []) t
  | .complete v (.array items :: stack), .newline => some (.complete v (.array items :: stack))
  | .complete v (.array items :: stack), .comma => some (.item (v :: items) stack)
  | .complete v (.array items :: stack), .closeBracket _ =>
    some (.complete (.array (v :: items).reverse) stack)
  | .complete v (.table members key :: stack), .comma =>
    (members.add v key).map fun members => .key (.inline members stack) []
  | .complete v (.table members key :: stack), .closeBrace =>
    (members.add v key).map fun members => .complete (.table .inline members) stack
  | _, _ => none

/-- The reader after one more token. -/
def next (r : Reader) (t : Token) : Option Reader :=
  match r.expect, t with
  | .line, .newline => some r
  | .line, .openBracket _ => some { r with expect := .key .header [] }
  | .line, t => (readKey (.key .line []) t).map fun e => { r with expect := e }
  | .afterKey .header parts, .closeBracket _ =>
    (r.document.openHeader parts.reverse).map fun document =>
      ⟨document, parts.reverse, .lineEnd⟩
  | .rowEnd parts, .closeBracket true =>
    (r.document.openRow parts.reverse).map fun document =>
      ⟨document, parts.reverse, .lineEnd⟩
  | .complete v [.line key], .newline =>
    (r.document.addUnder key v r.header).map fun document => { r with document, expect := .line }
  | .lineEnd, .newline => some { r with expect := .line }
  | e, t => (inside e t).map fun e => { r with expect := e }

def run : Reader → List Token → Option Reader
  | r, [] => some r
  | r, t :: ts =>
    match r.next t with
    | some r' => r'.run ts
    | none => none

/-- The document read, if the text may end here. -/
def finish (r : Reader) : Option Members :=
  match r.expect with
  | .line => some r.document
  | _ => none

end Reader

/-- The document that a text spells.  The end of the text ends its last line. -/
def parse (text : String) : Option Members :=
  match tokens text.toList with
  | some ts => ((⟨[], [], .line⟩ : Reader).run (ts ++ [.newline])).bind Reader.finish
  | none => none

end DocSite.Toml
