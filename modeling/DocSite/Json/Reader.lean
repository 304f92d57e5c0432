import DocSite.Json.Token

/-!
# Reading JSON

Tokens are put together by a machine with a stack of the arrays and objects still open.  The machine
takes one token at a time and never recurses, so the depth of a text costs it nothing.  A text is
read if its tokens lead from the empty stack to one finished value on the empty stack.
-/

namespace DocSite.Json

/-- An array or object still open: what it holds so far, last part first.  An open object also
waits for the value of its last key. -/
inductive Frame where
  | array (items : List Json)
  | object (members : List (Text × Json)) (key : Text)

/-- What the machine expects next, over the open frames, innermost first. -/
inductive Reader where
  /-- A value has to follow. -/
  | value (stack : List Frame)
  /-- An array has just been opened: a value or its end. -/
  | firstItem (stack : List Frame)
  /-- An object has just been opened: a key or its end. -/
  | firstKey (stack : List Frame)
  /-- A key has to follow, after the members already read. -/
  | key (members : List (Text × Json)) (stack : List Frame)
  /-- The colon after a key. -/
  | colon (members : List (Text × Json)) (key : Text) (stack : List Frame)
  /-- A value is complete. -/
  | complete (json : Json) (stack : List Frame)

namespace Reader

/-- A token that begins a value. -/
def beginValue (stack : List Frame) : Token → Option Reader
  | .openArray => some (.firstItem stack)
  | .openObject => some (.firstKey stack)
  | .scalar s => some (.complete (.scalar s) stack)
  | _ => none

/-- The reader after one more token. -/
def next : Reader → Token → Option Reader
  | value stack, t => beginValue stack t
  | firstItem stack, .closeArray => some (complete (.array []) stack)
  | firstItem stack, t => beginValue (.array [] :: stack) t
  | firstKey stack, .closeObject => some (complete (.object []) stack)
  | firstKey stack, .scalar (.string k) => some (colon [] k stack)
  | key members stack, .scalar (.string k) => some (colon members k stack)
  | colon members k stack, .colon => some (value (.object members k :: stack))
  | complete j (.array items :: stack), .comma => some (value (.array (j :: items) :: stack))
  | complete j (.array items :: stack), .closeArray =>
    some (complete (.array (j :: items).reverse) stack)
  | complete j (.object members k :: stack), .comma => some (key ((k, j) :: members) stack)
  | complete j (.object members k :: stack), .closeObject =>
    some (complete (.object ((k, j) :: members).reverse) stack)
  | _, _ => none

def run : Reader → List Token → Option Reader
  | r, [] => some r
  | r, t :: ts =>
    match r.next t with
    | some r' => r'.run ts
    | none => none

/-- The value read, if nothing is left open. -/
def finish : Reader → Option Json
  | complete j [] => some j
  | _ => none

end Reader

/-- The value that a row of tokens spells. -/
def ofTokens (ts : List Token) : Option Json :=
  ((Reader.value []).run ts).bind Reader.finish

/-- The value that a text spells. -/
def parse (text : String) : Option Json :=
  (tokens text.toList).bind ofTokens

end DocSite.Json
