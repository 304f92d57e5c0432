import DocSite.Json.Basic
import DocSite.Text.Hexadecimal

/-!
# JSON tokens

A JSON text is first cut into tokens.  The cutting is done by a machine that reads one character at
a time: between tokens it waits, and inside one it remembers what it has read of it.  Words and
numbers have no closing character, so they end at the first character that cannot belong to them,
which is then read again from the waiting state; `Lexer.next` is built from `Lexer.begin` for that
reason.
-/

namespace DocSite.Json

/-- A token: a bracket, a divider or a scalar. -/
inductive Token where
  | openArray
  | closeArray
  | openObject
  | closeObject
  | comma
  | colon
  | scalar (value : Scalar)
  deriving DecidableEq

/-! ## Numbers -/

namespace Number

/-- Drops a nonempty run of digits. -/
def digits : List Char → Option (List Char)
  | c :: cs => if c.isDigit then some (cs.dropWhile Char.isDigit) else none
  | [] => none

/-- Drops an exponent, if one is there, and demands that nothing follows. -/
def exponent : List Char → Bool
  | [] => true
  | c :: cs =>
    if c = 'e' ∨ c = 'E' then
      match cs with
      | '+' :: ds => digits ds = some []
      | '-' :: ds => digits ds = some []
      | ds => digits ds = some []
    else false

/-- Drops a fraction, if one is there, and demands that at most an exponent follows. -/
def fraction : List Char → Bool
  | '.' :: cs =>
    match digits cs with
    | some rest => exponent rest
    | none => false
  | cs => exponent cs

/-- Whether a spelling without its sign is a number.  Only zero itself begins with a zero. -/
def unsigned : List Char → Bool
  | '0' :: cs => fraction cs
  | cs =>
    match digits cs with
    | some rest => fraction rest
    | none => false

/-- The number that a row of digits writes. -/
def value (ds : List Char) : Nat :=
  ds.foldl (fun n d => 10 * n + (d.toNat - '0'.toNat)) 0

/-- Reads a whole spelling.  Only an unsigned integer has its value taken. -/
def ofSpelling (cs : List Char) : Option Scalar :=
  match cs with
  | '-' :: ds => if unsigned ds then some (.numeral (String.ofList cs)) else none
  | _ =>
    if unsigned cs then
      if cs.all Char.isDigit then some (.natural (value cs))
      else some (.numeral (String.ofList cs))
    else none

end Number

/-! ## Strings -/

/-- A part of a string as spelled: a character that stands for itself or is named by a short
escape, or a unit given by its number. -/
inductive Piece where
  | char (c : Char)
  | unit (value : Nat)
  deriving DecidableEq

namespace Piece

/-- Two units that together name one character, the high one first. -/
def pair (high low : Nat) : Char :=
  Char.ofNat (0x10000 + (high - 0xD800) * 0x400 + (low - 0xDC00))

def isHigh (u : Nat) : Bool := 0xD800 ≤ u && u < 0xDC00

def isLow (u : Nat) : Bool := 0xDC00 ≤ u && u < 0xE000

/-- The characters that a row of pieces says, or `none` if a surrogate stands alone.  The pieces
come last one first, and `after` is what follows them. -/
def chars : List Piece → List Char → Option (List Char)
  | [], after => some after
  | char c :: ps, after => chars ps (c :: after)
  | unit v :: unit u :: ps, after =>
    if isLow v then
      if isHigh u then chars ps (pair u v :: after) else none
    else if isHigh v then none
    else chars (unit u :: ps) (Char.ofNat v :: after)
  | unit v :: ps, after =>
    if isLow v || isHigh v then none else chars ps (Char.ofNat v :: after)

/-- The text of a string whose pieces are given last first. -/
def text (pieces : List Piece) : Text := (chars pieces []).map String.ofList

end Piece

/-- The characters that may follow a backslash, other than `u`. -/
def escaped? : Char → Option Char
  | '"' => some '"'
  | '\\' => some '\\'
  | '/' => some '/'
  | 'b' => some (Char.ofNat 8)
  | 'f' => some (Char.ofNat 12)
  | 'n' => some '\n'
  | 'r' => some '\r'
  | 't' => some '\t'
  | _ => none

/-! ## The machine -/

/-- Where the machine stands.  What has been read of a token is kept last character first. -/
inductive Mode where
  | waiting
  | word (letters : List Char)
  | number (chars : List Char)
  | string (pieces : List Piece)
  | escape (pieces : List Piece)
  | unit (pieces : List Piece) (count value : Nat)
  deriving DecidableEq

/-- The machine: its mode, and the tokens it has finished, last one first. -/
structure Lexer where
  mode : Mode
  done : List Token
  deriving DecidableEq

namespace Lexer

def start : Lexer := ⟨.waiting, []⟩

def isBlank (c : Char) : Bool := c = ' ' || c = '\n' || c = '\r' || c = '\t'

def isNumeric (c : Char) : Bool :=
  c.isDigit || c = '-' || c = '+' || c = '.' || c = 'e' || c = 'E'

/-- A character read between tokens. -/
def begin (done : List Token) (c : Char) : Option Lexer :=
  if isBlank c then some ⟨.waiting, done⟩
  else
    match c with
    | '[' => some ⟨.waiting, .openArray :: done⟩
    | ']' => some ⟨.waiting, .closeArray :: done⟩
    | '\x7b' => some ⟨.waiting, .openObject :: done⟩
    | '\x7d' => some ⟨.waiting, .closeObject :: done⟩
    | ',' => some ⟨.waiting, .comma :: done⟩
    | ':' => some ⟨.waiting, .colon :: done⟩
    | '"' => some ⟨.string [], done⟩
    | _ =>
      if c.isDigit || c = '-' then some ⟨.number [c], done⟩
      else if c.isLower then some ⟨.word [c], done⟩
      else none

/-- The scalar that a word names. -/
def wordScalar? (letters : List Char) : Option Scalar :=
  match String.ofList letters.reverse with
  | "null" => some .null
  | "true" => some (.bool true)
  | "false" => some (.bool false)
  | _ => none

/-- The machine after one more character, or `none` if no token can go on with it. -/
def next (m : Lexer) (c : Char) : Option Lexer :=
  match m.mode with
  | .waiting => begin m.done c
  | .word letters =>
    if c.isLower then some ⟨.word (c :: letters), m.done⟩
    else (wordScalar? letters).bind fun s => begin (.scalar s :: m.done) c
  | .number chars =>
    if isNumeric c then some ⟨.number (c :: chars), m.done⟩
    else (Number.ofSpelling chars.reverse).bind fun s => begin (.scalar s :: m.done) c
  | .string pieces =>
    if c = '"' then some ⟨.waiting, .scalar (.string (Piece.text pieces)) :: m.done⟩
    else if c = '\\' then some ⟨.escape pieces, m.done⟩
    else if c.toNat < 0x20 then none
    else some ⟨.string (.char c :: pieces), m.done⟩
  | .escape pieces =>
    if c = 'u' then some ⟨.unit pieces 0 0, m.done⟩
    else (escaped? c).map fun e => ⟨.string (.char e :: pieces), m.done⟩
  | .unit pieces count value =>
    (Text.hexDigit? c).map fun d =>
      if count = 3 then ⟨.string (.unit (16 * value + d) :: pieces), m.done⟩
      else ⟨.unit pieces (count + 1) (16 * value + d), m.done⟩

def run : Lexer → List Char → Option Lexer
  | m, [] => some m
  | m, c :: cs =>
    match m.next c with
    | some m' => m'.run cs
    | none => none

/-- The tokens read, if the text may end here. -/
def finish (m : Lexer) : Option (List Token) :=
  match m.mode with
  | .waiting => some m.done.reverse
  | .word letters => (wordScalar? letters).map fun s => (.scalar s :: m.done).reverse
  | .number chars => (Number.ofSpelling chars.reverse).map fun s => (.scalar s :: m.done).reverse
  | _ => none

end Lexer

/-- The tokens of a text. -/
def tokens (text : List Char) : Option (List Token) :=
  (Lexer.start.run text).bind Lexer.finish

end DocSite.Json
