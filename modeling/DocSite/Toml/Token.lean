import DocSite.Text.Hexadecimal

/-!
# TOML tokens

A text is cut into tokens by a machine that reads one character at a time.  Blanks and comments
divide tokens and leave none; the end of a line is a token.  A word is a run of the characters of
keys, numbers and points in time, dots included, and what it means depends on where it stands.  The
blank between a date and a time belongs to the word.
-/

namespace DocSite.Toml

/-- A bracket is joined if it follows one of its kind at once. -/
inductive Token where
  | word (text : String)
  /-- A text on one line. -/
  | quoted (text : String)
  /-- A text between threefold quotes, which may have many lines. -/
  | block (text : String)
  | equals
  | comma
  | openBracket (joined : Bool)
  | closeBracket (joined : Bool)
  | openBrace
  | closeBrace
  | newline
  deriving DecidableEq

/-- The two kinds of quotes: only in a basic text is the backslash special. -/
inductive Quote where
  | basic
  | literal
  deriving DecidableEq

def Quote.mark : Quote → Char
  | basic => '"'
  | literal => '\''

/-- Where the machine stands.  What has been read of a token is kept last character first. -/
inductive Mode where
  | waiting
  /-- Just after a bracket. -/
  | bracket (bracket : Char)
  | comment
  /-- After a carriage return, which only a line feed may follow. -/
  | carriage
  | word (chars : List Char)
  /-- After a date and one blank: a time may follow. -/
  | dated (chars : List Char)
  | line (quote : Quote) (chars : List Char)
  /-- After two quotes: the text is empty unless a third one follows. -/
  | empty (quote : Quote)
  /-- At the beginning of a block, where the end of a line does not count. -/
  | blockStart (quote : Quote)
  | blockStartCarriage (quote : Quote)
  /-- Inside a block, after some quotes in a row. -/
  | block (quote : Quote) (chars : List Char) (quotes : Nat)
  | blockCarriage (quote : Quote) (chars : List Char)
  | escape (inBlock : Bool) (chars : List Char)
  /-- Inside a numbered character, with as many digits to come. -/
  | number (inBlock : Bool) (chars : List Char) (left value : Nat)
  /-- After a backslash that is to end its line. -/
  | lineEnd (chars : List Char)
  /-- After a backslash at the end of a line, where blanks and further lines are passed over. -/
  | skipping (chars : List Char)
  | skippingCarriage (chars : List Char)
  deriving DecidableEq

/-- The machine: its mode, and the tokens it has finished, last one first. -/
structure Lexer where
  mode : Mode
  done : List Token
  deriving DecidableEq

namespace Lexer

def isBare (c : Char) : Bool := c.isAlphanum || c = '_' || c = '-'

def isWord (c : Char) : Bool := isBare c || c = '+' || c = ':' || c = '.'

def isBlank (c : Char) : Bool := c = ' ' || c = '\t'

/-- Whether a character may stand in a comment or between quotes. -/
def isVisible (c : Char) : Bool := c = '\t' || (0x20 ≤ c.toNat && c.toNat ≠ 0x7F)

/-- The characters that may follow a backslash, other than the letters of numbered ones. -/
def escaped? : Char → Option Char
  | 'b' => some (Char.ofNat 8)
  | 't' => some '\t'
  | 'n' => some '\n'
  | 'f' => some (Char.ofNat 12)
  | 'r' => some '\r'
  | '"' => some '"'
  | '\\' => some '\\'
  | _ => none

/-- Whether the characters of a word, last one first, have the form of a date. -/
def isDate : List Char → Bool
  | [d₂, d₁, '-', m₂, m₁, '-', y₄, y₃, y₂, y₁] =>
    [y₁, y₂, y₃, y₄, m₁, m₂, d₁, d₂].all Char.isDigit
  | _ => false

/-- A character read between tokens. -/
def begin (done : List Token) (c : Char) : Option Lexer :=
  if isBlank c then some ⟨.waiting, done⟩
  else if isWord c then some ⟨.word [c], done⟩
  else
    match c with
    | '\n' => some ⟨.waiting, .newline :: done⟩
    | '\r' => some ⟨.carriage, done⟩
    | '#' => some ⟨.comment, done⟩
    | '"' => some ⟨.line .basic [], done⟩
    | '\'' => some ⟨.line .literal [], done⟩
    | '=' => some ⟨.waiting, .equals :: done⟩
    | ',' => some ⟨.waiting, .comma :: done⟩
    | '[' => some ⟨.bracket '[', .openBracket false :: done⟩
    | ']' => some ⟨.bracket ']', .closeBracket false :: done⟩
    | '\x7b' => some ⟨.waiting, .openBrace :: done⟩
    | '\x7d' => some ⟨.waiting, .closeBrace :: done⟩
    | _ => none

def textOf (chars : List Char) : String := String.ofList chars.reverse

/-- Some quotes before what has been read. -/
def withQuotes (quote : Quote) (chars : List Char) (quotes : Nat) : List Char :=
  List.replicate quotes quote.mark ++ chars

/-- A character of a block that does not follow a quote and is none. -/
def blockChar (done : List Token) (quote : Quote) (chars : List Char) (c : Char) : Option Lexer :=
  if c = '\n' then some ⟨.block quote ('\n' :: chars) 0, done⟩
  else if c = '\r' then some ⟨.blockCarriage quote chars, done⟩
  else if c = '\\' ∧ quote = .basic then some ⟨.escape true chars, done⟩
  else if isVisible c then some ⟨.block quote (c :: chars) 0, done⟩
  else none

/-- A character of a block.  The first three quotes in a row that no fourth and fifth follow end it;
two more may stand before them. -/
def readBlock (done : List Token) (quote : Quote) (chars : List Char) (quotes : Nat) (c : Char) :
    Option Lexer :=
  if c = quote.mark then if quotes < 5 then some ⟨.block quote chars (quotes + 1), done⟩ else none
  else if quotes < 3 then blockChar done quote (withQuotes quote chars quotes) c
  else begin (.block (textOf (withQuotes quote chars (quotes - 3))) :: done) c

/-- The mode inside a basic text, on one line or in a block. -/
def inText (inBlock : Bool) (chars : List Char) : Mode :=
  if inBlock then .block .basic chars 0 else .line .basic chars

/-- The machine after one more character, or `none` if no token can go on with it. -/
def next (m : Lexer) (c : Char) : Option Lexer :=
  match m.mode with
  | .waiting => begin m.done c
  | .bracket bracket =>
    if c ≠ bracket then begin m.done c
    else if c = '[' then some ⟨.bracket c, .openBracket true :: m.done⟩
    else some ⟨.bracket c, .closeBracket true :: m.done⟩
  | .comment =>
    if c = '\n' then some ⟨.waiting, .newline :: m.done⟩
    else if c = '\r' then some ⟨.carriage, m.done⟩
    else if isVisible c then some m
    else none
  | .carriage => if c = '\n' then some ⟨.waiting, .newline :: m.done⟩ else none
  | .word chars =>
    if isWord c then some ⟨.word (c :: chars), m.done⟩
    else if c = ' ' ∧ isDate chars then some ⟨.dated chars, m.done⟩
    else begin (.word (textOf chars) :: m.done) c
  | .dated chars =>
    if c.isDigit then some ⟨.word (c :: ' ' :: chars), m.done⟩
    else begin (.word (textOf chars) :: m.done) c
  | .line quote chars =>
    if c = quote.mark then
      if chars.isEmpty then some ⟨.empty quote, m.done⟩
      else some ⟨.waiting, .quoted (textOf chars) :: m.done⟩
    else if c = '\\' ∧ quote = .basic then some ⟨.escape false chars, m.done⟩
    else if isVisible c then some ⟨.line quote (c :: chars), m.done⟩
    else none
  | .empty quote =>
    if c = quote.mark then some ⟨.blockStart quote, m.done⟩ else begin (.quoted "" :: m.done) c
  | .blockStart quote =>
    if c = '\n' then some ⟨.block quote [] 0, m.done⟩
    else if c = '\r' then some ⟨.blockStartCarriage quote, m.done⟩
    else readBlock m.done quote [] 0 c
  | .blockStartCarriage quote => if c = '\n' then some ⟨.block quote [] 0, m.done⟩ else none
  | .block quote chars quotes => readBlock m.done quote chars quotes c
  | .blockCarriage quote chars =>
    if c = '\n' then some ⟨.block quote ('\n' :: chars) 0, m.done⟩ else none
  | .escape inBlock chars =>
    if c = 'u' then some ⟨.number inBlock chars 4 0, m.done⟩
    else if c = 'U' then some ⟨.number inBlock chars 8 0, m.done⟩
    else if inBlock ∧ isBlank c then some ⟨.lineEnd chars, m.done⟩
    else if inBlock ∧ c = '\n' then some ⟨.skipping chars, m.done⟩
    else if inBlock ∧ c = '\r' then some ⟨.skippingCarriage chars, m.done⟩
    else (escaped? c).map fun e => ⟨inText inBlock (e :: chars), m.done⟩
  | .number inBlock chars left value =>
    match Text.hexDigit? c with
    | none => none
    | some d =>
      let value := 16 * value + d
      if left ≠ 1 then some ⟨.number inBlock chars (left - 1) value, m.done⟩
      else if value.isValidChar then some ⟨inText inBlock (Char.ofNat value :: chars), m.done⟩
      else none
  | .lineEnd chars =>
    if isBlank c then some m
    else if c = '\n' then some ⟨.skipping chars, m.done⟩
    else if c = '\r' then some ⟨.skippingCarriage chars, m.done⟩
    else none
  | .skipping chars =>
    if isBlank c ∨ c = '\n' then some m
    else if c = '\r' then some ⟨.skippingCarriage chars, m.done⟩
    else readBlock m.done .basic chars 0 c
  | .skippingCarriage chars => if c = '\n' then some ⟨.skipping chars, m.done⟩ else none

def run : Lexer → List Char → Option Lexer
  | m, [] => some m
  | m, c :: cs =>
    match m.next c with
    | some m' => m'.run cs
    | none => none

/-- The tokens read, if the text may end here. -/
def finish (m : Lexer) : Option (List Token) :=
  match m.mode with
  | .waiting | .bracket _ | .comment => some m.done.reverse
  | .word chars | .dated chars => some (.word (textOf chars) :: m.done).reverse
  | .empty _ => some (.quoted "" :: m.done).reverse
  | .block quote chars quotes =>
    if quotes < 3 then none
    else some (.block (textOf (withQuotes quote chars (quotes - 3))) :: m.done).reverse
  | _ => none

end Lexer

/-- The tokens of a text.  A byte-order mark at its beginning is passed over. -/
def tokens (text : List Char) : Option (List Token) :=
  let text := if text.head? = some (Char.ofNat 0xFEFF) then text.tail else text
  ((⟨.waiting, []⟩ : Lexer).run text).bind Lexer.finish

end DocSite.Toml
