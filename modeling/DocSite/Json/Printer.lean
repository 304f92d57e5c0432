import DocSite.Json.Basic

/-!
# Writing JSON

The written form of a value: two blanks of indentation for each open bracket, one item or member on
a line, and nothing between the brackets of an empty array or object.  In a string only the quote,
the backslash and the control characters are escaped.
-/

namespace DocSite.Json

/-- The lower-case hexadecimal digit of a number below sixteen. -/
def hexDigit (n : Nat) : Char :=
  if n < 10 then Char.ofNat ('0'.toNat + n) else Char.ofNat ('a'.toNat + (n - 10))

/-- One character of a string. -/
def writeChar (c : Char) : List Char :=
  match c with
  | '"' => ['\\', '"']
  | '\\' => ['\\', '\\']
  | '\n' => ['\\', 'n']
  | '\r' => ['\\', 'r']
  | '\t' => ['\\', 't']
  | _ =>
    if c.toNat = 8 then ['\\', 'b']
    else if c.toNat = 12 then ['\\', 'f']
    else if c.toNat < 0x20 then
      ['\\', 'u', '0', '0', hexDigit (c.toNat / 16), hexDigit (c.toNat % 16)]
    else [c]

/-- A string without a text is written as one unpaired surrogate. -/
def writeText : Text → List Char
  | some s => '"' :: s.toList.flatMap writeChar ++ ['"']
  | none => "\"\\ud800\"".toList

def writeScalar : Scalar → List Char
  | .null => "null".toList
  | .bool true => "true".toList
  | .bool false => "false".toList
  | .natural n => (toString n).toList
  | .numeral s => s.toList
  | .string t => writeText t

/-- A new line at a depth of open brackets. -/
def newline (depth : Nat) : List Char := '\n' :: List.replicate (2 * depth) ' '

mutual

/-- A value that stands inside `depth` brackets. -/
def write (depth : Nat) : Json → List Char
  | scalar s => writeScalar s
  | array [] => ['[', ']']
  | array (j :: js) =>
    '[' :: newline (depth + 1) ++ write (depth + 1) j ++ writeItems (depth + 1) js ++
      newline depth ++ [']']
  | object [] => ['\x7b', '\x7d']
  | object ((k, j) :: ms) =>
    '\x7b' :: newline (depth + 1) ++ writeText k ++ ": ".toList ++ write (depth + 1) j ++
      writeMembers (depth + 1) ms ++ newline depth ++ ['\x7d']

/-- The items after the first. -/
def writeItems (depth : Nat) : List Json → List Char
  | [] => []
  | j :: js => ',' :: newline depth ++ write depth j ++ writeItems depth js

/-- The members after the first. -/
def writeMembers (depth : Nat) : List (Text × Json) → List Char
  | [] => []
  | (k, j) :: ms =>
    ',' :: newline depth ++ writeText k ++ ": ".toList ++ write depth j ++ writeMembers depth ms

end

/-- The written form of a value, without a final newline. -/
def print (j : Json) : String := String.ofList (j.write 0)

end DocSite.Json
