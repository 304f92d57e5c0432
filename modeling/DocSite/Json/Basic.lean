/-!
# JSON values

A JSON text denotes a tree of arrays and objects over scalars.  The tree keeps what later readers
may have to judge: members of an object stay in order and may repeat, a number that is not a plain
unsigned integer keeps its spelling, and a string spelled with an unpaired surrogate is kept as a
string without a text, since such a string is harmless where nobody asks what it says.
-/

namespace DocSite

namespace Json

/-- What a JSON string says, or `none` if its spelling holds an unpaired surrogate. -/
abbrev Text := Option String

/-- A value without parts. -/
inductive Scalar where
  | null
  | bool (value : Bool)
  | natural (value : Nat)
  | numeral (spelling : String)
  | string (text : Text)
  deriving DecidableEq

end Json

inductive Json where
  | scalar (value : Json.Scalar)
  | array (items : List Json)
  | object (members : List (Json.Text × Json))

namespace Json

def null : Json := .scalar .null

def bool (b : Bool) : Json := .scalar (.bool b)

def natural (n : Nat) : Json := .scalar (.natural n)

def string (s : String) : Json := .scalar (.string (some s))

/-- Whether a value opens no bracket. -/
def isScalar : Json → Bool
  | scalar _ => true
  | _ => false

def isNull : Json → Bool
  | scalar .null => true
  | _ => false

end Json

end DocSite
