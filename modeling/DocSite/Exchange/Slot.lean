import DocSite.Json.Basic

/-!
# Describing an exchange format

An exchange format is described by data: a `Slot` says what may stand at one place of a JSON text.
Slots that refer to one another do so by name, through a table from names to slots, so a finite
description covers values of any depth.

What is read is a `Datum`: the value with every accident of spelling removed.  Fields of a record
stand in the order of their declaration, a field that was left out stands there with its default,
and a variant is its name with its payload.  `read` and `write` go between the two, and each type of
the interface only has to say what its datum is.

The freedoms of the written form are these.

* A record is an object, in which order and unknown members do not matter but no known member may
  repeat, or an array of the fields in order, from which fields with a default may be missing at the
  end.
* A variant is an object with its name as the only key.  A variant without payload is its bare
  name, or the object whose only value is null.
* A nullable place may hold null.

The number of brackets that may be open at once is limited, and the limit is what the reading
recurses on.  Members that nobody asked for are not entered, so they do not count.
-/

namespace DocSite.Exchange

/-- A value without its spelling. -/
inductive Datum where
  | null
  | flag (value : Bool)
  | number (value : Nat)
  | text (value : String)
  | list (items : List Datum)
  | variant (name : String) (payload : Datum)

/-- A named part of a record.  A field without a default has to be there; a field with `elide` set
is not written when it is null. -/
structure Field (S : Type) where
  name : String
  slot : S
  default : Option Datum := none
  elide : Bool := false

/-- What may stand at a place.  `ref` refers to the table of named slots; the payload of a variant
is `none` if it has none. -/
inductive Slot (N : Type) where
  | text
  | flag
  | number (bound : Nat)
  | nullable (slot : Slot N)
  | list (item : Slot N)
  | tuple (items : List (Slot N))
  | record (fields : List (Field (Slot N)))
  | choice (variants : List (String × Option (Slot N)))
  | ref (name : N)

namespace Slot

variable {N : Type}

def isNullable : Slot N → Bool
  | nullable _ => true
  | _ => false

/-- The slot itself, once null has been dealt with and a name has been looked up. -/
def resolve (table : N → Slot N) : Slot N → Slot N
  | nullable s => s.resolve table
  | ref n => table n
  | s => s

/-- The payload of a variant; the outer `none` means that there is no such variant. -/
def payload? (variants : List (String × Option (Slot N))) (name : String) :
    Option (Option (Slot N)) :=
  variants.lookup name

end Slot

section Read

variable {N : Type} (table : N → Slot N) (inner : Slot N → Json → Option Datum)

/-- The fields of a record written as an object. -/
def readMembers (members : List (Json.Text × Json)) : List (Field (Slot N)) → Option (List Datum)
  | [] => some []
  | f :: fs => do
    let d ← match members.filter fun m => m.1 == some f.name with
      | [] => f.default
      | [m] => inner f.slot m.2
      | _ => none
    return d :: (← readMembers members fs)

/-- The fields of a record written as an array. -/
def readPositions : List (Field (Slot N)) → List Json → Option (List Datum)
  | [], [] => some []
  | [], _ :: _ => none
  | f :: fs, [] => do return (← f.default) :: (← readPositions fs [])
  | f :: fs, j :: js => do return (← inner f.slot j) :: (← readPositions fs js)

/-- The items of a tuple, each at its place. -/
def readTuple : List (Slot N) → List Json → Option (List Datum)
  | [], [] => some []
  | s :: ss, j :: js => do return (← inner s j) :: (← readTuple ss js)
  | _, _ => none

/-- The items of a list, all alike. -/
def readList (item : Slot N) : List Json → Option (List Datum)
  | [] => some []
  | j :: js => do return (← inner item j) :: (← readList item js)

/-- Reads one value, with `inner` for what stands inside its brackets. -/
def readStep (slot : Slot N) (j : Json) : Option Datum :=
  if slot.isNullable && j.isNull then some .null
  else
    match slot.resolve table, j with
    | .text, .scalar (.string (some s)) => some (.text s)
    | .flag, .scalar (.bool b) => some (.flag b)
    | .number bound, .scalar (.natural n) => if n < bound then some (.number n) else none
    | .list item, .array js => (readList inner item js).map .list
    | .tuple items, .array js => (readTuple inner items js).map .list
    | .record fields, .array js => (readPositions inner fields js).map .list
    | .record fields, .object members =>
      if members.all fun m => m.1.isSome then (readMembers inner members fields).map .list
      else none
    | .choice variants, .scalar (.string (some name)) =>
      match Slot.payload? variants name with
      | some none => some (.variant name .null)
      | _ => none
    | .choice variants, .object [(some name, j)] =>
      match Slot.payload? variants name with
      | some none => if j.isNull then some (.variant name .null) else none
      | some (some payload) => (inner payload j).map (.variant name)
      | none => none
    | _, _ => none

/-- Reads a value in which at most `depth` brackets are open at once. -/
def read : Nat → Slot N → Json → Option Datum
  | 0, slot, j => if j.isScalar then readStep table (fun _ _ => none) slot j else none
  | depth + 1, slot, j => readStep table (read depth) slot j

end Read

section Write

variable {N : Type} (table : N → Slot N)

/-- The slot at which the payload of a variant is written. -/
def payloadSlot (slot : Slot N) (name : String) : Option (Slot N) :=
  match slot.resolve table with
  | .choice variants => (Slot.payload? variants name).join
  | _ => none

mutual

/-- Writes a datum at a slot: records as objects with every field, variants without payload as
their name.  What does not fit the slot is written as null. -/
def write (slot : Slot N) : Datum → Json
  | .null => .null
  | .flag b => .bool b
  | .number n => .natural n
  | .text s => .string s
  | .list ds =>
    match slot.resolve table with
    | .list item => .array (writeList item ds)
    | .tuple items => .array (writeTuple items ds)
    | .record fields => .object (writeFields fields ds)
    | _ => .null
  | .variant name d =>
    match payloadSlot table slot name with
    | some payload => .object [(some name, write payload d)]
    | none => .string name

@[inherit_doc write]
def writeList (item : Slot N) : List Datum → List Json
  | [] => []
  | d :: ds => write item d :: writeList item ds

@[inherit_doc write]
def writeTuple (items : List (Slot N)) : List Datum → List Json
  | [] => []
  | d :: ds =>
    match items with
    | [] => []
    | s :: ss => write s d :: writeTuple ss ds

@[inherit_doc write]
def writeFields (fields : List (Field (Slot N))) : List Datum → List (Json.Text × Json)
  | [] => []
  | d :: ds =>
    match fields with
    | [] => []
    | f :: fs =>
      let rest := writeFields fs ds
      match f.elide, d with
      | true, .null => rest
      | _, _ => (some f.name, write f.slot d) :: rest

end

end Write

end DocSite.Exchange
