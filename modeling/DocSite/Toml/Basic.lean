import DocSite.Toml.DateTime
import DocSite.Toml.Number

/-!
# TOML values

A document is a table.  How a table came into being decides what may still be added to it: a table
that a header opened, or one written on one line, is closed to dotted keys, while a table that is
only there because a longer header runs through it may still be opened by a header of its own.  A
double header adds one more table to a row of tables, and what follows belongs to the last of them.
-/

namespace DocSite.Toml

/-- How a table came into being. -/
inductive Origin where
  /-- Written on one line, between braces. -/
  | inline
  /-- Opened by a header. -/
  | header
  /-- On the way of a header. -/
  | implied
  /-- On the way of a dotted key. -/
  | dotted
  deriving DecidableEq

inductive Value where
  | string (text : String)
  | boolean (value : Bool)
  | integer (value : Int)
  /-- A number with a fraction or an exponent, as it is written. -/
  | fractional (text : String)
  | dateTime (value : DateTime)
  | array (items : List Value)
  | table (origin : Origin) (members : List (String × Value))
  /-- A row of tables that double headers have opened. -/
  | tables (earlier : List (List (String × Value))) (last : List (String × Value))

/-- The members of a table, in the order in which they were added. -/
abbrev Members := List (String × Value)

namespace Value

/-- The value that a word stands for. -/
def ofWord? (word : String) : Option Value :=
  let chars := word.toList
  match word with
  | "true" => some (.boolean true)
  | "false" => some (.boolean false)
  | _ =>
    match DateTime.ofChars? chars, Integer.ofChars? chars with
    | some d, _ => some (.dateTime d)
    | none, some n => if Integer.inRange n then some (.integer n) else none
    | none, none => if Fractional.isWord chars then some (.fractional word) else none

/-- The name of the only member of a point in time that is taken for a table. -/
def dateTimeMember : String := "$__toml_private_datetime"

/-- The members of a table.  A point in time is also a table: it has one member, its text. -/
def members? : Value → Option Members
  | table _ ms => some ms
  | dateTime d => some [(dateTimeMember, .string d.text)]
  | _ => none

/-- The items of an array or of a row of tables. -/
def items? : Value → Option (List Value)
  | array items => some items
  | tables earlier last => some ((earlier ++ [last]).map (.table .header))
  | _ => none

end Value

namespace Members

/-- The members with another value for a key that is there. -/
def replace (ms : Members) (key : String) (value : Value) : Members :=
  ms.map fun m => if m.1 = key then (key, value) else m

/-- Adds a value under a dotted key.  The last part of the key must be new.  The parts before it
name tables that dotted keys have made, or are to make now; the way to the last of them may also
lead through tables that are only implied, and through the last table of a row. -/
def add (ms : Members) (value : Value) : List String → Option Members
  | [] => none
  | [key] => if (ms.lookup key).isSome then none else some (ms ++ [(key, value)])
  | key :: next :: rest =>
    match ms.lookup key with
    | none =>
      (add [] value (next :: rest)).map fun inner => ms ++ [(key, .table .dotted inner)]
    | some (.table origin inner) =>
      if origin = .dotted ∨ (origin = .implied ∧ rest ≠ []) then
        (add inner value (next :: rest)).map fun inner => ms.replace key (.table origin inner)
      else none
    | some (.tables earlier last) =>
      if rest ≠ [] then
        (add last value (next :: rest)).map fun last => ms.replace key (.tables earlier last)
      else none
    | some _ => none

/-- Follows a header to the table that holds its last part, and opens something there.  Tables on
the way are made where they are missing. -/
def along (ms : Members) (openLast : Members → String → Option Members) :
    List String → Option Members
  | [] => none
  | [key] => openLast ms key
  | key :: next :: rest =>
    match ms.lookup key with
    | none =>
      (along [] openLast (next :: rest)).map fun inner => ms ++ [(key, .table .implied inner)]
    | some (.table .inline _) => none
    | some (.table origin inner) =>
      (along inner openLast (next :: rest)).map fun inner => ms.replace key (.table origin inner)
    | some (.tables earlier last) =>
      (along last openLast (next :: rest)).map fun last => ms.replace key (.tables earlier last)
    | some _ => none

/-- Opens the table that a header names.  It may be there already, but only implied. -/
def openHeader (ms : Members) (path : List String) : Option Members :=
  ms.along (fun ms key =>
    match ms.lookup key with
    | none => some (ms ++ [(key, .table .header [])])
    | some (.table .implied inner) => some (ms.replace key (.table .header inner))
    | some _ => none) path

/-- Opens one more table in the row that a double header names. -/
def openRow (ms : Members) (path : List String) : Option Members :=
  ms.along (fun ms key =>
    match ms.lookup key with
    | none => some (ms ++ [(key, .tables [] [])])
    | some (.tables earlier last) => some (ms.replace key (.tables (earlier ++ [last]) []))
    | some _ => none) path

/-- Adds a value under a dotted key of the table that the last header has opened. -/
def addUnder (ms : Members) (key : List String) (value : Value) : List String → Option Members
  | [] => ms.add value key
  | name :: rest =>
    match ms.lookup name with
    | some (.table origin inner) =>
      (addUnder inner key value rest).map fun inner => ms.replace name (.table origin inner)
    | some (.tables earlier last) =>
      (addUnder last key value rest).map fun last => ms.replace name (.tables earlier last)
    | _ => none

end Members

end DocSite.Toml
