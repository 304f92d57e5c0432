/-!
# Dates and times

A point in time as TOML writes it: a date, a time, or both, and with both there may be an offset.
Every field has to be in its range, and the day has to be one of its month.
-/

namespace DocSite.Toml

structure Date where
  year : Nat
  month : Nat
  day : Nat
  deriving DecidableEq

structure Time where
  hour : Nat
  minute : Nat
  second : Nat
  nanosecond : Nat := 0
  deriving DecidableEq

/-- How far local time is ahead of universal time. -/
inductive Offset where
  | universal
  | minutes (minutes : Int)
  deriving DecidableEq

inductive DateTime where
  | date (date : Date)
  | time (time : Time)
  | both (date : Date) (time : Time) (offset : Option Offset)
  deriving DecidableEq

/-! ## Reading -/

/-- The number that some digits write. -/
def number? (digits : List Char) : Option Nat :=
  if digits.all Char.isDigit then
    some (digits.foldl (fun n c => 10 * n + (c.toNat - '0'.toNat)) 0)
  else none

/-- The number that some digits write, if it lies in a range. -/
def numberIn? (least greatest : Nat) (digits : List Char) : Option Nat :=
  (number? digits).filter fun n => least ≤ n && n ≤ greatest

namespace Date

def isLeapYear (year : Nat) : Bool := year % 4 = 0 && (year % 100 ≠ 0 || year % 400 = 0)

def daysInMonth (year month : Nat) : Nat :=
  if month = 2 then if isLeapYear year then 29 else 28
  else if [4, 6, 9, 11].contains month then 30
  else 31

/-- A date at the beginning of a text, and what follows it. -/
def read? : List Char → Option (Date × List Char)
  | y₁ :: y₂ :: y₃ :: y₄ :: '-' :: m₁ :: m₂ :: '-' :: d₁ :: d₂ :: rest => do
    let year ← number? [y₁, y₂, y₃, y₄]
    let month ← numberIn? 1 12 [m₁, m₂]
    let day ← numberIn? 1 (daysInMonth year month) [d₁, d₂]
    return (⟨year, month, day⟩, rest)
  | _ => none

end Date

namespace Time

/-- The nanoseconds that the digits after the point of a second stand for; what is smaller is cut
off. -/
def nanoseconds? (digits : List Char) : Option Nat :=
  if digits.isEmpty then none
  else number? ((digits ++ List.replicate 9 '0').take 9)

/-- A time at the beginning of a text, and what follows it.  A minute may have a leap second. -/
def read? : List Char → Option (Time × List Char)
  | h₁ :: h₂ :: ':' :: m₁ :: m₂ :: ':' :: s₁ :: s₂ :: rest => do
    let hour ← numberIn? 0 23 [h₁, h₂]
    let minute ← numberIn? 0 59 [m₁, m₂]
    let second ← numberIn? 0 60 [s₁, s₂]
    match rest with
    | '.' :: fraction =>
      let nanosecond ← nanoseconds? (fraction.takeWhile Char.isDigit)
      return (⟨hour, minute, second, nanosecond⟩, fraction.dropWhile Char.isDigit)
    | _ => return (⟨hour, minute, second, 0⟩, rest)
  | _ => none

end Time

/-- The offset that a text writes, if it writes one. -/
def Offset.ofChars? : List Char → Option Offset
  | ['Z'] => some .universal
  | ['z'] => some .universal
  | [sign, h₁, h₂, ':', m₁, m₂] => do
    let hours ← numberIn? 0 23 [h₁, h₂]
    let minutes ← numberIn? 0 59 [m₁, m₂]
    match sign with
    | '+' => return .minutes (60 * hours + minutes : Nat)
    | '-' => return .minutes (-(60 * hours + minutes : Nat))
    | _ => none
  | _ => none

namespace DateTime

/-- Whether a character may stand between a date and its time. -/
def isDivider (c : Char) : Bool := c = 'T' || c = 't' || c = ' '

/-- The point in time that a text writes, if it writes one. -/
def ofChars? (cs : List Char) : Option DateTime :=
  match Date.read? cs with
  | some (d, []) => some (.date d)
  | some (d, divider :: rest) =>
    if isDivider divider then
      match Time.read? rest with
      | some (t, []) => some (.both d t none)
      | some (t, offset) => (Offset.ofChars? offset).map fun o => .both d t (some o)
      | none => none
    else none
  | none =>
    match Time.read? cs with
    | some (t, []) => some (.time t)
    | _ => none

end DateTime

/-! ## Writing -/

/-- A number with at least as many digits as given. -/
def padded (width n : Nat) : String :=
  let digits := Nat.toDigits 10 n
  String.ofList (List.replicate (width - digits.length) '0' ++ digits)

def Date.text (d : Date) : String :=
  padded 4 d.year ++ "-" ++ padded 2 d.month ++ "-" ++ padded 2 d.day

/-- The fraction of a second has no zeros at its end, and is left out if it is zero. -/
def Time.text (t : Time) : String :=
  let fraction := ((padded 9 t.nanosecond).toList.reverse.dropWhile (· = '0')).reverse
  padded 2 t.hour ++ ":" ++ padded 2 t.minute ++ ":" ++ padded 2 t.second ++
    if fraction.isEmpty then "" else "." ++ String.ofList fraction

def Offset.text : Offset → String
  | universal => "Z"
  | minutes m =>
    (if m < 0 then "-" else "+") ++ padded 2 (m.natAbs / 60) ++ ":" ++ padded 2 (m.natAbs % 60)

def DateTime.text : DateTime → String
  | date d => d.text
  | time t => t.text
  | both d t offset => d.text ++ "T" ++ t.text ++ (offset.map Offset.text).getD ""

end DocSite.Toml
