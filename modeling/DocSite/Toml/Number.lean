import DocSite.Text.Hexadecimal

/-!
# Numbers

Integers have 64 bits and may be written in four bases.  Of a number with a fraction or an exponent
only the form matters here, and that it is not too large.
-/

namespace DocSite.Toml

/-- The number that some digits write, in a base, with underscores between digits. -/
def digits? (base : Nat) : Bool → Nat → List Char → Option Nat
  | afterDigit, n, [] => if afterDigit then some n else none
  | afterDigit, n, c :: cs =>
    if c = '_' then if afterDigit then digits? base false n cs else none
    else
      match Text.hexDigit? c with
      | some d => if d < base then digits? base true (base * n + d) cs else none
      | none => none

/-- A number in base ten; only zero itself begins with a zero. -/
def decimal? (cs : List Char) : Option Nat :=
  if cs.head? = some '0' ∧ cs ≠ ['0'] then none else digits? 10 false 0 cs

namespace Integer

/-- The number that a word writes: in base ten with or without a sign, or in another base. -/
def ofChars? (cs : List Char) : Option Int :=
  match cs with
  | '0' :: 'x' :: ds => (digits? 16 false 0 ds).map Int.ofNat
  | '0' :: 'o' :: ds => (digits? 8 false 0 ds).map Int.ofNat
  | '0' :: 'b' :: ds => (digits? 2 false 0 ds).map Int.ofNat
  | '+' :: ds => (decimal? ds).map Int.ofNat
  | '-' :: ds => (decimal? ds).map fun n => -Int.ofNat n
  | ds => (decimal? ds).map Int.ofNat

/-- Whether a number has 64 bits. -/
def inRange (n : Int) : Bool := Int64.minValue.toInt ≤ n && n ≤ Int64.maxValue.toInt

end Integer

namespace Fractional

/-- A number without its sign: `significand` times ten to the power `exponent`. -/
structure Magnitude where
  significand : Nat
  exponent : Int

/-- The least number that is nearer to the power of two after the largest double than to that
double, or as near to both. -/
def tooLarge : Nat := Nat.pow 2 1024 - Nat.pow 2 970

/-- Whether a number is too large for a double.  Far from the limit the number of digits decides. -/
def Magnitude.overflows (m : Magnitude) : Bool :=
  let digits : Int := (Nat.toDigits 10 m.significand).length
  if m.significand = 0 || digits + m.exponent ≤ 308 then false
  else if 309 < digits + m.exponent then true
  else tooLarge * Nat.pow 10 (-m.exponent).toNat ≤ m.significand * Nat.pow 10 m.exponent.toNat

/-- The exponent that follows the letter for it. -/
def exponent? : List Char → Option Int
  | '+' :: ds => (digits? 10 false 0 ds).map Int.ofNat
  | '-' :: ds => (digits? 10 false 0 ds).map fun n => -Int.ofNat n
  | ds => (digits? 10 false 0 ds).map Int.ofNat

def isExponentMark (c : Char) : Bool := c = 'e' || c = 'E'

/-- A number with a fraction, an exponent, or both.  The fraction has digits on both sides of its
point. -/
def magnitude? (cs : List Char) : Option Magnitude := do
  let digits := cs.takeWhile fun c => !isExponentMark c
  let exponent ←
    match cs.dropWhile fun c => !isExponentMark c with
    | [] => if digits.contains '.' then some 0 else none
    | _ :: ds => exponent? ds
  let whole := digits.takeWhile (· ≠ '.')
  let _ ← decimal? whole
  match digits.dropWhile (· ≠ '.') with
  | [] => return ⟨← digits? 10 false 0 whole, exponent⟩
  | _ :: fraction =>
    let _ ← digits? 10 false 0 fraction
    let places := (fraction.filter (· ≠ '_')).length
    return ⟨← digits? 10 false 0 (whole ++ fraction), exponent - places⟩

/-- Whether a word writes a number of this kind.  The words for infinity and for no number count.
A positive number that is too large is refused; a negative one is not. -/
def isWord (word : List Char) : Bool :=
  let unsigned (cs : List Char) (negative : Bool) : Bool :=
    cs = "inf".toList || cs = "nan".toList ||
      match magnitude? cs with
      | some m => negative || !m.overflows
      | none => false
  match word with
  | '+' :: cs => unsigned cs false
  | '-' :: cs => unsigned cs true
  | cs => unsigned cs false

end Fractional

end DocSite.Toml
