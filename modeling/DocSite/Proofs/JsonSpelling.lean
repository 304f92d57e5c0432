import Mathlib.Data.List.Chain
import Mathlib.Data.List.TakeWhile
import DocSite.Json.Reader

/-!
# The spellings of JSON

A row of tokens has many texts: there may be white space around every token, a character of a string
can be written as it is, by a short escape or by its number, and the digits of the number in either
case.  `Spelling` is the relation between tokens and their texts, with the rules of JSON and without
a machine.

The main result is `tokens_of_spelling`: every text of a row of tokens is cut into these tokens.
Brackets and strings end by themselves.  A word or a number ends where another character follows, so
it must not be followed by a second one; in the texts of values it never is, since no two scalars
are neighbours in them.
-/

namespace DocSite.Json

/-! ## Numbers -/

/-- A nonempty row of digits. -/
def Digits (ds : List Char) : Prop := ds ≠ [] ∧ ∀ d ∈ ds, d.isDigit = true

/-- The exponent of a number, or nothing. -/
inductive IsExponent : List Char → Prop
  | none : IsExponent []
  | some {e : Char} {sign ds : List Char} (he : e = 'e' ∨ e = 'E')
      (hsign : sign = [] ∨ sign = ['+'] ∨ sign = ['-']) (hds : Digits ds) :
      IsExponent (e :: (sign ++ ds))

/-- The fraction of a number, or nothing. -/
inductive IsFraction : List Char → Prop
  | none : IsFraction []
  | some {ds : List Char} (hds : Digits ds) : IsFraction ('.' :: ds)

/-- The integer that a number begins with. -/
inductive IsInteger : List Char → Prop
  | zero : IsInteger ['0']
  | digits {d : Char} {ds : List Char} (hd : d ≠ '0') (hds : Digits (d :: ds)) :
      IsInteger (d :: ds)

/-- A number that is no plain natural number: it has a sign, a fraction or an exponent. -/
inductive IsNumeral : List Char → Prop
  | signed {int frac exp : List Char} (hint : IsInteger int) (hfrac : IsFraction frac)
      (hexp : IsExponent exp) : IsNumeral ('-' :: (int ++ (frac ++ exp)))
  | unsigned {int frac exp : List Char} (hint : IsInteger int) (hfrac : IsFraction frac)
      (hexp : IsExponent exp) (h : frac ++ exp ≠ []) : IsNumeral (int ++ (frac ++ exp))

namespace Number

theorem digits_append {ds rest : List Char} (hds : Digits ds)
    (hrest : ∀ c ∈ rest.head?, c.isDigit = false) : digits (ds ++ rest) = some rest := by
  obtain ⟨hne, hall⟩ := hds
  obtain ⟨d, ds, rfl⟩ := List.exists_cons_of_ne_nil hne
  rw [List.forall_mem_cons] at hall
  have hstop : rest.dropWhile Char.isDigit = rest := by
    cases rest with
    | nil => rfl
    | cons c cs => exact List.dropWhile_cons_of_neg (by simp [hrest c rfl])
  rw [List.cons_append, digits, if_pos hall.1, List.dropWhile_append_of_pos hall.2, hstop]

theorem digits_of_digits {ds : List Char} (hds : Digits ds) : digits ds = some [] := by
  have hdrop : digits (ds ++ []) = some [] := digits_append hds nofun
  rwa [List.append_nil] at hdrop

theorem exponent_of_isExponent {cs : List Char} (h : IsExponent cs) : exponent cs = true := by
  cases h with
  | none => rfl
  | some he hsign hds =>
    have hdigits := digits_of_digits hds
    unfold exponent
    rcases hsign with rfl | rfl | rfl
    · -- without a sign the digits come first, and no digit is a sign
      rw [List.nil_append]
      simp only [if_pos he]
      split
      · exact absurd (hds.2 '+' List.mem_cons_self) (by decide)
      · exact absurd (hds.2 '-' List.mem_cons_self) (by decide)
      · simp [hdigits]
    · simp [if_pos he, hdigits]
    · simp [if_pos he, hdigits]

theorem head_of_isExponent {cs : List Char} (h : IsExponent cs) :
    ∀ c ∈ cs.head?, c.isDigit = false ∧ c ≠ '.' := by
  cases h with
  | none => simp
  | some he hsign hds =>
    rintro _ ⟨⟩
    rcases he with rfl | rfl <;> decide

theorem head_of_isFraction {frac exp : List Char} (hfrac : IsFraction frac)
    (hexp : IsExponent exp) : ∀ c ∈ (frac ++ exp).head?, c.isDigit = false := by
  cases hfrac with
  | none => exact fun c hc => (head_of_isExponent hexp c hc).1
  | some hds =>
    rintro _ ⟨⟩
    decide

theorem fraction_of_isFraction {frac exp : List Char} (hfrac : IsFraction frac)
    (hexp : IsExponent exp) : fraction (frac ++ exp) = true := by
  have hhead := head_of_isExponent hexp
  have hexponent := exponent_of_isExponent hexp
  cases hfrac with
  | none =>
    rw [List.nil_append]
    unfold fraction
    split
    · exact absurd rfl (hhead '.' rfl).2
    · exact hexponent
  | some hds =>
    have hdigits := digits_append hds fun c hc => (hhead c hc).1
    simp [fraction, hdigits, hexponent]

theorem unsigned_of_isInteger {int rest : List Char} (hint : IsInteger int)
    (hrest : ∀ c ∈ rest.head?, c.isDigit = false) (hfraction : fraction rest = true) :
    unsigned (int ++ rest) = true := by
  cases hint with
  | zero => exact hfraction
  | digits hd hds =>
    have hdigits := digits_append hds hrest
    unfold unsigned
    split
    · next heq => exact absurd (List.cons.inj heq).1 hd
    · rw [hdigits]
      exact hfraction

theorem digits_of_isInteger {int : List Char} (h : IsInteger int) : Digits int := by
  cases h with
  | zero => exact ⟨by decide, List.forall_mem_singleton.mpr rfl⟩
  | digits hd hds => exact hds

/-- A spelling that begins with a digit has no sign. -/
theorem ofSpelling_of_digit {cs : List Char} (hhead : ∀ c ∈ cs.head?, c.isDigit = true)
    (h : unsigned cs = true) :
    ofSpelling cs =
      if cs.all Char.isDigit then some (.natural (value cs))
      else some (.numeral (String.ofList cs)) := by
  unfold ofSpelling
  split
  · exact absurd (hhead '-' rfl) (by decide)
  · rw [if_pos h]

theorem isDigit_head_of_isInteger {int : List Char} (h : IsInteger int) (rest : List Char) :
    ∀ c ∈ (int ++ rest).head?, c.isDigit = true := by
  obtain ⟨hne, hall⟩ := digits_of_isInteger h
  obtain ⟨d, ds, rfl⟩ := List.exists_cons_of_ne_nil hne
  rintro _ ⟨⟩
  exact hall d List.mem_cons_self

/-- A number that is no plain natural number keeps its spelling. -/
theorem ofSpelling_of_isNumeral {cs : List Char} (h : IsNumeral cs) :
    ofSpelling cs = some (.numeral (String.ofList cs)) := by
  cases h with
  | signed hint hfrac hexp =>
    have hunsigned := unsigned_of_isInteger hint (head_of_isFraction hfrac hexp)
      (fraction_of_isFraction hfrac hexp)
    simp [ofSpelling, hunsigned]
  | @unsigned int frac exp hint hfrac hexp hne =>
    have hhead := head_of_isFraction hfrac hexp
    have hunsigned := unsigned_of_isInteger hint hhead (fraction_of_isFraction hfrac hexp)
    have hall : (int ++ (frac ++ exp)).all Char.isDigit = false := by
      obtain ⟨c, cs, hcs⟩ := List.exists_cons_of_ne_nil hne
      rw [hcs] at hhead ⊢
      simp [hhead c rfl]
    rw [ofSpelling_of_digit (isDigit_head_of_isInteger hint _) hunsigned, hall]
    rfl

/-! ### Natural numbers -/

theorem value_toDigits (n : Nat) : value (Nat.toDigits 10 n) = n :=
  Nat.ofDigitChars_toDigits (by decide) (by decide)

theorem isDigit_of_mem_toDigits {n : Nat} {c : Char} (h : c ∈ Nat.toDigits 10 n) :
    c.isDigit = true :=
  Nat.isDigit_of_mem_toDigits (by decide) (by decide) h

/-- Only zero is written with a zero in front. -/
theorem head?_toDigits_ne_zero {n : Nat} (h : 0 < n) : (Nat.toDigits 10 n).head? ≠ some '0' := by
  induction n using Nat.strongRecOn with
  | ind n ih =>
    by_cases hn : n < 10
    · have hne : n ≠ 0 := by omega
      simpa [Nat.toDigits_of_lt_base hn] using hne
    · have hlt : n / 10 < n := Nat.div_lt_self h (by decide)
      have hrest := ih (n / 10) hlt (by omega)
      have hne : Nat.toDigits 10 (n / 10) ≠ [] := Nat.toDigits_ne_nil
      rw [Nat.toDigits_of_base_le (by decide) (by omega), List.head?_append]
      rwa [List.head?_eq_some_head hne] at hrest ⊢

theorem isInteger_toDigits (n : Nat) : IsInteger (Nat.toDigits 10 n) := by
  rcases Nat.eq_zero_or_pos n with rfl | hn
  · exact .zero
  · have hhead := head?_toDigits_ne_zero hn
    have hdigits : Digits (Nat.toDigits 10 n) :=
      ⟨Nat.toDigits_ne_nil, fun _ => isDigit_of_mem_toDigits⟩
    cases hcs : Nat.toDigits 10 n with
    | nil => exact absurd hcs Nat.toDigits_ne_nil
    | cons c cs =>
      rw [hcs] at hhead hdigits
      exact .digits (fun hc => hhead (by rw [hc]; rfl)) hdigits

/-- The spelling of a natural number has that number as its value. -/
theorem ofSpelling_toDigits (n : Nat) :
    ofSpelling (Nat.toDigits 10 n) = some (.natural n) := by
  have hint := isInteger_toDigits n
  have hunsigned : unsigned (Nat.toDigits 10 n ++ []) = true := unsigned_of_isInteger hint nofun rfl
  have hhead := isDigit_head_of_isInteger hint []
  rw [List.append_nil] at hunsigned hhead
  have hall : (Nat.toDigits 10 n).all Char.isDigit = true :=
    List.all_eq_true.2 (digits_of_isInteger hint).2
  rw [ofSpelling_of_digit hhead hunsigned, if_pos hall, value_toDigits]

end Number

/-! ## Strings -/

/-- The character is a digit of that value, in either case. -/
def IsHexDigit (value : Nat) (c : Char) : Prop :=
  "0123456789abcdef".toList[value]? = some c ∨ "0123456789ABCDEF".toList[value]? = some c

theorem hexDigit?_of_isHexDigit {value : Nat} {c : Char} (h : IsHexDigit value c) :
    Text.hexDigit? c = some value := by
  have hlower : ∀ i < 16, Text.hexDigit? ("0123456789abcdef".toList.getD i ' ') = some i := by
    decide
  have hupper : ∀ i < 16, Text.hexDigit? ("0123456789ABCDEF".toList.getD i ' ') = some i := by
    decide
  rcases h with h | h
  · obtain ⟨hlt, -⟩ := List.getElem?_eq_some_iff.mp h
    have hvalue := hlower value hlt
    rwa [List.getD_eq_getElem?_getD, h] at hvalue
  · obtain ⟨hlt, -⟩ := List.getElem?_eq_some_iff.mp h
    have hvalue := hupper value hlt
    rwa [List.getD_eq_getElem?_getD, h] at hvalue

/-- The four digits of a number. -/
inductive FourDigits (n : Nat) : List Char → Prop
  | mk {a b c d : Char} (ha : IsHexDigit (n / 4096) a) (hb : IsHexDigit (n / 256 % 16) b)
      (hc : IsHexDigit (n / 16 % 16) c) (hd : IsHexDigit (n % 16) d) : FourDigits n [a, b, c, d]

/-- The short escapes: what follows the backslash, and the character meant. -/
def shortEscapes : List (Char × Char) :=
  [('"', '"'), ('\\', '\\'), ('/', '/'), ('b', '\x08'), ('f', '\x0c'), ('n', '\n'), ('r', '\r'),
    ('t', '\t')]

/-- The units of a character outside the first plane. -/
def highUnit (c : Char) : Nat := 0xD800 + (c.toNat - 0x10000) / 0x400

@[inherit_doc highUnit]
def lowUnit (c : Char) : Nat := 0xDC00 + (c.toNat - 0x10000) % 0x400

/-- The ways to write a character in a string: as it is, by a short escape, by its number, or by the
numbers of its two units. -/
inductive IsCharacter (c : Char) : List Char → Prop
  | raw (hquote : c ≠ '"') (hback : c ≠ '\\') (hcontrol : 0x20 ≤ c.toNat) : IsCharacter c [c]
  | short {e : Char} (he : (e, c) ∈ shortEscapes) : IsCharacter c ['\\', e]
  | number {ds : List Char} (hds : FourDigits c.toNat ds) : IsCharacter c ('\\' :: 'u' :: ds)
  | pair {hs ls : List Char} (hc : 0x10000 ≤ c.toNat) (hhs : FourDigits (highUnit c) hs)
      (hls : FourDigits (lowUnit c) ls) :
      IsCharacter c ('\\' :: 'u' :: (hs ++ '\\' :: 'u' :: ls))

/-- A part of a string: a character, or one half of a pair without the other. -/
inductive Segment where
  | char (c : Char)
  | lone (value : Nat)

/-- Whether two parts can stand side by side without becoming one: two halves must not make a
pair. -/
def Segment.Apart : Segment → Segment → Prop
  | lone u, lone v => ¬ (Piece.isHigh u = true ∧ Piece.isLow v = true)
  | _, _ => True

inductive IsSegment : Segment → List Char → Prop
  | char {c : Char} {cs : List Char} (h : IsCharacter c cs) : IsSegment (.char c) cs
  | lone {u : Nat} {ds : List Char} (hu : Piece.isHigh u = true ∨ Piece.isLow u = true)
      (hds : FourDigits u ds) : IsSegment (.lone u) ('\\' :: 'u' :: ds)

/-- What stands between the quotes of a string with these parts. -/
inductive AreSegments : List Segment → List Char → Prop
  | nil : AreSegments [] []
  | cons {s : Segment} {ss : List Segment} {cs ds : List Char} (h : IsSegment s cs)
      (hs : AreSegments ss ds) : AreSegments (s :: ss) (cs ++ ds)

/-- The characters of a string with these parts; there are none if one part is half a pair. -/
def charsOf? : List Segment → Option (List Char)
  | [] => some []
  | .char c :: ss => (charsOf? ss).map (c :: ·)
  | .lone _ :: _ => none

/-- Adding a part at the end of a string. -/
theorem charsOf?_concat_char (ss : List Segment) (c : Char) :
    charsOf? (ss ++ [.char c]) = (charsOf? ss).map (· ++ [c]) := by
  induction ss with
  | nil => rfl
  | cons s ss ih =>
    cases s with
    | char d =>
      rw [List.cons_append, charsOf?, charsOf?, ih]
      cases charsOf? ss <;> rfl
    | lone u => rfl

@[inherit_doc charsOf?_concat_char]
theorem charsOf?_concat_lone (ss : List Segment) (u : Nat) :
    charsOf? (ss ++ [.lone u]) = none := by
  induction ss with
  | nil => rfl
  | cons s ss ih =>
    cases s with
    | char d => rw [List.cons_append, charsOf?, ih, Option.map_none]
    | lone v => rfl

/-! ### What the machine makes of a string -/

namespace Piece

/-- The pieces that the machine keeps for a part of a string, last one first. -/
inductive Says : List Piece → Segment → Prop
  | char (c : Char) : Says [char c] (.char c)
  | number (c : Char) (hc : c.toNat < 0x10000) : Says [unit c.toNat] (.char c)
  | pair (c : Char) (hc : 0x10000 ≤ c.toNat) : Says [unit (lowUnit c), unit (highUnit c)] (.char c)
  | lone {u : Nat} (hu : isHigh u = true ∨ isLow u = true) : Says [unit u] (.lone u)

/-- The pieces of a string, and its parts, both last one first. -/
inductive SayAll : List Piece → List Segment → Prop
  | nil : SayAll [] []
  | cons {p ps : List Piece} {s : Segment} {ss : List Segment} (h : Says p s)
      (hs : SayAll ps ss) : SayAll (p ++ ps) (s :: ss)

/-- A character is no half of a pair. -/
theorem not_surrogate (c : Char) : isLow c.toNat = false ∧ isHigh c.toNat = false := by
  have hvalid : c.toNat < 0xD800 ∨ 0xDFFF < c.toNat ∧ c.toNat < 0x110000 := c.valid
  constructor
  · simp only [isLow, Bool.and_eq_false_iff, decide_eq_false_iff_not]
    omega
  · simp only [isHigh, Bool.and_eq_false_iff, decide_eq_false_iff_not]
    omega

theorem units_of_pair {c : Char} (hc : 0x10000 ≤ c.toNat) :
    isLow (lowUnit c) = true ∧ isHigh (lowUnit c) = false ∧ isHigh (highUnit c) = true ∧
      pair (highUnit c) (lowUnit c) = c := by
  have hvalid : c.toNat < 0xD800 ∨ 0xDFFF < c.toNat ∧ c.toNat < 0x110000 := c.valid
  have hlow : 0xDC00 ≤ lowUnit c ∧ lowUnit c < 0xE000 := by
    unfold lowUnit
    omega
  have hhigh : 0xD800 ≤ highUnit c ∧ highUnit c < 0xDC00 := by
    unfold highUnit
    omega
  have hvalue : 0x10000 + (highUnit c - 0xD800) * 0x400 + (lowUnit c - 0xDC00) = c.toNat := by
    unfold highUnit lowUnit
    omega
  refine ⟨by simp [isLow, hlow], ?_, by simp [isHigh, hhigh], ?_⟩
  · simp only [isHigh, Bool.and_eq_false_iff, decide_eq_false_iff_not]
    omega
  · rw [pair, hvalue, Char.ofNat_toNat]

/-- A unit that is no half of a pair is a character, whatever stands before it. -/
theorem chars_unit {v : Nat} (hlow : isLow v = false) (hhigh : isHigh v = false)
    (ps : List Piece) (after : List Char) :
    chars (unit v :: ps) after = chars ps (Char.ofNat v :: after) := by
  match ps with
  | [] => simp [chars, hlow, hhigh]
  | char _ :: _ => simp [chars, hlow, hhigh]
  | unit _ :: _ => simp [chars, hlow, hhigh]

/-- The pieces of a character say that character, whatever stands before them. -/
theorem Says.chars_append {p : List Piece} {c : Char} (h : Says p (.char c)) (ps : List Piece)
    (after : List Char) : chars (p ++ ps) after = chars ps (c :: after) := by
  cases h with
  | char =>
    change chars (Piece.char c :: ps) after = _
    rw [chars]
  | number _ hc =>
    obtain ⟨hlow, hhigh⟩ := not_surrogate c
    change chars (unit c.toNat :: ps) after = _
    rw [chars_unit hlow hhigh, Char.ofNat_toNat]
  | pair _ hc =>
    obtain ⟨hlow, -, hhigh, hpair⟩ := units_of_pair hc
    change chars (unit (lowUnit c) :: unit (highUnit c) :: ps) after = _
    rw [chars, if_pos hlow, if_pos hhigh, hpair]

/-- The pieces of a string do not end with the first half of a pair, unless its last part is one. -/
theorem SayAll.head_not_high {ps : List Piece} {ss : List Segment} (h : SayAll ps ss)
    (hss : ∀ u, ss.head? = some (.lone u) → isHigh u = false) :
    ∀ u, ps.head? = some (unit u) → isHigh u = false := by
  intro u hu
  cases h with
  | nil => cases hu
  | cons hpieces hrest =>
    cases hpieces with
    | char c => cases hu
    | number c hc =>
      rw [← unit.inj (Option.some.inj hu)]
      exact (not_surrogate c).2
    | pair c hc =>
      rw [← unit.inj (Option.some.inj hu)]
      exact (units_of_pair hc).2.1
    | lone hv =>
      rw [← unit.inj (Option.some.inj hu)]
      exact hss _ rfl

/-- Half a pair spoils the string. -/
theorem chars_lone {u : Nat} {ps : List Piece} (hu : isHigh u = true ∨ isLow u = true)
    (hps : isLow u = true → ∀ v, ps.head? = some (unit v) → isHigh v = false)
    (after : List Char) : chars (unit u :: ps) after = none := by
  have hor : (isLow u || isHigh u) = true := by
    rcases hu with h | h <;> simp [h]
  match ps, hps with
  | [], _ => exact if_pos hor
  | char _ :: _, _ => exact if_pos hor
  | unit v :: _, hps =>
    rw [chars]
    by_cases hlow : isLow u = true
    · rw [if_pos hlow, hps hlow v rfl, if_neg (by decide)]
    · rw [if_neg hlow, if_pos (hu.resolve_right hlow)]

/-- The pieces say what the parts say. -/
theorem SayAll.chars {ps : List Piece} {ss : List Segment} (h : SayAll ps ss)
    (happart : ss.reverse.IsChain Segment.Apart) (after : List Char) :
    chars ps after = (charsOf? ss.reverse).map (· ++ after) := by
  induction h generalizing after with
  | nil => rfl
  | @cons p ps s ss hpieces hrest ih =>
    rw [List.reverse_cons] at happart ⊢
    obtain ⟨hbefore, -, hborder⟩ := List.isChain_append.mp happart
    cases s with
    | char c =>
      rw [hpieces.chars_append, ih hbefore, charsOf?_concat_char]
      cases charsOf? ss.reverse <;> simp
    | lone u =>
      cases hpieces with
      | lone hu =>
        have hhead : isLow u = true → ∀ v, ps.head? = some (unit v) → isHigh v = false := by
          intro hlow
          refine hrest.head_not_high fun v hv => ?_
          have hlast : Segment.lone v ∈ ss.reverse.getLast? := by
            rw [List.getLast?_reverse, hv]
            rfl
          have hsplit : ¬ (isHigh v = true ∧ isLow u = true) := hborder _ hlast _ rfl
          exact Bool.eq_false_iff.mpr fun hhigh => hsplit ⟨hhigh, hlow⟩
        change Piece.chars (unit u :: ps) after = _
        rw [chars_lone hu hhead, charsOf?_concat_lone, Option.map_none]

end Piece

/-! ## Tokens -/

/-- White space. -/
def Blank (cs : List Char) : Prop := ∀ c ∈ cs, c ∈ [' ', '\n', '\r', '\t']

inductive IsScalar : Scalar → List Char → Prop
  | null : IsScalar .null "null".toList
  | true : IsScalar (.bool true) "true".toList
  | false : IsScalar (.bool false) "false".toList
  | natural (n : Nat) : IsScalar (.natural n) (Nat.toDigits 10 n)
  | numeral {cs : List Char} (h : IsNumeral cs) : IsScalar (.numeral (String.ofList cs)) cs
  | string {ss : List Segment} {cs : List Char} (h : AreSegments ss cs)
      (hapart : ss.IsChain Segment.Apart) :
      IsScalar (.string ((charsOf? ss).map String.ofList)) ('"' :: (cs ++ ['"']))

/-- The character of a bracket or a divider. -/
def Token.mark? : Token → Option Char
  | openArray => some '['
  | closeArray => some ']'
  | openObject => some '\x7b'
  | closeObject => some '\x7d'
  | comma => some ','
  | colon => some ':'
  | scalar _ => none

inductive IsToken : Token → List Char → Prop
  | mark {t : Token} {c : Char} (h : t.mark? = some c) : IsToken t [c]
  | scalar {s : Scalar} {cs : List Char} (h : IsScalar s cs) : IsToken (.scalar s) cs

/-- The text is these tokens, with white space anywhere around them. -/
inductive Spelling : List Token → List Char → Prop
  | blank {bs : List Char} (h : Blank bs) : Spelling [] bs
  | token {t : Token} {ts : List Token} {bs cs rest : List Char} (hbs : Blank bs)
      (h : IsToken t cs) (hs : Spelling ts rest) : Spelling (t :: ts) (bs ++ (cs ++ rest))

/-- Two tokens can be neighbours unless both are scalars. -/
def Token.Apart (a b : Token) : Prop := a.mark? = none → b.mark? ≠ none

namespace Spelling

theorem blank_append {ts : List Token} {bs cs : List Char} (hbs : Blank bs) (h : Spelling ts cs) :
    Spelling ts (bs ++ cs) := by
  cases h with
  | blank hcs => exact .blank (List.forall_mem_append.mpr ⟨hbs, hcs⟩)
  | token hcs ht hs =>
    rw [← List.append_assoc]
    exact .token (List.forall_mem_append.mpr ⟨hbs, hcs⟩) ht hs

theorem append {ts us : List Token} {cs ds : List Char} (h : Spelling ts cs)
    (hd : Spelling us ds) : Spelling (ts ++ us) (cs ++ ds) := by
  induction h with
  | blank hbs => exact hd.blank_append hbs
  | token hbs ht _ ih =>
    rw [List.append_assoc, List.append_assoc]
    exact .token hbs ht ih

theorem cons {t : Token} {ts : List Token} {cs rest : List Char} (ht : IsToken t cs)
    (h : Spelling ts rest) : Spelling (t :: ts) (cs ++ rest) := by
  have hnil : Blank [] := nofun
  exact .token hnil ht h

theorem mark {t : Token} {ts : List Token} {c : Char} {rest : List Char} (ht : t.mark? = some c)
    (h : Spelling ts rest) : Spelling (t :: ts) (c :: rest) :=
  .cons (.mark ht) h

end Spelling

/-! ## The machine -/

namespace Lexer

theorem run_cons {m m' : Lexer} {c : Char} (h : m.next c = some m') (cs : List Char) :
    m.run (c :: cs) = m'.run cs := by
  simp [run, h]

theorem run_append {m m' : Lexer} {cs : List Char} (h : m.run cs = some m') (ds : List Char) :
    m.run (cs ++ ds) = m'.run ds := by
  induction cs generalizing m with
  | nil => rw [List.nil_append, Option.some.inj h]
  | cons c cs ih =>
    cases hc : m.next c with
    | none => simp [run, hc] at h
    | some m'' =>
      rw [run_cons hc] at h
      rw [List.cons_append, run_cons hc, ih h]

/-! ### Strings -/

theorem run_unit {n : Nat} {ds : List Char} (h : FourDigits n ds) (ps : List Piece)
    (done : List Token) :
    run ⟨.string ps, done⟩ ('\\' :: 'u' :: ds) = some ⟨.string (.unit n :: ps), done⟩ := by
  cases h with
  | mk ha hb hc hd =>
    have hvalue : 16 * (16 * (16 * (n / 4096) + n / 256 % 16) + n / 16 % 16) + n % 16 = n := by
      omega
    simp [run, next, hexDigit?_of_isHexDigit ha, hexDigit?_of_isHexDigit hb,
      hexDigit?_of_isHexDigit hc, hexDigit?_of_isHexDigit hd, hvalue]

/-- What is spelled with four digits is below `0x10000`. -/
theorem lt_of_fourDigits {n : Nat} {ds : List Char} (h : FourDigits n ds) : n < 0x10000 := by
  cases h with
  | mk ha hb hc hd =>
    have hlt : n / 4096 < 16 := by
      rcases ha with ha | ha
      · exact (List.getElem?_eq_some_iff.mp ha).1
      · exact (List.getElem?_eq_some_iff.mp ha).1
    omega

/-- A part of a string is taken for its pieces. -/
theorem exists_run_segment {s : Segment} {cs : List Char} (h : IsSegment s cs) :
    ∃ p, Piece.Says p s ∧
      ∀ ps done, run ⟨.string ps, done⟩ cs = some ⟨.string (p ++ ps), done⟩ := by
  cases h with
  | lone hu hds => exact ⟨_, .lone hu, fun ps done => run_unit hds ps done⟩
  | @char c cs h =>
    cases h with
    | raw hquote hback hcontrol =>
      have hprinted : ¬ c.toNat < 0x20 := Nat.not_lt.2 hcontrol
      exact ⟨_, .char c, fun ps done => by simp [run, next, hquote, hback, hprinted]⟩
    | @short e he =>
      have hescapes : ∀ p ∈ shortEscapes, p.1 ≠ 'u' ∧ escaped? p.1 = some p.2 := by decide
      obtain ⟨hu, hescaped⟩ := hescapes (e, c) he
      exact ⟨_, .char c, fun ps done => by simp [run, next, hu, hescaped]⟩
    | number hds =>
      exact ⟨_, .number c (lt_of_fourDigits hds), fun ps done => run_unit hds ps done⟩
    | @pair hs ls hc hhs hls =>
      refine ⟨_, .pair c hc, fun ps done => ?_⟩
      have hhigh := run_unit hhs ps done
      have hlow := run_unit hls (.unit (highUnit c) :: ps) done
      have hboth := run_append hhigh ('\\' :: 'u' :: ls)
      rw [List.cons_append, List.cons_append] at hboth
      exact hboth.trans hlow

theorem exists_run_segments {ss : List Segment} {cs : List Char} (h : AreSegments ss cs)
    {ps : List Piece} {rs : List Segment} (hps : Piece.SayAll ps rs) (done : List Token) :
    ∃ qs, Piece.SayAll qs (ss.reverse ++ rs) ∧
      run ⟨.string ps, done⟩ cs = some ⟨.string qs, done⟩ := by
  induction h generalizing ps rs with
  | nil => exact ⟨ps, hps, rfl⟩
  | @cons s ss cs ds hs _ ih =>
    obtain ⟨p, hp, hone⟩ := exists_run_segment hs
    obtain ⟨qs, hqs, hall⟩ := ih (.cons hp hps)
    refine ⟨qs, ?_, ?_⟩
    · rw [List.reverse_cons, List.append_assoc]
      exact hqs
    · rw [run_append (hone ps done), hall]

/-- A string is read as one token. -/
theorem run_string {ss : List Segment} {cs : List Char} (h : AreSegments ss cs)
    (hapart : ss.IsChain Segment.Apart) (done : List Token) :
    run ⟨.waiting, done⟩ ('"' :: (cs ++ ['"'])) =
      some ⟨.waiting, .scalar (.string ((charsOf? ss).map String.ofList)) :: done⟩ := by
  obtain ⟨qs, hqs, hall⟩ := exists_run_segments h .nil done
  rw [List.append_nil] at hqs
  have hchars := hqs.chars (by rwa [List.reverse_reverse]) []
  have htext : Piece.text qs = (charsOf? ss).map String.ofList := by
    rw [Piece.text, hchars, List.reverse_reverse]
    cases charsOf? ss <;> simp
  have hopen : next ⟨.waiting, done⟩ '"' = some ⟨.string [], done⟩ := rfl
  rw [run_cons hopen, run_append hall, ← htext]
  rfl

/-! ### Words and numbers -/

/-- Whether a text may follow a word or a number: its first character belongs to neither. -/
def Parted (text : List Char) : Prop :=
  ∀ c ∈ text.head?, c.isLower = false ∧ isNumeric c = false

/-- A machine inside a word or a number behaves, when that ends, as if it had been waiting. -/
structure Settles (m : Lexer) (done : List Token) : Prop where
  finish : m.finish = some done.reverse
  next : ∀ c, c.isLower = false → isNumeric c = false → m.next c = begin done c

theorem settles_waiting (done : List Token) : Settles ⟨.waiting, done⟩ done :=
  ⟨rfl, fun _ _ _ => rfl⟩

theorem settles_word {letters : List Char} {s : Scalar} (h : wordScalar? letters = some s)
    (done : List Token) : Settles ⟨.word letters, done⟩ (.scalar s :: done) where
  finish := by simp [Lexer.finish, h]
  next c hlower _ := by simp [Lexer.next, hlower, h]

theorem settles_number {chars : List Char} {s : Scalar}
    (h : Number.ofSpelling chars.reverse = some s) (done : List Token) :
    Settles ⟨.number chars, done⟩ (.scalar s :: done) where
  finish := by simp [Lexer.finish, h]
  next c _ hnumeric := by simp [Lexer.next, hnumeric, h]

theorem begin_digit {c : Char} (h : c.isDigit = true) (done : List Token) :
    begin done c = some ⟨.number [c], done⟩ := by
  have hne (d : Char) (hd : d.isDigit = false) : c ≠ d := by
    rintro rfl
    exact absurd h (by rw [hd]; decide)
  simp [begin, isBlank, h, hne]

theorem run_numeric {cs : List Char} (h : ∀ c ∈ cs, isNumeric c = true) (acc : List Char)
    (done : List Token) :
    run ⟨.number acc, done⟩ cs = some ⟨.number (cs.reverse ++ acc), done⟩ := by
  induction cs generalizing acc with
  | nil => rfl
  | cons c cs ih =>
    have hnext : next ⟨.number acc, done⟩ c = some ⟨.number (c :: acc), done⟩ := by
      simp [next, h c List.mem_cons_self]
    rw [run_cons hnext, ih fun d hd => h d (List.mem_cons_of_mem c hd)]
    simp

/-- A number is read as one token once something follows that is no part of it. -/
theorem exists_run_number {cs : List Char} {s : Scalar} (h : ∀ c ∈ cs, isNumeric c = true)
    (hs : Number.ofSpelling cs = some s) (done : List Token)
    (hbegin : ∃ c ds, cs = c :: ds ∧ begin done c = some ⟨.number [c], done⟩) :
    ∃ m, run ⟨.waiting, done⟩ cs = some m ∧ Settles m (.scalar s :: done) := by
  obtain ⟨c, ds, rfl, hfirst⟩ := hbegin
  have hnext : next ⟨.waiting, done⟩ c = some ⟨.number [c], done⟩ := hfirst
  refine ⟨⟨.number (ds.reverse ++ [c]), done⟩, ?_, settles_number ?_ done⟩
  · rw [run_cons hnext, run_numeric fun d hd => h d (List.mem_cons_of_mem c hd)]
  · simpa using hs

theorem isNumeric_of_isDigit {c : Char} (h : c.isDigit = true) : isNumeric c = true := by
  simp [isNumeric, h]

theorem isNumeric_of_isExponent {cs : List Char} (h : IsExponent cs) :
    ∀ c ∈ cs, isNumeric c = true := by
  cases h with
  | none => nofun
  | some he hsign hds =>
    rw [List.forall_mem_cons, List.forall_mem_append]
    refine ⟨?_, ?_, fun c hc => isNumeric_of_isDigit (hds.2 c hc)⟩
    · rcases he with rfl | rfl <;> decide
    · rcases hsign with rfl | rfl | rfl
      · nofun
      · exact List.forall_mem_singleton.mpr rfl
      · exact List.forall_mem_singleton.mpr rfl

theorem isNumeric_of_isFraction {cs : List Char} (h : IsFraction cs) :
    ∀ c ∈ cs, isNumeric c = true := by
  cases h with
  | none => nofun
  | some hds =>
    rw [List.forall_mem_cons]
    exact ⟨by decide, fun c hc => isNumeric_of_isDigit (hds.2 c hc)⟩

theorem isNumeric_of_parts {int frac exp : List Char} (hint : IsInteger int)
    (hfrac : IsFraction frac) (hexp : IsExponent exp) :
    ∀ c ∈ int ++ (frac ++ exp), isNumeric c = true := by
  rw [List.forall_mem_append, List.forall_mem_append]
  have hdigits := (Number.digits_of_isInteger hint).2
  exact ⟨fun c hc => isNumeric_of_isDigit (hdigits c hc), isNumeric_of_isFraction hfrac,
    isNumeric_of_isExponent hexp⟩

theorem exists_begin_of_isInteger {int : List Char} (h : IsInteger int) (rest : List Char)
    (done : List Token) :
    ∃ c ds, int ++ rest = c :: ds ∧ begin done c = some ⟨.number [c], done⟩ := by
  obtain ⟨hne, hall⟩ := Number.digits_of_isInteger h
  obtain ⟨d, ds, rfl⟩ := List.exists_cons_of_ne_nil hne
  exact ⟨d, ds ++ rest, rfl, begin_digit (hall d List.mem_cons_self) done⟩

theorem exists_run_numeral {cs : List Char} (h : IsNumeral cs) (done : List Token) :
    ∃ m, run ⟨.waiting, done⟩ cs = some m ∧
      Settles m (.scalar (.numeral (String.ofList cs)) :: done) := by
  have hspelling := Number.ofSpelling_of_isNumeral h
  cases h with
  | signed hint hfrac hexp =>
    have hsign : isNumeric '-' = true := by decide
    refine exists_run_number ?_ hspelling done ⟨'-', _, rfl, rfl⟩
    exact List.forall_mem_cons.mpr ⟨hsign, isNumeric_of_parts hint hfrac hexp⟩
  | unsigned hint hfrac hexp hne =>
    exact exists_run_number (isNumeric_of_parts hint hfrac hexp) hspelling done
      (exists_begin_of_isInteger hint _ done)

/-- A scalar is read as one token once something follows that is no part of it. -/
theorem exists_run_scalar {s : Scalar} {cs : List Char} (h : IsScalar s cs) (done : List Token) :
    ∃ m, run ⟨.waiting, done⟩ cs = some m ∧ Settles m (.scalar s :: done) := by
  cases h with
  | null | true | false => exact ⟨_, rfl, settles_word (by decide) done⟩
  | natural n =>
    have hbegin := exists_begin_of_isInteger (Number.isInteger_toDigits n) [] done
    rw [List.append_nil] at hbegin
    exact exists_run_number (fun c hc => isNumeric_of_isDigit (Number.isDigit_of_mem_toDigits hc))
      (Number.ofSpelling_toDigits n) done hbegin
  | numeral h => exact exists_run_numeral h done
  | string h hapart => exact ⟨_, run_string h hapart done, settles_waiting _⟩

/-! ### Rows of tokens -/

/-- The tokens that a machine gets from the rest of a text. -/
def tokensFrom (m : Lexer) (text : List Char) : Option (List Token) :=
  (m.run text).bind Lexer.finish

theorem tokensFrom_append {m m' : Lexer} {cs : List Char} (h : m.run cs = some m')
    (rest : List Char) : m.tokensFrom (cs ++ rest) = m'.tokensFrom rest := by
  rw [tokensFrom, run_append h, tokensFrom]

theorem Settles.tokensFrom {m : Lexer} {done : List Token} (h : Settles m done)
    {rest : List Char} (hrest : Parted rest) :
    m.tokensFrom rest = Lexer.tokensFrom ⟨.waiting, done⟩ rest := by
  cases rest with
  | nil => exact h.finish
  | cons c cs =>
    obtain ⟨hlower, hnumeric⟩ := hrest c rfl
    have hnext : m.next c = Lexer.next ⟨.waiting, done⟩ c := h.next c hlower hnumeric
    simp [Lexer.tokensFrom, run, hnext]

/-- White space is skipped, and it ends a word or a number. -/
theorem of_mem_blanks {c : Char} (h : c ∈ [' ', '\n', '\r', '\t']) :
    isBlank c = true ∧ c.isLower = false ∧ isNumeric c = false := by
  simp only [List.mem_cons, List.not_mem_nil, or_false] at h
  rcases h with rfl | rfl | rfl | rfl <;> decide

theorem run_blank {bs : List Char} (h : Blank bs) (done : List Token) :
    run ⟨.waiting, done⟩ bs = some ⟨.waiting, done⟩ := by
  induction bs with
  | nil => rfl
  | cons c bs ih =>
    obtain ⟨hc, hbs⟩ := List.forall_mem_cons.mp h
    have hnext : next ⟨.waiting, done⟩ c = some ⟨.waiting, done⟩ := by
      simp [next, begin, (of_mem_blanks hc).1]
    rw [run_cons hnext, ih hbs]

theorem run_mark {t : Token} {c : Char} (h : t.mark? = some c) (done : List Token) :
    run ⟨.waiting, done⟩ [c] = some ⟨.waiting, t :: done⟩ := by
  cases t <;> cases h <;> rfl

/-- Behind a scalar comes white space, a bracket, a divider or nothing. -/
theorem parted_of_spelling {ts : List Token} {cs : List Char} (h : Spelling ts cs)
    (hts : ∀ t ∈ ts.head?, t.mark? ≠ none) : Parted cs := by
  cases h with
  | blank hbs => exact fun c hc => (of_mem_blanks (hbs c (List.mem_of_mem_head? hc))).2
  | @token t ts bs cs rest hbs ht hs =>
    cases bs with
    | cons b bs =>
      rintro _ ⟨⟩
      exact (of_mem_blanks (hbs b List.mem_cons_self)).2
    | nil =>
      cases ht with
      | scalar => exact absurd rfl (hts _ rfl)
      | mark hmark =>
        rintro _ ⟨⟩
        cases t <;> cases hmark <;> decide

/-- Tokens are cut from every text of theirs.  The induction is over the tokens; after a scalar the
machine has settled only when it sees what follows. -/
theorem tokensFrom_of_spelling {ts : List Token} {cs : List Char} (h : Spelling ts cs)
    (hts : ts.IsChain Token.Apart) (done : List Token) :
    tokensFrom ⟨.waiting, done⟩ cs = some (done.reverse ++ ts) := by
  induction h generalizing done with
  | blank hbs =>
    rw [tokensFrom, run_blank hbs, List.append_nil]
    rfl
  | @token t ts bs cs rest hbs ht hs ih =>
    have hrest := ih hts.tail (t :: done)
    rw [List.reverse_cons, List.append_assoc, List.singleton_append] at hrest
    rw [tokensFrom_append (run_blank hbs done)]
    cases ht with
    | mark hmark => rw [tokensFrom_append (run_mark hmark done), hrest]
    | scalar hscalar =>
      have hparted : Parted rest := by
        refine parted_of_spelling hs fun t' ht' => ?_
        cases ts with
        | nil => cases ht'
        | cons t'' ts =>
          cases ht'
          exact (List.isChain_cons_cons.mp hts).1 rfl
      obtain ⟨m, hrun, hm⟩ := exists_run_scalar hscalar done
      rw [tokensFrom_append hrun, hm.tokensFrom hparted, hrest]

end Lexer

/-- Every text of a row of tokens is cut into these tokens, if no two scalars are neighbours. -/
theorem tokens_of_spelling {ts : List Token} {cs : List Char} (h : Spelling ts cs)
    (hts : ts.IsChain Token.Apart) : tokens cs = some ts :=
  Lexer.tokensFrom_of_spelling h hts []

end DocSite.Json
