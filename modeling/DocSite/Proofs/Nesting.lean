import DocSite.Proofs.JsonText

/-!
# How deep a JSON text nests

`deepest` counts brackets in the characters of a text: it knows of strings and of the backslash in
them, and of nothing else of the grammar.  `Json.nesting` is the depth of a value as a tree.  The
main result is that the two agree on printed values, `deepest_print`: a bracket inside a string is
not counted, and every other bracket that is written is one of the tree.
-/

namespace DocSite.Json

/-! ## Counting in a text -/

/-- Where a character of a text stands: outside of strings, in one, or behind a backslash in one. -/
inductive Region where
  | outside
  | string
  | escape
  deriving DecidableEq

/-- A count of brackets: how many are open, and how many were open at once. -/
structure Brackets where
  region : Region
  opened : Nat
  most : Nat
  deriving DecidableEq

namespace Brackets

def next (b : Brackets) (c : Char) : Brackets :=
  match b.region with
  | .outside =>
    if c = '"' then { b with region := .string }
    else if c = '[' ∨ c = '\x7b' then ⟨.outside, b.opened + 1, max b.most (b.opened + 1)⟩
    else if c = ']' ∨ c = '\x7d' then { b with opened := b.opened - 1 }
    else b
  | .string =>
    if c = '"' then { b with region := .outside }
    else if c = '\\' then { b with region := .escape }
    else b
  | .escape => { b with region := .string }

/-- The count after a text. -/
def count (b : Brackets) (text : List Char) : Brackets := text.foldl next b

@[simp] theorem count_nil (b : Brackets) : b.count [] = b := rfl

@[simp] theorem count_cons (b : Brackets) (c : Char) (cs : List Char) :
    b.count (c :: cs) = (b.next c).count cs := rfl

@[simp] theorem count_append (b : Brackets) (cs ds : List Char) :
    b.count (cs ++ ds) = (b.count cs).count ds :=
  List.foldl_append

end Brackets

/-- The greatest number of brackets open at once in a text. -/
def deepest (text : String) : Nat := ((⟨.outside, 0, 0⟩ : Brackets).count text.toList).most

/-! ## The depth of a value -/

mutual

/-- How many brackets stand around the innermost part of a value, that part's own included. -/
def nesting : Json → Nat
  | scalar _ => 0
  | array js => nestingItems js + 1
  | object ms => nestingMembers ms + 1

/-- The depth of the deepest item. -/
def nestingItems : List Json → Nat
  | [] => 0
  | j :: js => max j.nesting (nestingItems js)

/-- The depth of the deepest member. -/
def nestingMembers : List (Text × Json) → Nat
  | [] => 0
  | (_, j) :: ms => max j.nesting (nestingMembers ms)

end

/-! ## Texts without brackets of their own -/

namespace Brackets

variable (opened most : Nat)

/-- The characters that leave the count as it is, outside of strings. -/
def Quiet (c : Char) : Prop := c ∉ ['"', '[', ']', '\x7b', '\x7d']

instance : DecidablePred Quiet := fun c =>
  inferInstanceAs (Decidable (c ∉ ['"', '[', ']', '\x7b', '\x7d']))

theorem quiet_of_isDigit {c : Char} (h : c.isDigit = true) : Quiet c := by
  intro hmem
  simp only [List.mem_cons, List.not_mem_nil, or_false] at hmem
  rcases hmem with rfl | rfl | rfl | rfl | rfl <;> exact absurd h (by decide)

theorem next_of_quiet {c : Char} (h : Quiet c) :
    next ⟨.outside, opened, most⟩ c = ⟨.outside, opened, most⟩ := by
  simp [Quiet] at h
  simp [next, h]

theorem count_of_quiet {cs : List Char} (h : ∀ c ∈ cs, Quiet c) :
    count ⟨.outside, opened, most⟩ cs = ⟨.outside, opened, most⟩ := by
  induction cs with
  | nil => rfl
  | cons c cs ih =>
    rw [count_cons, next_of_quiet opened most (h c List.mem_cons_self)]
    exact ih fun d hd => h d (List.mem_cons_of_mem c hd)

theorem count_newline (depth : Nat) :
    count ⟨.outside, opened, most⟩ (newline depth) = ⟨.outside, opened, most⟩ := by
  apply count_of_quiet
  intro c hc
  rcases List.mem_cons.1 hc with rfl | hblank
  · decide
  · rw [List.eq_of_mem_replicate hblank]
    decide

theorem hexDigit_ne {n : Nat} (h : n < 16) : hexDigit n ≠ '"' ∧ hexDigit n ≠ '\\' := by
  revert n
  decide

/-- Inside a string every character is written so that the string stays open. -/
theorem count_writeChar (c : Char) :
    count ⟨.string, opened, most⟩ (writeChar c) = ⟨.string, opened, most⟩ := by
  rcases writeChar_cases c with ⟨e, -, -, hwrite⟩ | ⟨hcontrol, hwrite⟩ | ⟨hquote, hback, -, hwrite⟩
  · simp [hwrite, next]
  · have hhigh := hexDigit_ne (n := c.toNat / 16) (by omega)
    have hlow := hexDigit_ne (n := c.toNat % 16) (by omega)
    simp [hwrite, next, hhigh, hlow]
  · simp [hwrite, next, hquote, hback]

theorem count_writeText (t : Text) :
    count ⟨.outside, opened, most⟩ (writeText t) = ⟨.outside, opened, most⟩ := by
  have hchars (cs : List Char) :
      count ⟨.string, opened, most⟩ (cs.flatMap writeChar) = ⟨.string, opened, most⟩ := by
    induction cs with
    | nil => rfl
    | cons c cs ih => rw [List.flatMap_cons, count_append, count_writeChar, ih]
  cases t with
  | none => rfl
  | some s =>
    change count ⟨.string, opened, most⟩ (s.toList.flatMap writeChar ++ ['"']) = _
    rw [count_append, hchars]
    rfl

theorem count_writeScalar {s : Scalar} (h : s.Plain) :
    count ⟨.outside, opened, most⟩ (writeScalar s) = ⟨.outside, opened, most⟩ := by
  cases s with
  | null => rfl
  | bool b => cases b <;> rfl
  | natural n =>
    rw [writeScalar_natural]
    exact count_of_quiet opened most fun c hc =>
      quiet_of_isDigit (Number.isDigit_of_mem_toDigits hc)
  | numeral _ => exact h.elim
  | string t => exact count_writeText opened most t

/-! ## Printed values -/

theorem next_open {c : Char} (h : c = '[' ∨ c = '\x7b') :
    next ⟨.outside, opened, most⟩ c = ⟨.outside, opened + 1, max most (opened + 1)⟩ := by
  rcases h with rfl | rfl <;> rfl

theorem next_close {c : Char} (h : c = ']' ∨ c = '\x7d') :
    next ⟨.outside, opened + 1, most⟩ c = ⟨.outside, opened, most⟩ := by
  rcases h with rfl | rfl <;> rfl

theorem count_colon :
    count ⟨.outside, opened, most⟩ ": ".toList = ⟨.outside, opened, most⟩ := rfl

mutual

/-- A printed value leaves as many brackets open as it found, and opens as many on top of them as it
is deep. -/
theorem count_write : (j : Json) → j.Plain → (depth opened most : Nat) → opened ≤ most →
    count ⟨.outside, opened, most⟩ (j.write depth) =
      ⟨.outside, opened, max most (opened + j.nesting)⟩
  | scalar s, hs, depth, opened, most, h => by
    rw [write, count_writeScalar opened most hs, nesting, Nat.add_zero, Nat.max_eq_left h]
  | array [], _, depth, opened, most, h => rfl
  | array (j :: js), ⟨hj, hjs⟩, depth, opened, most, h => by
    have hinner : opened + 1 ≤ max most (opened + 1) := Nat.le_max_right ..
    simp only [write, List.cons_append, count_cons, count_append, count_nil]
    rw [next_open opened most (.inl rfl), count_newline,
      count_write j hj (depth + 1) (opened + 1) _ hinner,
      count_writeItems js hjs (depth + 1) (opened + 1) _ (hinner.trans (Nat.le_max_left ..)),
      count_newline, next_close opened _ (.inl rfl), nesting, nestingItems]
    congr 1
    omega
  | object [], _, depth, opened, most, h => rfl
  | object ((k, j) :: ms), ⟨hj, hms⟩, depth, opened, most, h => by
    have hinner : opened + 1 ≤ max most (opened + 1) := Nat.le_max_right ..
    simp only [write, List.cons_append, count_cons, count_append, count_nil]
    rw [next_open opened most (.inr rfl), count_newline, count_writeText, count_colon,
      count_write j hj (depth + 1) (opened + 1) _ hinner,
      count_writeMembers ms hms (depth + 1) (opened + 1) _ (hinner.trans (Nat.le_max_left ..)),
      count_newline, next_close opened _ (.inr rfl), nesting, nestingMembers]
    congr 1
    omega

theorem count_writeItems : (js : List Json) → PlainItems js → (depth opened most : Nat) →
    opened ≤ most →
    count ⟨.outside, opened, most⟩ (writeItems depth js) =
      ⟨.outside, opened, max most (opened + nestingItems js)⟩
  | [], _, _, opened, most, h => by simp [writeItems, nestingItems, Nat.max_eq_left h]
  | j :: js, ⟨hj, hjs⟩, depth, opened, most, h => by
    have hcomma : Quiet ',' := by decide
    simp only [writeItems, List.cons_append, count_cons, count_append]
    rw [next_of_quiet opened most hcomma, count_newline, count_write j hj depth opened most h,
      count_writeItems js hjs depth opened _ (h.trans (Nat.le_max_left ..)), nestingItems]
    congr 1
    omega

theorem count_writeMembers : (ms : List (Text × Json)) → PlainMembers ms →
    (depth opened most : Nat) → opened ≤ most →
    count ⟨.outside, opened, most⟩ (writeMembers depth ms) =
      ⟨.outside, opened, max most (opened + nestingMembers ms)⟩
  | [], _, _, opened, most, h => by simp [writeMembers, nestingMembers, Nat.max_eq_left h]
  | (k, j) :: ms, ⟨hj, hms⟩, depth, opened, most, h => by
    have hcomma : Quiet ',' := by decide
    simp only [writeMembers, List.cons_append, count_cons, count_append]
    rw [next_of_quiet opened most hcomma, count_newline, count_writeText, count_colon,
      count_write j hj depth opened most h,
      count_writeMembers ms hms depth opened _ (h.trans (Nat.le_max_left ..)), nestingMembers]
    congr 1
    omega

end

end Brackets

/-- In a printed value as many brackets are open at once as it is deep. -/
theorem deepest_print {j : Json} (h : j.Plain) : deepest j.print = j.nesting := by
  rw [deepest, print, String.toList_ofList, Brackets.count_write j h 0 0 0 (Nat.le_refl 0)]
  simp

end DocSite.Json
