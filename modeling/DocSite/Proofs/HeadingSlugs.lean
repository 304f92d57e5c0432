import DocSite.Render.Documentation
import Mathlib.Data.List.Chain
import Mathlib.Data.List.TakeWhile

/-!
# The slug of a heading

A heading without a label is anchored by the words of its text.  A word is a longest run of letters
and numbers (`Text.words`), and the anchor is made of the words in lower case, with one hyphen
between any two.

The slug is not made from words, though.  It is written one character at a time by `Slug.push`,
which looks at the last character written to see whether a divider is due, and a hyphen that turns
out to divide nothing is taken away at the end.  So the text that is still to come is read in one of
three ways: nothing has been written yet, or the last word may go on, or a hyphen stands behind it.
`Slug.Lowers.after_of_inWord` says what comes of the last two, and `Slug.Lowers.ofChars_eq` of the
first.

What counts as a letter and what its lower case is are read from tables.  Only two things about them
matter, `Slug.Lowers`: the lower case of a character is not empty, and that of a letter has no
hyphen in it.  So all of this is said about any two functions of which these are true, and the
tables come in at the end.
-/

namespace DocSite

namespace Slug

/-! ## Words -/

/-- The longest runs of letters of a text, as they follow each other. -/
def words (letter : Char → Bool) (text : List Char) : List (List Char) :=
  (text.splitOnP fun c => !letter c).filter fun word => !word.isEmpty

variable {letter : Char → Bool} {lower : Char → List Char}

@[simp] theorem words_nil : words letter [] = [] := rfl

theorem words_append_divider {c : Char} (hc : letter c = false) (before after : List Char) :
    words letter (before ++ c :: after) = words letter before ++ words letter after := by
  have hdivider : (!letter c) = true := by rw [hc, Bool.not_false]
  rw [words, List.splitOnP_append_cons before after hdivider, List.filter_append]
  rfl

theorem words_cons_divider {c : Char} (hc : letter c = false) (text : List Char) :
    words letter (c :: text) = words letter text :=
  words_append_divider hc [] text

/-- A word: letters, and at least one of them. -/
structure IsWord (letter : Char → Bool) (word : List Char) : Prop where
  ne_nil : word ≠ []
  letters : ∀ c ∈ word, letter c = true

theorem IsWord.words_eq {word : List Char} (h : IsWord letter word) :
    words letter word = [word] := by
  have hsplit : word.splitOnP (fun c => !letter c) = [word] :=
    List.splitOnP_eq_singleton fun c hc => by rw [h.letters c hc, Bool.not_true]
  have hkept : word.isEmpty = false := List.isEmpty_eq_false_iff.mpr h.ne_nil
  rw [words, hsplit, List.filter_singleton, hkept]
  rfl

theorem isWord_cons_takeWhile {c : Char} (hc : letter c = true) (text : List Char) :
    IsWord letter (c :: text.takeWhile letter) where
  ne_nil := List.cons_ne_nil _ _
  letters := List.forall_mem_cons.mpr ⟨hc, fun _ hd => List.mem_takeWhile_imp hd⟩

/-- A text that begins with a letter begins with a word. -/
theorem words_cons_letter {c : Char} (hc : letter c = true) (text : List Char) :
    words letter (c :: text) =
      (c :: text.takeWhile letter) :: words letter (text.dropWhile letter) := by
  have hone := (isWord_cons_takeWhile hc text).words_eq
  have hdivider := List.head?_dropWhile_not letter text
  have htext : c :: text =
      (c :: text.takeWhile letter) ++ text.dropWhile letter := by
    rw [List.cons_append, List.takeWhile_append_dropWhile]
  rw [htext]
  cases hrest : text.dropWhile letter with
  | nil => rw [List.append_nil, hone, words_nil]
  | cons d rest =>
    rw [hrest] at hdivider
    rw [words_append_divider hdivider, hone, words_cons_divider hdivider, List.singleton_append]

theorem isWord_of_mem_words {text word : List Char} (h : word ∈ words letter text) :
    IsWord letter word := by
  -- A letter takes the rest of its word with it, so the text behind a word is followed as well.
  suffices hboth : (∀ w ∈ words letter text, IsWord letter w) ∧
      ∀ w ∈ words letter (text.dropWhile letter), IsWord letter w from hboth.1 word h
  clear h
  induction text with
  | nil => exact ⟨fun _ h => absurd h List.not_mem_nil, fun _ h => absurd h List.not_mem_nil⟩
  | cons c text ih =>
    cases hc : letter c with
    | false =>
      rw [List.dropWhile_cons_of_neg (ne_true_of_eq_false hc), words_cons_divider hc]
      exact ⟨ih.1, ih.1⟩
    | true =>
      rw [List.dropWhile_cons_of_pos hc, words_cons_letter hc]
      exact ⟨List.forall_mem_cons.mpr ⟨isWord_cons_takeWhile hc text, ih.2⟩, ih.2⟩

/-! ## What is written of a word -/

/-- What slugs need of a test for letters and of a way to write them in lower case. -/
structure Lowers (letter : Char → Bool) (lower : Char → List Char) : Prop where
  ne_nil : ∀ c, lower c ≠ []
  hyphen_notMem : ∀ c, letter c = true → '-' ∉ lower c

/-- A word in lower case. -/
def ofWord (lower : Char → List Char) (word : List Char) : List Char := word.flatMap lower

/-- Words in lower case, each behind a hyphen. -/
def hyphened (lower : Char → List Char) (words : List (List Char)) : List Char :=
  words.flatMap fun word => '-' :: ofWord lower word

@[simp] theorem ofWord_nil : ofWord lower [] = [] := rfl

theorem ofWord_cons (c : Char) (word : List Char) :
    ofWord lower (c :: word) = lower c ++ ofWord lower word :=
  List.flatMap_cons

@[simp] theorem hyphened_nil : hyphened lower [] = [] := rfl

theorem hyphened_cons (word : List Char) (words : List (List Char)) :
    hyphened lower (word :: words) = '-' :: (ofWord lower word ++ hyphened lower words) := by
  rw [hyphened, List.flatMap_cons, List.cons_append]
  rfl

theorem intercalate_ofWord (word : List Char) (words : List (List Char)) :
    ['-'].intercalate ((word :: words).map (ofWord lower)) =
      ofWord lower word ++ hyphened lower words := by
  induction words generalizing word with
  | nil => rw [List.map_singleton, List.intercalate_singleton, hyphened_nil, List.append_nil]
  | cons next words ih =>
    rw [List.map_cons, List.map_cons, List.intercalate_cons_cons, ← List.map_cons, ih,
      hyphened_cons, List.append_assoc, List.singleton_append]

theorem Lowers.ofWord_ne_nil (hl : Lowers letter lower) {word : List Char}
    (h : IsWord letter word) : ofWord lower word ≠ [] := by
  cases word with
  | nil => exact absurd rfl h.ne_nil
  | cons c word =>
    rw [ofWord_cons]
    exact List.append_ne_nil_of_left_ne_nil (hl.ne_nil c) _

theorem Lowers.hyphen_notMem_ofWord (hl : Lowers letter lower) {word : List Char}
    (h : IsWord letter word) : '-' ∉ ofWord lower word := by
  intro hmem
  obtain ⟨c, hc, hlower⟩ := List.mem_flatMap.mp hmem
  exact hl.hyphen_notMem c (h.letters c hc) hlower

/-! ## Writing -/

theorem push_letter {c : Char} (hc : letter c = true) (slug : List Char) :
    push letter lower slug c = (lower c).reverse ++ slug :=
  if_pos hc

theorem push_divider_nil {c : Char} (hc : letter c = false) : push letter lower [] c = [] := by
  simp [push, hc]

theorem push_divider_hyphen {c : Char} (hc : letter c = false) (slug : List Char) :
    push letter lower ('-' :: slug) c = '-' :: slug := by
  simp [push, hc]

/-- The last character written belongs to a word. -/
def InWord (slug : List Char) : Prop := ∃ d rest, slug = d :: rest ∧ d ≠ '-'

theorem push_divider_of_inWord {c : Char} (hc : letter c = false) {slug : List Char}
    (h : InWord slug) : push letter lower slug c = '-' :: slug := by
  obtain ⟨d, rest, rfl, hd⟩ := h
  unfold push
  rw [if_neg (ne_true_of_eq_false hc)]
  split
  case h_1 heq => cases heq
  case h_2 heq => exact absurd (List.cons.inj heq).1 hd
  case h_3 => rfl

/-- A letter goes on with the word, or begins one. -/
theorem Lowers.inWord (hl : Lowers letter lower) {c : Char} (hc : letter c = true)
    (slug : List Char) : InWord ((lower c).reverse ++ slug) := by
  have hne : (lower c).reverse ≠ [] := List.reverse_ne_nil_iff.mpr (hl.ne_nil c)
  obtain ⟨d, rest, hlower⟩ := List.exists_cons_of_ne_nil hne
  refine ⟨d, rest ++ slug, by rw [hlower, List.cons_append], ?_⟩
  rintro rfl
  have hmem : '-' ∈ (lower c).reverse := hlower ▸ List.mem_cons_self
  exact hl.hyphen_notMem c hc (List.mem_reverse.mp hmem)

/-- The slug of a text whose beginning has been written already. -/
def after (letter : Char → Bool) (lower : Char → List Char) (slug text : List Char) : List Char :=
  ((text.foldl (push letter lower) slug).dropWhile (· == '-')).reverse

theorem after_cons (slug : List Char) (c : Char) (text : List Char) :
    after letter lower slug (c :: text) = after letter lower (push letter lower slug c) text := rfl

theorem after_nil_of_inWord {slug : List Char} (h : InWord slug) :
    after letter lower slug [] = slug.reverse := by
  obtain ⟨d, rest, rfl, hd⟩ := h
  have hkept : (d == '-') = false := beq_eq_false_iff_ne.mpr hd
  rw [after, List.foldl_nil, List.dropWhile_cons, hkept]
  rfl

/-- What comes of a text that goes on behind a word, and of one that goes on behind a word and a
hyphen.  The first reads on in the word, the second has to begin another. -/
theorem Lowers.after_of_inWord (hl : Lowers letter lower) (text : List Char) {slug : List Char}
    (h : InWord slug) :
    after letter lower slug text = slug.reverse ++ ofWord lower (text.takeWhile letter) ++
        hyphened lower (words letter (text.dropWhile letter)) ∧
      after letter lower ('-' :: slug) text =
        slug.reverse ++ hyphened lower (words letter text) := by
  induction text generalizing slug with
  | nil =>
    have htrim : after letter lower ('-' :: slug) [] = after letter lower slug [] := rfl
    rw [htrim, after_nil_of_inWord h]
    exact ⟨by simp, by simp⟩
  | cons c text ih =>
    cases hc : letter c with
    | true =>
      have hword := ih (hl.inWord hc slug)
      have hnext := ih (hl.inWord hc ('-' :: slug))
      rw [after_cons, after_cons, push_letter hc, push_letter hc, hword.1, hnext.1,
        List.takeWhile_cons_of_pos hc, List.dropWhile_cons_of_pos hc, words_cons_letter hc,
        hyphened_cons, ofWord_cons]
      exact ⟨by simp, by simp⟩
    | false =>
      have hneg := ne_true_of_eq_false hc
      rw [after_cons, after_cons, push_divider_of_inWord hc h, push_divider_hyphen hc, (ih h).2,
        List.takeWhile_cons_of_neg hneg, List.dropWhile_cons_of_neg hneg, words_cons_divider hc]
      exact ⟨by simp, rfl⟩

/-- A slug is made of the words of its text. -/
theorem Lowers.ofChars_eq (hl : Lowers letter lower) (text : List Char) :
    ofChars letter lower text = ['-'].intercalate ((words letter text).map (ofWord lower)) := by
  change after letter lower [] text = _
  induction text with
  | nil => rfl
  | cons c text ih =>
    cases hc : letter c with
    | true =>
      have hword := (hl.after_of_inWord text (hl.inWord hc [])).1
      rw [after_cons, push_letter hc, hword, words_cons_letter hc, intercalate_ofWord, ofWord_cons,
        List.append_nil, List.reverse_reverse]
    | false =>
      rw [after_cons, push_divider_nil hc, ih, words_cons_divider hc]

/-! ## Hyphens -/

/-- Hyphens stand between other characters, one at a time. -/
structure Tidy (slug : List Char) : Prop where
  head : '-' ∉ slug.head?
  last : '-' ∉ slug.getLast?
  apart : slug.IsChain fun c d => c ≠ '-' ∨ d ≠ '-'

theorem Tidy.nil : Tidy [] := ⟨Option.not_mem_none _, Option.not_mem_none _, .nil⟩

theorem Tidy.not_double {slug : List Char} (h : Tidy slug) : ¬ ['-', '-'] <:+: slug := by
  intro hdouble
  have hchain := List.IsChain.infix h.apart hdouble
  exact (List.isChain_cons_cons.mp hchain).1.elim (fun hne => hne rfl) fun hne => hne rfl

theorem Tidy.of_notMem {word : List Char} (h : '-' ∉ word) : Tidy word where
  head hmem := h (List.mem_of_mem_head? hmem)
  last hmem := h (List.mem_of_mem_getLast? hmem)
  apart := by
    refine (List.pairwise_of_forall_mem_list fun c hc d _ => Or.inl ?_).isChain
    rintro rfl
    exact h hc

/-- A hyphen may be put between a word and a tidy slug. -/
theorem Tidy.append_hyphen {word slug : List Char} (hne : word ≠ []) (hword : '-' ∉ word)
    (hslug : slug ≠ []) (h : Tidy slug) : Tidy (word ++ '-' :: slug) where
  head := by
    rw [List.head?_append_of_ne_nil _ hne]
    exact (of_notMem hword).head
  last := by
    rw [List.getLast?_append_of_ne_nil _ (List.cons_ne_nil _ _),
      List.getLast?_cons_of_ne_nil hslug]
    exact h.last
  apart := by
    refine List.isChain_append.mpr ⟨(of_notMem hword).apart, ?_, ?_⟩
    · refine List.isChain_cons.mpr ⟨fun d hd => Or.inr ?_, h.apart⟩
      rintro rfl
      exact h.head hd
    · intro c hc d _
      refine Or.inl ?_
      rintro rfl
      exact hword (List.mem_of_mem_getLast? hc)

theorem Lowers.tidy_ofWord_append_hyphened (hl : Lowers letter lower) {word : List Char}
    {words : List (List Char)} (h : ∀ w ∈ word :: words, IsWord letter w) :
    Tidy (ofWord lower word ++ hyphened lower words) := by
  induction words generalizing word with
  | nil =>
    rw [hyphened_nil, List.append_nil]
    exact .of_notMem (hl.hyphen_notMem_ofWord (h word List.mem_cons_self))
  | cons next words ih =>
    obtain ⟨hword, hwords⟩ := List.forall_mem_cons.mp h
    have hnext := hl.ofWord_ne_nil (hwords next List.mem_cons_self)
    rw [hyphened_cons]
    exact .append_hyphen (hl.ofWord_ne_nil hword) (hl.hyphen_notMem_ofWord hword)
      (List.append_ne_nil_of_left_ne_nil hnext _) (ih hwords)

theorem Lowers.tidy_ofChars (hl : Lowers letter lower) (text : List Char) :
    Tidy (ofChars letter lower text) := by
  rw [hl.ofChars_eq]
  cases h : words letter text with
  | nil => exact .nil
  | cons word words =>
    rw [intercalate_ofWord]
    exact hl.tidy_ofWord_append_hyphened fun w hw => isWord_of_mem_words (h ▸ hw)

end Slug

namespace Text

/-! ## Lower case of letters and numbers -/

theorem ofNat_ne_hyphen {n : Nat} (h : '-'.toNat < n) : Char.ofNat n ≠ '-' := by
  intro heq
  -- A number that is no code point stands for the null character.
  by_cases hvalid : n.isValidChar
  · have hn : (Char.ofNat n).toNat = n := congrArg Char.toNat (dif_pos hvalid)
    rw [heq] at hn
    omega
  · have hnull : (Char.ofNat n).toNat = 0 := congrArg Char.toNat (dif_neg hvalid)
    rw [heq] at hnull
    exact absurd hnull (by decide)

/-- All lower-case letters come after the hyphen. -/
theorem hyphen_lt_target {r : CaseRun} (hr : r ∈ caseRuns) : '-'.toNat < r.target := by
  have hall : caseRuns.all (fun r => '-'.toNat < r.target) := by decide +kernel
  exact of_decide_eq_true (List.all_eq_true.mp hall r hr)

theorem lowercase_ne_nil (c : Char) : lowercase c ≠ [] := by
  unfold lowercase
  split
  · exact List.cons_ne_nil _ _
  · split <;> exact List.cons_ne_nil _ _

theorem hyphen_notMem_lowercase {c : Char} (hc : isAlphanumeric c = true) : '-' ∉ lowercase c := by
  unfold lowercase
  split
  · decide
  · split
    case h_1 r hr =>
      have htarget := hyphen_lt_target (List.mem_of_find?_eq_some hr)
      have hlower : '-'.toNat < r.apply c.toNat := Nat.lt_add_right _ htarget
      rw [List.mem_singleton]
      exact (ofNat_ne_hyphen hlower).symm
    case h_2 =>
      rw [List.mem_singleton]
      rintro rfl
      exact absurd hc (by decide)

theorem lowers : Slug.Lowers isAlphanumeric lowercase :=
  ⟨lowercase_ne_nil, fun _ => hyphen_notMem_lowercase⟩

/-- The longest runs of letters and numbers of a text, as they follow each other. -/
def words (text : List Char) : List (List Char) := Slug.words isAlphanumeric text

end Text

/-- The anchor of a heading without a label: the words of its text in lower case, joined by hyphens.
It neither begins nor ends with a hyphen, and no two hyphens follow each other in it. -/
theorem headingId_eq_words (content : List Inline) :
    headingId none content =
        "-".intercalate ((Text.words (Inline.plainTexts content).toList).map fun word =>
          String.ofList (word.flatMap Text.lowercase)) ∧
      '-' ∉ (headingId none content).toList.head? ∧
      '-' ∉ (headingId none content).toList.getLast? ∧
      ¬ ['-', '-'] <:+: (headingId none content).toList := by
  have hchars : (headingId none content).toList =
      Slug.ofChars Text.isAlphanumeric Text.lowercase (Inline.plainTexts content).toList :=
    String.toList_ofList
  have htidy := Text.lowers.tidy_ofChars (Inline.plainTexts content).toList
  rw [← hchars] at htidy
  refine ⟨?_, htidy.head, htidy.last, htidy.not_double⟩
  rw [← String.toList_inj, hchars, Text.lowers.ofChars_eq, String.toList_intercalate, List.map_map]
  exact congrArg ['-'].intercalate (List.map_congr_left fun _ _ => String.toList_ofList.symm)

example : headingId none [.text " -A", .bold [.text "b -"], .code "C!"] = "ab-c" := by
  decide +kernel

end DocSite
