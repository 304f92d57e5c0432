import DocSite.Json.Printer
import DocSite.Proofs.JsonSpelling

/-!
# JSON is read back from its texts

Between a value and its texts stands the row of its tokens, `Json.toTokens`.  The lexer cuts every
text into it that spells it, and the reader puts it together again whatever brackets are open around
it.  So `parse_of_spelledBy` says that a value is read from each of its texts.

What is printed is one of these texts, with white space that shows the depth.  A number whose value
is not taken keeps its spelling, and nothing holds such a spelling to the rules of numbers, so what
is said of printing is said of values without them, which `Json.Plain` singles out.
-/

namespace DocSite.Json

/-! ## The tokens of a value -/

mutual

/-- The tokens that spell a value. -/
def toTokens : Json → List Token
  | scalar s => [.scalar s]
  | array [] => [.openArray, .closeArray]
  | array (j :: js) => .openArray :: j.toTokens ++ itemTokens js ++ [.closeArray]
  | object [] => [.openObject, .closeObject]
  | object ((k, j) :: ms) =>
    .openObject :: .scalar (.string k) :: .colon :: j.toTokens ++ memberTokens ms ++ [.closeObject]

/-- The items after the first. -/
def itemTokens : List Json → List Token
  | [] => []
  | j :: js => .comma :: j.toTokens ++ itemTokens js

/-- The members after the first. -/
def memberTokens : List (Text × Json) → List Token
  | [] => []
  | (k, j) :: ms => .comma :: .scalar (.string k) :: .colon :: j.toTokens ++ memberTokens ms

end

/-- The text spells the value: it is made of the tokens of the value, with white space anywhere
around them and each string in any of its spellings. -/
def SpelledBy (j : Json) (text : String) : Prop := Spelling j.toTokens text.toList

/-- A bracket or a divider can stand before any token. -/
theorem isChain_mark_cons {t : Token} {ts : List Token} (ht : t.mark?.isSome = true)
    (h : ts.IsChain Token.Apart) : (t :: ts).IsChain Token.Apart := by
  refine List.isChain_cons.mpr ⟨fun t' _ hnone => ?_, h⟩
  rw [hnone] at ht
  exact absurd ht (by decide)

theorem isChain_key (k : Text) {ts : List Token} (h : ts.IsChain Token.Apart) :
    (.scalar (.string k) :: .colon :: ts).IsChain Token.Apart :=
  List.isChain_cons_cons.mpr ⟨fun _ => nofun, isChain_mark_cons rfl h⟩

mutual

/-- No two scalars are neighbours in a value, nor where it meets a bracket or a divider. -/
theorem isChain_toTokens : (j : Json) → {rest : List Token} → rest.IsChain Token.Apart →
    (∀ t ∈ rest.head?, t.mark? ≠ none) → (j.toTokens ++ rest).IsChain Token.Apart
  | scalar _, _, hrest, hhead => List.isChain_cons.mpr ⟨fun t ht _ => hhead t ht, hrest⟩
  | array [], _, hrest, _ => isChain_mark_cons rfl (isChain_mark_cons rfl hrest)
  | array (j :: js), rest, hrest, _ => by
    simp only [toTokens, List.cons_append, List.append_assoc, List.nil_append]
    have hend : (Token.closeArray :: rest).IsChain Token.Apart := isChain_mark_cons rfl hrest
    obtain ⟨hitems, hhead⟩ := isChain_itemTokens js hend (by rintro _ ⟨⟩; exact nofun)
    exact isChain_mark_cons rfl (isChain_toTokens j hitems hhead)
  | object [], _, hrest, _ => isChain_mark_cons rfl (isChain_mark_cons rfl hrest)
  | object ((k, j) :: ms), rest, hrest, _ => by
    simp only [toTokens, List.cons_append, List.append_assoc, List.nil_append]
    have hend : (Token.closeObject :: rest).IsChain Token.Apart := isChain_mark_cons rfl hrest
    obtain ⟨hmembers, hhead⟩ := isChain_memberTokens ms hend (by rintro _ ⟨⟩; exact nofun)
    exact isChain_mark_cons rfl (isChain_key k (isChain_toTokens j hmembers hhead))

/-- What follows an item begins with a comma or ends the array. -/
theorem isChain_itemTokens : (js : List Json) → {rest : List Token} → rest.IsChain Token.Apart →
    (∀ t ∈ rest.head?, t.mark? ≠ none) →
    (itemTokens js ++ rest).IsChain Token.Apart ∧
      ∀ t ∈ (itemTokens js ++ rest).head?, t.mark? ≠ none
  | [], _, hrest, hhead => ⟨hrest, hhead⟩
  | j :: js, rest, hrest, hhead => by
    simp only [itemTokens, List.cons_append, List.append_assoc]
    obtain ⟨hitems, hnext⟩ := isChain_itemTokens js hrest hhead
    exact ⟨isChain_mark_cons rfl (isChain_toTokens j hitems hnext), by rintro _ ⟨⟩; exact nofun⟩

@[inherit_doc isChain_itemTokens]
theorem isChain_memberTokens : (ms : List (Text × Json)) → {rest : List Token} →
    rest.IsChain Token.Apart → (∀ t ∈ rest.head?, t.mark? ≠ none) →
    (memberTokens ms ++ rest).IsChain Token.Apart ∧
      ∀ t ∈ (memberTokens ms ++ rest).head?, t.mark? ≠ none
  | [], _, hrest, hhead => ⟨hrest, hhead⟩
  | (k, j) :: ms, rest, hrest, hhead => by
    simp only [memberTokens, List.cons_append, List.append_assoc]
    obtain ⟨hmembers, hnext⟩ := isChain_memberTokens ms hrest hhead
    have hvalue := isChain_key k (isChain_toTokens j hmembers hnext)
    exact ⟨isChain_mark_cons rfl hvalue, by rintro _ ⟨⟩; exact nofun⟩

end

/-! ## Putting the tokens together -/

namespace Reader

/-- Where an array has just been opened, its first item is read like any other. -/
theorem run_firstItem (j : Json) (stack : List Frame) (rest : List Token) :
    (firstItem stack).run (j.toTokens ++ rest) =
      (value (.array [] :: stack)).run (j.toTokens ++ rest) := by
  match j with
  | scalar _ => rfl
  | array [] => rfl
  | array (_ :: _) => rfl
  | object [] => rfl
  | object ((_, _) :: _) => rfl

mutual

/-- Where a value has to follow, the tokens of one complete it. -/
theorem run_toTokens : (j : Json) → (stack : List Frame) → (rest : List Token) →
    (value stack).run (j.toTokens ++ rest) = (complete j stack).run rest
  | scalar _, _, _ => rfl
  | array [], _, _ => rfl
  | array (j :: js), stack, rest => by
    simp only [toTokens, List.cons_append, List.append_assoc, List.nil_append]
    change (firstItem stack).run (j.toTokens ++ _) = _
    rw [run_firstItem, run_toTokens j, run_itemTokens js]
    rfl
  | object [], _, _ => rfl
  | object ((k, j) :: ms), stack, rest => by
    simp only [toTokens, List.cons_append, List.append_assoc, List.nil_append]
    change (value (.object [] k :: stack)).run (j.toTokens ++ _) = _
    rw [run_toTokens j, run_memberTokens ms]
    rfl

theorem run_itemTokens : (js : List Json) → (j : Json) → (items : List Json) →
    (stack : List Frame) → (rest : List Token) →
    (complete j (.array items :: stack)).run (itemTokens js ++ .closeArray :: rest) =
      (complete (.array ((j :: items).reverse ++ js)) stack).run rest
  | [], j, items, stack, rest => by
    rw [List.append_nil]
    rfl
  | j' :: js, j, items, stack, rest => by
    simp only [itemTokens, List.cons_append, List.append_assoc]
    change (value (.array (j :: items) :: stack)).run (j'.toTokens ++ _) = _
    rw [run_toTokens j', run_itemTokens js]
    simp

theorem run_memberTokens : (ms : List (Text × Json)) → (k : Text) → (j : Json) →
    (members : List (Text × Json)) → (stack : List Frame) → (rest : List Token) →
    (complete j (.object members k :: stack)).run (memberTokens ms ++ .closeObject :: rest) =
      (complete (.object (((k, j) :: members).reverse ++ ms)) stack).run rest
  | [], k, j, members, stack, rest => by
    rw [List.append_nil]
    rfl
  | (k', j') :: ms, k, j, members, stack, rest => by
    simp only [memberTokens, List.cons_append, List.append_assoc]
    change (value (.object ((k, j) :: members) k' :: stack)).run (j'.toTokens ++ _) = _
    rw [run_toTokens j', run_memberTokens ms]
    simp

end

end Reader

theorem ofTokens_toTokens (j : Json) : ofTokens j.toTokens = some j := by
  have hrun := Reader.run_toTokens j [] []
  rw [List.append_nil] at hrun
  rw [ofTokens, hrun]
  rfl

/-- **A value is read from each of its texts.** -/
theorem parse_of_spelledBy {j : Json} {text : String} (h : j.SpelledBy text) :
    parse text = some j := by
  have hchain : j.toTokens.IsChain Token.Apart := by
    have hchain := isChain_toTokens j .nil nofun
    rwa [List.append_nil] at hchain
  rw [parse, tokens_of_spelling h hchain, Option.bind_some, ofTokens_toTokens]

/-! ## Printed values -/

/-- Whether a scalar is no number, or a natural one. -/
def Scalar.Plain : Scalar → Prop
  | .numeral _ => False
  | _ => True

mutual

/-- Whether every number in a value is a natural number. -/
def Plain : Json → Prop
  | scalar s => s.Plain
  | array js => PlainItems js
  | object ms => PlainMembers ms

@[inherit_doc Plain]
def PlainItems : List Json → Prop
  | [] => True
  | j :: js => j.Plain ∧ PlainItems js

@[inherit_doc Plain]
def PlainMembers : List (Text × Json) → Prop
  | [] => True
  | (_, j) :: ms => j.Plain ∧ PlainMembers ms

end

/-- The three ways of writing a character: by a short escape, by its number, or as it is. -/
theorem writeChar_cases (c : Char) :
    (∃ e, e ≠ 'u' ∧ escaped? e = some c ∧ writeChar c = ['\\', e]) ∨
    (c.toNat < 0x20 ∧ writeChar c =
      ['\\', 'u', '0', '0', hexDigit (c.toNat / 16), hexDigit (c.toNat % 16)]) ∨
    (c ≠ '"' ∧ c ≠ '\\' ∧ 0x20 ≤ c.toNat ∧ writeChar c = [c]) := by
  have named {n : Nat} (h : c.toNat = n) : c = Char.ofNat n := by rw [← h, Char.ofNat_toNat]
  unfold writeChar
  split
  · exact .inl ⟨'"', by decide, rfl, rfl⟩
  · exact .inl ⟨'\\', by decide, rfl, rfl⟩
  · exact .inl ⟨'n', by decide, rfl, rfl⟩
  · exact .inl ⟨'r', by decide, rfl, rfl⟩
  · exact .inl ⟨'t', by decide, rfl, rfl⟩
  · next hquote hbackslash _ _ _ =>
    split
    · next h => exact .inl ⟨'b', by decide, by rw [named h]; rfl, rfl⟩
    split
    · next h => exact .inl ⟨'f', by decide, by rw [named h]; rfl, rfl⟩
    split
    · next h => exact .inr (.inl ⟨h, rfl⟩)
    · next h => exact .inr (.inr ⟨hquote, hbackslash, Nat.le_of_not_lt h, rfl⟩)

theorem mem_shortEscapes {e c : Char} (h : escaped? e = some c) : (e, c) ∈ shortEscapes := by
  unfold escaped? at h
  split at h
  case h_9 => cases h
  all_goals
    cases h
    decide

theorem isHexDigit_hexDigit {n : Nat} (h : n < 16) : IsHexDigit n (hexDigit n) := by
  have hall : ∀ i < 16, "0123456789abcdef".toList[i]? = some (hexDigit i) := by decide
  exact .inl (hall n h)

/-- Characters are written in one of the ways in which they can be. -/
theorem isCharacter_writeChar (c : Char) : IsCharacter c (writeChar c) := by
  rcases writeChar_cases c with
    ⟨e, -, he, hwrite⟩ | ⟨hcontrol, hwrite⟩ | ⟨hquote, hback, hc, hwrite⟩
  · rw [hwrite]
    exact .short (mem_shortEscapes he)
  · have hzero : IsHexDigit 0 '0' := .inl rfl
    have hfirst : c.toNat / 4096 = 0 := by omega
    have hsecond : c.toNat / 256 % 16 = 0 := by omega
    have hthird : c.toNat / 16 % 16 = c.toNat / 16 := by omega
    rw [hwrite]
    refine .number (.mk ?_ ?_ ?_ (isHexDigit_hexDigit (by omega)))
    · rwa [hfirst]
    · rwa [hsecond]
    · rw [hthird]
      exact isHexDigit_hexDigit (by omega)
  · rw [hwrite]
    exact .raw hquote hback hc

theorem areSegments_writeChars (cs : List Char) :
    AreSegments (cs.map .char) (cs.flatMap writeChar) := by
  induction cs with
  | nil => exact .nil
  | cons c cs ih => exact .cons (.char (isCharacter_writeChar c)) ih

theorem charsOf?_chars (cs : List Char) : charsOf? (cs.map .char) = some cs := by
  induction cs with
  | nil => rfl
  | cons c cs ih => rw [List.map_cons, charsOf?, ih, Option.map_some]

theorem isChain_chars (cs : List Char) : (cs.map Segment.char).IsChain Segment.Apart := by
  induction cs with
  | nil => exact .nil
  | cons c cs ih =>
    refine List.isChain_cons.mpr ⟨fun s _ => ?_, ih⟩
    exact trivial

theorem isScalar_writeText (t : Text) : IsScalar (.string t) (writeText t) := by
  cases t with
  | none =>
    have hds : FourDigits 0xD800 ['d', '8', '0', '0'] :=
      .mk (.inl rfl) (.inl rfl) (.inl rfl) (.inl rfl)
    have hlone : AreSegments [.lone 0xD800] "\\ud800".toList := .cons (.lone (.inl rfl) hds) .nil
    exact .string hlone (.singleton _)
  | some s =>
    have hstring := IsScalar.string (areSegments_writeChars s.toList) (isChain_chars s.toList)
    rwa [charsOf?_chars, Option.map_some, String.ofList_toList] at hstring

theorem writeScalar_natural (n : Nat) : writeScalar (.natural n) = Nat.toDigits 10 n :=
  Nat.toList_repr

theorem isScalar_writeScalar {s : Scalar} (h : s.Plain) : IsScalar s (writeScalar s) := by
  cases s with
  | null => exact .null
  | bool b =>
    cases b with
    | true => exact .true
    | false => exact .false
  | natural n =>
    rw [writeScalar_natural]
    exact .natural n
  | numeral _ => exact h.elim
  | string t => exact isScalar_writeText t

theorem blank_newline (depth : Nat) : Blank (newline depth) := by
  intro c hc
  rcases List.mem_cons.1 hc with rfl | hblank
  · decide
  · rw [List.eq_of_mem_replicate hblank]
    decide

/-- A key is written with its colon and a blank. -/
theorem Spelling.key {k : Text} {ts : List Token} {rest : List Char} (h : Spelling ts rest) :
    Spelling (.scalar (.string k) :: .colon :: ts) (writeText k ++ (": ".toList ++ rest)) := by
  have hblank : Blank [' '] := by
    intro c hc
    rw [List.mem_singleton.mp hc]
    decide
  exact .cons (.scalar (isScalar_writeText k)) (.mark rfl (h.blank_append hblank))

mutual

/-- What is written of a value, at any depth, spells its tokens. -/
theorem spelling_write : (j : Json) → j.Plain → (depth : Nat) → Spelling j.toTokens (j.write depth)
  | scalar s, hs, depth => by
    have hscalar : Spelling [.scalar s] (writeScalar s ++ []) :=
      .cons (.scalar (isScalar_writeScalar hs)) (.blank nofun)
    rwa [List.append_nil] at hscalar
  | array [], _, _ => .mark rfl (.mark rfl (.blank nofun))
  | array (j :: js), ⟨hj, hjs⟩, depth => by
    simp only [toTokens, write, List.cons_append, List.append_assoc]
    have hend : Spelling [.closeArray] (newline depth ++ [']']) :=
      .blank_append (blank_newline depth) (.mark rfl (.blank nofun))
    have hitems := (spelling_writeItems js hjs (depth + 1)).append hend
    have hfirst := (spelling_write j hj (depth + 1)).append hitems
    exact .mark rfl (hfirst.blank_append (blank_newline (depth + 1)))
  | object [], _, _ => .mark rfl (.mark rfl (.blank nofun))
  | object ((k, j) :: ms), ⟨hj, hms⟩, depth => by
    simp only [toTokens, write, List.cons_append, List.append_assoc]
    have hend : Spelling [.closeObject] (newline depth ++ ['\x7d']) :=
      .blank_append (blank_newline depth) (.mark rfl (.blank nofun))
    have hmembers := (spelling_writeMembers ms hms (depth + 1)).append hend
    have hfirst := (spelling_write j hj (depth + 1)).append hmembers
    exact .mark rfl (hfirst.key.blank_append (blank_newline (depth + 1)))

theorem spelling_writeItems : (js : List Json) → PlainItems js → (depth : Nat) →
    Spelling (itemTokens js) (writeItems depth js)
  | [], _, _ => .blank nofun
  | j :: js, ⟨hj, hjs⟩, depth => by
    simp only [itemTokens, writeItems, List.cons_append, List.append_assoc]
    have hitems := (spelling_write j hj depth).append (spelling_writeItems js hjs depth)
    exact .mark rfl (hitems.blank_append (blank_newline depth))

theorem spelling_writeMembers : (ms : List (Text × Json)) → PlainMembers ms → (depth : Nat) →
    Spelling (memberTokens ms) (writeMembers depth ms)
  | [], _, _ => .blank nofun
  | (k, j) :: ms, ⟨hj, hms⟩, depth => by
    simp only [memberTokens, writeMembers, List.cons_append, List.append_assoc]
    have hmembers := (spelling_write j hj depth).append (spelling_writeMembers ms hms depth)
    exact .mark rfl (hmembers.key.blank_append (blank_newline depth))

end

/-- What is printed of a value spells it. -/
theorem spelledBy_print {j : Json} (h : j.Plain) : j.SpelledBy j.print := by
  rw [SpelledBy, print, String.toList_ofList]
  exact spelling_write j h 0

/-- What is printed is read back. -/
theorem parse_print {j : Json} (h : j.Plain) : parse j.print = some j :=
  parse_of_spelledBy (spelledBy_print h)

end DocSite.Json
