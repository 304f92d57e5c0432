import DocSite.Proofs.TextLinks
import DocSite.Proofs.TypeSyntax
import Mathlib.Data.List.Forall2

/-!
# The letters of a type

What a reader sees of a rendered type is its text, without nodes and links.  This text does not
depend on where the type is rendered: a path shows the same letters whether or not it can be linked.
So the text belongs to the type, or rather to what is left of it when each path is replaced by its
letters (`PlainType.text`).

Letters make up words, and the marks between them make words into tokens: a quote makes a variable,
a colon makes a label, and any other word is a path, unless it is one of the four that the language
keeps for itself.  Texts are put together from smaller texts, and so are their tokens.  `Spells`
says what it takes for that: the tokens of a text are the same whatever follows it, as long as the
next letter cannot be taken for a part of it.
-/

namespace DocSite

/-! ## The text of markup -/

namespace Markup

@[simp] theorem plainText_nil : plainText [] = "" := rfl

@[simp] theorem plainText_cons (n : Node) (ns : Markup) :
    plainText (n :: ns) = n.plainText ++ plainText ns := rfl

@[simp] theorem plainText_append (a b : Markup) :
    plainText (a ++ b) = plainText a ++ plainText b := by
  induction a with
  | nil => rw [List.nil_append, plainText_nil, String.empty_append]
  | cons n a ih => rw [List.cons_append, plainText_cons, ih, plainText_cons, String.append_assoc]

theorem plainText_join (sep : Markup) (parts : List Markup) :
    plainText (join sep parts) = (plainText sep).intercalate (parts.map plainText) := by
  induction parts with
  | nil => rfl
  | cons part parts ih =>
    cases parts with
    | nil => rw [join, List.map_singleton, String.intercalate_singleton]
    | cons next parts =>
      have hjoin : join sep (part :: next :: parts) = part ++ sep ++ join sep (next :: parts) := rfl
      rw [hjoin, plainText_append, plainText_append, ih, List.map_cons, List.map_cons,
        List.map_cons, String.intercalate_cons_cons]

theorem plainText_inParentheses (inner : Markup) :
    plainText (inParentheses inner) = "(" ++ plainText inner ++ ")" := by
  rw [inParentheses, List.cons_append, plainText_cons, plainText_append, String.append_assoc]
  rfl

end Markup

@[simp] theorem Node.plainText_text (s : String) : (Node.text s).plainText = s := rfl

@[simp] theorem Node.plainText_keyword (s : String) : (Node.keyword s).plainText = s := rfl

namespace Definition

def Part.nodes : Part → Markup
  | .inline tokens => tokens
  | .block node => [node]

theorem plainText_codeOf (tokens : Markup) :
    Markup.plainText (codeOf tokens) = Markup.plainText tokens := by
  cases tokens with
  | nil => rfl
  | cons n ns => exact String.append_empty

theorem plainText_layoutFrom (pending : Markup) (parts : List Part) :
    Markup.plainText (layoutFrom pending parts) =
      Markup.plainText pending ++ Markup.plainText (parts.flatMap Part.nodes) := by
  fun_induction layoutFrom pending parts with
  | case1 pending =>
    rw [plainText_codeOf, List.flatMap_nil, Markup.plainText_nil, String.append_empty]
  | case2 pending tokens parts ih =>
    rw [ih, List.flatMap_cons, Part.nodes, Markup.plainText_append, Markup.plainText_append,
      String.append_assoc]
  | case3 pending node parts ih =>
    rw [Markup.plainText_append, Markup.plainText_cons, ih, plainText_codeOf, List.flatMap_cons,
      Part.nodes, Markup.plainText_append, Markup.plainText_cons, Markup.plainText_nil,
      String.append_empty, String.empty_append]

/-- The layout does not change the text of a definition. -/
theorem plainText_layout (parts : List Part) :
    Markup.plainText (layout parts) = Markup.plainText (parts.flatMap Part.nodes) := by
  rw [layout, plainText_layoutFrom, Markup.plainText_nil, String.empty_append]

end Definition

/-- A path keeps its letters, whichever parts of it are links. -/
theorem Settings.plainText_pathMarkup (cfg : Settings) (source : PagePath) :
    ∀ (p : Path) (stopBefore : Bool) {ns : Markup},
      cfg.pathMarkup source stopBefore p = .ok ns → Markup.plainText ns = p.display
  | .resolved p, stopBefore, ns, h => by
    rw [Settings.pathMarkup] at h
    split at h
    · cases h
      exact String.append_empty
    · obtain ⟨href, -, ⟨⟩⟩ := except_bind_eq_ok.mp h
      change p.display ++ "" ++ "" = p.display
      rw [String.append_empty, String.append_empty]
  | .root n, _, ns, h => by
    cases h
    exact String.append_empty
  | .forward n, _, ns, h => by
    cases h
    exact String.append_empty
  | .dot p n, _, ns, h => by
    rw [Settings.pathMarkup] at h
    obtain ⟨parent, hparent, ⟨⟩⟩ := except_bind_eq_ok.mp h
    have ih := Settings.plainText_pathMarkup cfg source p true hparent
    simp [ih, Path.display, String.append_assoc]
  | .apply f a, stopBefore, ns, h => by
    rw [Settings.pathMarkup] at h
    obtain ⟨functor, hfunctor, h⟩ := except_bind_eq_ok.mp h
    obtain ⟨argument, hargument, ⟨⟩⟩ := except_bind_eq_ok.mp h
    have ihf := Settings.plainText_pathMarkup cfg source f stopBefore hfunctor
    have iha := Settings.plainText_pathMarkup cfg source a false hargument
    simp [ihf, iha, Path.display, String.append_assoc]

theorem Here.plainText_path (here : Here) (stopBefore : Bool) (p : Path) :
    Markup.plainText (here.path stopBefore p).value = p.display := by
  rw [Here.path]
  cases h : here.settings.pathMarkup here.page stopBefore p with
  | error e => exact String.append_empty
  | ok ns => exact here.settings.plainText_pathMarkup here.page p stopBefore h

/-! ## The text of a type -/

mutual

/-- What is left of a type when each path is replaced by its letters, if it is made of nothing but
variables, aliases, functions, tuples and applications. -/
def TypeExpr.plain? : TypeExpr → Option PlainType
  | .var n => some (.var n)
  | .any => some .any
  | .alias t n => do return .alias (← t.plain?) n
  | .arrow l s t => do return .arrow l (← s.plain?) (← t.plain?)
  | .tuple ts => do return .tuple (← TypeExpr.plainAll? ts)
  | .constr p ts => do return .constr p.display (← TypeExpr.plainAll? ts)
  | .variant _ _ | .object _ _ | .class _ _ | .poly _ _ | .package _ _ => none

@[inherit_doc TypeExpr.plain?]
def TypeExpr.plainAll? : List TypeExpr → Option (List PlainType)
  | [] => some []
  | t :: ts => do return (← t.plain?) :: (← TypeExpr.plainAll? ts)

end

namespace PlainType

open TypeText

/-- The letters of a label. -/
def labelText : Option Label → String
  | some (.label n) => n ++ ":"
  | some (.optional n) => "?" ++ n ++ ":"
  | none => ""

def enclosedText (parens : Bool) (inner : String) : String :=
  if parens then "(" ++ inner ++ ")" else inner

/-- The letters of a path behind its arguments. -/
def applicationText (path : String) : List String → String
  | [] => path
  | [a] => a ++ " " ++ path
  | several => "(" ++ ("," ++ fixedBlank).intercalate several ++ ")" ++ fixedBlank ++ path

mutual

/-- The letters of a type that may have to be enclosed. -/
def text (parens : Bool) : PlainType → String
  | .var n => typeVar n
  | .any => "_"
  | .alias t n => enclosedText parens (t.text true ++ " as " ++ typeVar n)
  | .arrow l s t => enclosedText parens (labelText l ++ s.text true ++ " -> " ++ t.text false)
  | .tuple ts => enclosedText parens (" * ".intercalate (texts true ts))
  | .constr p ts => applicationText p (texts (ts.length == 1) ts)

@[inherit_doc text]
def texts (parens : Bool) : List PlainType → List String
  | [] => []
  | t :: ts => t.text parens :: texts parens ts

end

end PlainType

namespace TypeText

theorem plainText_enclose (parens : Bool) (inner : Markup) :
    Markup.plainText (enclose parens inner) =
      PlainType.enclosedText parens (Markup.plainText inner) := by
  cases parens with
  | false => rfl
  | true => exact Markup.plainText_inParentheses inner

theorem plainText_label (l : Option Label) :
    Markup.plainText (label l) = PlainType.labelText l := by
  rcases l with _ | n | n
  · rfl
  · exact String.append_empty
  · exact String.append_empty

theorem plainText_application (arguments : List Markup) (path : Markup) :
    Markup.plainText (application .round arguments path) =
      PlainType.applicationText (Markup.plainText path) (arguments.map Markup.plainText) := by
  rcases arguments with _ | ⟨a, _ | ⟨b, arguments⟩⟩
  · rfl
  · simp [application, PlainType.applicationText, String.append_assoc]
  · simp [application, PlainType.applicationText, String.append_assoc, Markup.plainText_join,
      Brackets.opening, Brackets.closing]

end TypeText

theorem TypeExpr.length_plainAll? :
    ∀ {ts : List TypeExpr} {as : List PlainType}, TypeExpr.plainAll? ts = some as →
      as.length = ts.length
  | [], as, h => by
    cases h
    rfl
  | t :: ts, as, h => by
    rw [TypeExpr.plainAll?] at h
    obtain ⟨a, -, h⟩ := Option.bind_eq_some_iff.mp h
    obtain ⟨as, hts, ⟨⟩⟩ := Option.bind_eq_some_iff.mp h
    rw [List.length_cons, List.length_cons, TypeExpr.length_plainAll? hts]

mutual

/-- **The text of a rendered type** is the same on every page. -/
theorem TypeExpr.plainText_render (here : Here) :
    ∀ (t : TypeExpr) (parens : Bool) {a : PlainType}, t.plain? = some a →
      Markup.plainText (t.render here parens).value = a.text parens
  | .var n, parens, a, h => by
    cases h
    exact String.append_empty
  | .any, parens, a, h => by
    cases h
    rfl
  | .alias t n, parens, a, h => by
    obtain ⟨b, hb, ⟨⟩⟩ := Option.bind_eq_some_iff.mp h
    have ih := TypeExpr.plainText_render here t true hb
    simp [TypeExpr.render, TypeText.plainText_enclose, ih, PlainType.text, String.append_assoc]
  | .arrow l s t, parens, a, h => by
    obtain ⟨b, hb, h⟩ := Option.bind_eq_some_iff.mp h
    obtain ⟨c, hc, ⟨⟩⟩ := Option.bind_eq_some_iff.mp h
    have ihs := TypeExpr.plainText_render here s true hb
    have iht := TypeExpr.plainText_render here t false hc
    have harrow : Markup.arrow.plainText = "->" := String.append_empty
    have hblanks (rest : String) : " " ++ ("->" ++ (" " ++ rest)) = " -> " ++ rest := by
      rw [← String.append_assoc, ← String.append_assoc]
      rfl
    simp [TypeExpr.render, TypeText.plainText_enclose, TypeText.plainText_label, ihs, iht, harrow,
      hblanks, PlainType.text, String.append_assoc]
  | .tuple ts, parens, a, h => by
    obtain ⟨as, has, ⟨⟩⟩ := Option.bind_eq_some_iff.mp h
    have ih := TypeExpr.plainText_renderAll here ts true has
    simp [TypeExpr.render, TypeText.plainText_enclose, TypeText.product, Markup.plainText_join, ih,
      PlainType.text]
  | .constr p ts, parens, a, h => by
    obtain ⟨as, has, ⟨⟩⟩ := Option.bind_eq_some_iff.mp h
    have ih := TypeExpr.plainText_renderAll here ts (ts.length == 1) has
    simp [TypeExpr.render, TypeText.plainText_application, Here.plainText_path,
      TypeText.simpleArguments, ih, PlainType.text, TypeExpr.length_plainAll? has]
  | .variant _ _, _, a, h | .object _ _, _, a, h | .class _ _, _, a, h | .poly _ _, _, a, h
  | .package _ _, _, a, h => by
    cases h

@[inherit_doc TypeExpr.plainText_render]
theorem TypeExpr.plainText_renderAll (here : Here) :
    ∀ (ts : List TypeExpr) (parens : Bool) {as : List PlainType}, TypeExpr.plainAll? ts = some as →
      (TypeExpr.renderAll here parens ts).value.map Markup.plainText = PlainType.texts parens as
  | [], parens, as, h => by
    cases h
    rfl
  | t :: ts, parens, as, h => by
    rw [TypeExpr.plainAll?] at h
    obtain ⟨a, ha, h⟩ := Option.bind_eq_some_iff.mp h
    obtain ⟨as, has, ⟨⟩⟩ := Option.bind_eq_some_iff.mp h
    have ih := TypeExpr.plainText_render here t parens ha
    have ihs := TypeExpr.plainText_renderAll here ts parens has
    simp [TypeExpr.renderAll, ih, ihs, PlainType.texts]

end

namespace TypeSyntax

/-! ## From letters to tokens -/

/-- The letters that are no part of a word. -/
inductive Mark where
  | blank
  | opening
  | closing
  | comma
  | colon
  | quote
  | question
  deriving DecidableEq

def mark? (c : Char) : Option Mark :=
  if c.isWhitespace || c = '\u00a0' then some .blank
  else
    match c with
    | '(' => some .opening
    | ')' => some .closing
    | ',' => some .comma
    | ':' => some .colon
    | '\'' => some .quote
    | '?' => some .question
    | _ => none

/-- A text is cut into marks and the words between them. -/
inductive Piece where
  | mark (mark : Mark)
  | word (letters : List Char)

/-- The pieces of a text with one more letter in front of it. -/
def Piece.addLetter (c : Char) : List Piece → List Piece
  | .word w :: rest => .word (c :: w) :: rest
  | rest => .word [c] :: rest

def pieces : List Char → List Piece
  | [] => []
  | c :: cs =>
    match mark? c with
    | some m => .mark m :: pieces cs
    | none => Piece.addLetter c (pieces cs)

/-- The words that are no paths, with what they are. -/
def reserved : List (String × Token) :=
  [("as", .naming), ("->", .arrow), ("*", .star), ("_", .any)]

/-- The token of a word that stands alone. -/
def Token.ofWord (word : String) : Token := (reserved.lookup word).getD (.path word)

/-- The tokens of some pieces, if marks and words stand as they have to. -/
def tokens? : List Piece → Option (List Token)
  | [] => some []
  | .mark .blank :: rest => tokens? rest
  | .mark .opening :: rest => (tokens? rest).map (.opening :: ·)
  | .mark .closing :: rest => (tokens? rest).map (.closing :: ·)
  | .mark .comma :: rest => (tokens? rest).map (.comma :: ·)
  | .mark .quote :: .word w :: rest => (tokens? rest).map (.variable (String.ofList w) :: ·)
  | .mark .question :: .word w :: .mark .colon :: rest =>
    (tokens? rest).map (.label (.optional (String.ofList w)) :: ·)
  | .word w :: .mark .colon :: rest => (tokens? rest).map (.label (.label (String.ofList w)) :: ·)
  | .word w :: rest => (tokens? rest).map (.ofWord (String.ofList w) :: ·)
  | _ => none

/-- The tokens of a text. -/
def lex (text : List Char) : Option (List Token) := tokens? (pieces text)

/-- The name that a label carries. -/
def labelName : Label → String
  | .label n | .optional n => n

/-- A text that can be a name: it is not empty and holds no marks. -/
def IsWord (s : String) : Prop := s ≠ "" ∧ s.toList.all (fun c => (mark? c).isNone)

instance (s : String) : Decidable (IsWord s) := inferInstanceAs (Decidable (_ ∧ _))

/-- The letters that can follow a type: none, a blank, a closing bracket or a comma. -/
def Ends : List Char → Prop
  | [] => True
  | c :: _ => mark? c = some .blank ∨ mark? c = some .closing ∨ mark? c = some .comma

/-- A text has the given tokens, whatever follows it. -/
def Spells (text : String) (ts : List Token) : Prop :=
  ∀ rest, Ends rest → lex (text.toList ++ rest) = (lex rest).map (ts ++ ·)

/-! ### Words -/

theorem IsWord.mark?_eq_none {s : String} (h : IsWord s) : ∀ c ∈ s.toList, mark? c = none := by
  intro c hc
  exact Option.isNone_iff_eq_none.mp (List.all_eq_true.mp h.2 c hc)

theorem IsWord.toList_ne_nil {s : String} (h : IsWord s) : s.toList ≠ [] :=
  fun hnil => h.1 (String.toList_inj.mp hnil)

theorem pieces_cons_of_mark {c : Char} {m : Mark} (h : mark? c = some m) (rest : List Char) :
    pieces (c :: rest) = .mark m :: pieces rest := by
  rw [pieces, h]

/-- A word is a piece of its own if a mark or nothing follows it. -/
theorem pieces_append {letters : List Char} (hne : letters ≠ [])
    (h : ∀ c ∈ letters, mark? c = none) {rest : List Char}
    (hrest : ∀ w others, pieces rest ≠ .word w :: others) :
    pieces (letters ++ rest) = .word letters :: pieces rest := by
  induction letters with
  | nil => exact absurd rfl hne
  | cons c letters ih =>
    rw [List.cons_append, pieces, h c List.mem_cons_self]
    by_cases hnil : letters = []
    · rw [hnil, List.nil_append, Piece.addLetter]
      exact fun w others => hrest w others
    · rw [ih hnil fun c hc => h c (List.mem_cons_of_mem _ hc), Piece.addLetter]

/-- What can follow a type begins with a mark, and never makes a word before it a label. -/
theorem Ends.pieces {rest : List Char} (h : Ends rest) :
    pieces rest = [] ∨ ∃ m others, m ≠ .colon ∧ pieces rest = .mark m :: others := by
  cases rest with
  | nil => exact .inl rfl
  | cons c rest =>
    rcases h with h | h | h
    · exact .inr ⟨.blank, _, by decide, pieces_cons_of_mark h rest⟩
    · exact .inr ⟨.closing, _, by decide, pieces_cons_of_mark h rest⟩
    · exact .inr ⟨.comma, _, by decide, pieces_cons_of_mark h rest⟩

theorem Ends.pieces_ne_word {rest : List Char} (h : Ends rest) (w : List Char)
    (others : List Piece) : TypeSyntax.pieces rest ≠ .word w :: others := by
  rcases h.pieces with hnil | ⟨m, others', -, hmark⟩
  · simp [hnil]
  · simp [hmark]

theorem lex_word {s : String} (h : IsWord s) {rest : List Char} (hrest : Ends rest) :
    lex (s.toList ++ rest) = (lex rest).map (.ofWord s :: ·) := by
  rw [lex, lex, pieces_append h.toList_ne_nil h.mark?_eq_none hrest.pieces_ne_word]
  rcases hrest.pieces with hnil | ⟨m, others, hcolon, hmark⟩
  · rw [hnil]
    change (tokens? []).map (.ofWord (String.ofList s.toList) :: ·) = _
    rw [String.ofList_toList]
  · rw [hmark, tokens?, String.ofList_toList]
    simpa using hcolon

theorem lex_variable {n : String} (h : IsWord n) {rest : List Char} (hrest : Ends rest) :
    lex ('\'' :: (n.toList ++ rest)) = (lex rest).map (.variable n :: ·) := by
  rw [lex, lex, pieces_cons_of_mark rfl,
    pieces_append h.toList_ne_nil h.mark?_eq_none hrest.pieces_ne_word, tokens?,
    String.ofList_toList]

theorem lex_label {n : String} (h : IsWord n) (rest : List Char) :
    lex (n.toList ++ ':' :: rest) = (lex rest).map (.label (.label n) :: ·) := by
  have hcolon : pieces (':' :: rest) = .mark .colon :: pieces rest := pieces_cons_of_mark rfl rest
  rw [lex, lex, pieces_append h.toList_ne_nil h.mark?_eq_none (by simp [hcolon]), hcolon, tokens?,
    String.ofList_toList]

theorem lex_optional {n : String} (h : IsWord n) (rest : List Char) :
    lex ('?' :: (n.toList ++ ':' :: rest)) = (lex rest).map (.label (.optional n) :: ·) := by
  have hcolon : pieces (':' :: rest) = .mark .colon :: pieces rest := pieces_cons_of_mark rfl rest
  rw [lex, lex, pieces_cons_of_mark rfl,
    pieces_append h.toList_ne_nil h.mark?_eq_none (by simp [hcolon]), hcolon, tokens?,
    String.ofList_toList]

/-! ### Putting texts together -/

/-- A text that stands for some tokens, even if words follow it directly. -/
def Leads (front : String) (ts : List Token) : Prop :=
  ∀ rest, lex (front.toList ++ rest) = (lex rest).map (ts ++ ·)

/-- A text that ends whatever stands before it. -/
def Parts (text : String) : Prop := ∀ rest, Ends (text.toList ++ rest)

theorem parts_blank : Parts " " := fun _ => .inl rfl

theorem parts_closing : Parts ")" := fun _ => .inr (.inl rfl)

theorem Parts.append {s : String} (h : Parts s) (u : String) : Parts (s ++ u) := by
  intro rest
  rw [String.toList_append, List.append_assoc]
  exact h _

theorem leads_opening : Leads "(" [.opening] := fun _ => rfl

theorem leads_closing : Leads ")" [.closing] := fun _ => rfl

theorem leads_label {l : Option Label} (h : ∀ l' ∈ l, IsWord (labelName l')) :
    Leads (PlainType.labelText l) (l.map Token.label).toList := by
  intro rest
  rcases l with _ | n | n
  · exact Option.map_id'.symm
  · rw [PlainType.labelText, String.toList_append, List.append_assoc]
    exact lex_label (h _ rfl) rest
  · rw [PlainType.labelText, String.toList_append, String.toList_append, List.append_assoc,
      List.append_assoc]
    exact lex_optional (h _ rfl) rest

/-- A text that stands for a token between two others. -/
structure Separates (sep : String) (t : Token) : Prop where
  parts : Parts sep
  leads : Leads sep [t]

theorem separates_star : Separates " * " .star := ⟨fun _ => .inl rfl, fun _ => rfl⟩

theorem separates_arrow : Separates " -> " .arrow := ⟨fun _ => .inl rfl, fun _ => rfl⟩

theorem separates_naming : Separates " as " .naming := ⟨fun _ => .inl rfl, fun _ => rfl⟩

theorem separates_comma : Separates ("," ++ TypeText.fixedBlank) .comma :=
  ⟨fun _ => .inr (.inr rfl), fun _ => rfl⟩

theorem option_map_append (ts us : List Token) (x : Option (List Token)) :
    (x.map (us ++ ·)).map (ts ++ ·) = x.map (ts ++ us ++ ·) := by
  cases x with
  | none => rfl
  | some rest => exact congrArg some (List.append_assoc ts us rest).symm

namespace Spells

variable {s u : String} {ts us : List Token}

theorem lex_eq (h : Spells s ts) : lex s.toList = some ts := by
  have hlex := h [] trivial
  rw [List.append_nil] at hlex
  rw [hlex]
  change some (ts ++ []) = some ts
  rw [List.append_nil]

theorem of_leads (h : Leads s ts) : Spells s ts := fun rest _ => h rest

theorem word (h : IsWord s) : Spells s [.ofWord s] := fun _ hrest => lex_word h hrest

theorem typeVar (h : IsWord s) : Spells (TypeText.typeVar s) [.variable s] := by
  intro rest hrest
  rw [TypeText.typeVar, String.toList_append, List.append_assoc]
  exact lex_variable h hrest

theorem lead (hs : Leads s ts) (hu : Spells u us) : Spells (s ++ u) (ts ++ us) := by
  intro rest hrest
  rw [String.toList_append, List.append_assoc, hs, hu rest hrest, option_map_append]

theorem append (hs : Spells s ts) (hparts : Parts u) (hu : Spells u us) :
    Spells (s ++ u) (ts ++ us) := by
  intro rest hrest
  rw [String.toList_append, List.append_assoc, hs _ (hparts rest), hu rest hrest,
    option_map_append]

theorem enclosed (h : Spells s ts) : Spells ("(" ++ s ++ ")") (.opening :: (ts ++ [.closing])) := by
  rw [String.append_assoc]
  exact .lead leads_opening (h.append parts_closing (.of_leads leads_closing))

/-- A path behind one argument. -/
theorem apply (h : Spells s ts) (hu : IsWord u) : Spells (s ++ " " ++ u) (ts ++ [.ofWord u]) := by
  have hblank : Leads " " [] := fun _ => Option.map_id'.symm
  rw [String.append_assoc]
  exact h.append (parts_blank.append u) (.lead hblank (.word hu))

/-- A path behind several arguments. -/
theorem applyTo (h : Spells s ts) (hu : IsWord u) :
    Spells ("(" ++ s ++ ")" ++ TypeText.fixedBlank ++ u)
      (.opening :: (ts ++ [.closing, .ofWord u])) := by
  have hclosing : Leads (")" ++ TypeText.fixedBlank) [.closing] := fun _ => rfl
  have htext : "(" ++ s ++ ")" ++ TypeText.fixedBlank ++ u =
      "(" ++ (s ++ ((")" ++ TypeText.fixedBlank) ++ u)) := by
    simp only [String.append_assoc]
  rw [htext]
  exact .lead leads_opening
    (h.append ((parts_closing.append _).append u) (.lead hclosing (.word hu)))

/-- Two texts with a token between them. -/
theorem join {sep : String} {t : Token} (hs : Spells s ts) (hsep : Separates sep t)
    (hu : Spells u us) : Spells (s ++ sep ++ u) (ts ++ t :: us) := by
  rw [String.append_assoc]
  exact hs.append (hsep.parts.append u) (.lead hsep.leads hu)

/-- A row of texts with one token between any two. -/
theorem intercalate {sep : String} {t : Token} (hsep : Separates sep t) :
    ∀ {texts : List String} {rows : List (List Token)}, List.Forall₂ Spells texts rows →
      ∀ {s : String} {ts : List Token}, Spells s ts →
        Spells (sep.intercalate (s :: texts)) (ts ++ rows.flatMap (t :: ·))
  | [], _, .nil, s, ts, hs => by
    rw [String.intercalate_singleton, List.flatMap_nil, List.append_nil]
    exact hs
  | u :: texts, us :: rows, .cons hu hrest, s, ts, hs => by
    rw [String.intercalate_cons_cons, List.flatMap_cons, List.cons_append]
    exact hs.join hsep (intercalate hsep hrest hu)

end Spells

end TypeSyntax

end DocSite
