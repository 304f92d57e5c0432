import DocSite.Proofs.HtmlTree
import DocSite.Text.Hexadecimal
import Mathlib.Data.List.Forall2

/-!
# Reading documents

A document has what the HTML of markup has not: it begins with a declaration, some of its elements
are never closed, and characters may be given by their numbers.  `Html.readDocument` reads all that.

Tags are found without regard to references, since to a tag an ampersand is a character like any
other.  So the tags of a document are read by the reader of HTML from the text with its ampersands
protected.  What it then finds in the tags and between them is the text as it stands, and the
references in it are replaced last.

A text can be escaped in more than one way, and a document has texts of two kinds.  What they have
in common is `Escape.Encodes`: the text is read back, whatever follows it, and has no character in
it that could begin or end a tag or a value.  `Html.Spelling` puts documents together from such
texts, and `Html.Spelling.readDocument` reads them back.
-/

namespace DocSite

namespace Escape

/-! ## References -/

/-- The number that some hexadecimal digits write. -/
def hexadecimal? (digits : List Char) : Option Nat :=
  if digits.isEmpty then none
  else digits.foldlM (fun n c => (Text.hexDigit? c).map (16 * n + ·)) 0

/-- The character that a reference stands for, by what is between the ampersand and the
semicolon. -/
def reference? : List Char → Option Char
  | ['a', 'm', 'p'] => some '&'
  | ['l', 't'] => some '<'
  | ['g', 't'] => some '>'
  | ['q', 'u', 'o', 't'] => some '"'
  | '#' :: 'x' :: digits =>
    (hexadecimal? digits).bind fun n => if n.isValidChar then some (Char.ofNat n) else none
  | _ => none

/-- Characters that could begin or end a tag or a value. -/
def delimiters : List Char := ['<', '>', '"', '\'']

theorem entity?_eq_none {c : Char} (hamp : c ≠ '&') (h : c ∉ delimiters) : entity? c = none := by
  unfold entity?
  split
  · exact absurd rfl hamp
  · exact absurd (by decide) h
  · exact absurd (by decide) h
  · exact absurd (by decide) h
  · exact absurd (by decide) h
  · rfl

/-- All entities, those of element content and that of the slash. -/
def slotStages : List (Char × String) := ('/', "&#x2F;") :: stages

theorem mem_slotStages {c : Char} {e : String} (h : slotEntity? c = some e) :
    (c, e) ∈ slotStages := by
  unfold slotEntity? at h
  split at h
  · cases h
    decide
  · exact List.mem_cons_of_mem _ (mem_stages h)

theorem entity?_of_slotEntity? {c : Char} (h : slotEntity? c = none) : entity? c = none := by
  unfold slotEntity? at h
  split at h
  · cases h
  · exact h

/-- Every entity is a reference to its character and has no delimiter in it. -/
theorem reference?_of_mem {special : Char × String} (h : special ∈ slotStages) :
    (∃ name, special.2.toList = '&' :: (name ++ [';']) ∧ '&' ∉ name ∧ ';' ∉ name ∧
      reference? name = some special.1) ∧ ∀ c ∈ special.2.toList, c ∉ delimiters := by
  have hall : ∀ special ∈ slotStages, (∃ name ∈ [special.2.toList.tail.dropLast],
      special.2.toList = '&' :: (name ++ [';']) ∧ '&' ∉ name ∧ ';' ∉ name ∧
        reference? name = some special.1) ∧
      special.2.toList.all (fun c => decide (c ∉ delimiters)) = true := by
    decide
  obtain ⟨⟨name, -, hname⟩, hplain⟩ := hall special h
  exact ⟨⟨name, hname⟩, fun c hc => of_decide_eq_true (List.all_eq_true.mp hplain c hc)⟩

/-- The characters are written as a text: they are read back from it, whatever follows, and nothing
in it is a delimiter. -/
structure Encodes (raw cs : List Char) : Prop where
  decode : ∀ rest, decode reference? (raw ++ rest) = cs ++ Escape.decode reference? rest
  plain : ∀ c ∈ raw, c ∉ delimiters

namespace Encodes

theorem nil : Encodes [] [] := ⟨fun _ => rfl, by simp⟩

theorem append {raw raw' cs cs' : List Char} (h : Encodes raw cs) (h' : Encodes raw' cs') :
    Encodes (raw ++ raw') (cs ++ cs') where
  decode := by
    intro rest
    rw [List.append_assoc, h.decode, h'.decode, List.append_assoc]
  plain := List.forall_mem_append.mpr ⟨h.plain, h'.plain⟩

theorem decode_eq {raw cs : List Char} (h : Encodes raw cs) :
    Escape.decode reference? raw = cs := by
  have hread := h.decode []
  rw [List.append_nil] at hread
  exact hread.trans (List.append_nil cs)

/-- A table of which every entry is an entity, and which has one for each delimiter and for the
ampersand. -/
theorem of_table {table : Char → Option String}
    (hentity : ∀ {c e}, table c = some e → (c, e) ∈ slotStages)
    (hplain : ∀ {c}, table c = none → entity? c = none) (cs : List Char) :
    Encodes (cs.flatMap (char table)) cs where
  decode := by
    have hundoes : Undoes reference? table :=
      ⟨fun h => (reference?_of_mem (hentity h)).1, fun h heq => by
        rw [heq] at h
        cases hplain h⟩
    exact hundoes.decode_flatMap cs
  plain := by
    intro d hd
    obtain ⟨c, -, hd⟩ := List.mem_flatMap.mp hd
    unfold char at hd
    split at hd
    · next e he => exact (reference?_of_mem (hentity he)).2 d hd
    · next he =>
      have hnone := not_mem_of_entity?_eq_none (hplain he)
      rw [List.mem_singleton.mp hd]
      exact fun hmem => hnone (List.mem_cons_of_mem _ hmem)

/-- A text as the HTML of markup has it. -/
theorem html (s : String) : Encodes (Escape.html s).toList s.toList := by
  rw [toList_html]
  exact of_table (fun h => List.mem_cons_of_mem _ (mem_stages h)) (fun h => h) s.toList

/-- A text as the gaps of a document have it. -/
theorem slot (s : String) : Encodes (Escape.slot s).toList s.toList := by
  rw [Escape.slot, text, String.toList_ofList]
  exact of_table mem_slotStages entity?_of_slotEntity? s.toList

/-- A text without special characters stands for itself. -/
theorem self {cs : List Char} (h : ∀ c ∈ cs, entity? c = none) : Encodes cs cs := by
  have hself : escaped cs = cs := by
    induction cs with
    | nil => rfl
    | cons c cs ih =>
      obtain ⟨hc, hcs⟩ := List.forall_mem_cons.mp h
      rw [escaped, List.flatMap_cons, char, hc, ← escaped, ih hcs, List.singleton_append]
  have hencodes := html (String.ofList cs)
  rwa [toList_html, String.toList_ofList, hself] at hencodes

/-- A text without special characters, given as it is. -/
theorem fixed {cs : List Char} (h : cs.all fun c => (entity? c).isNone) : Encodes cs cs :=
  self fun c hc => Option.isNone_iff_eq_none.mp (List.all_eq_true.mp h c hc)

end Encodes

end Escape

namespace Html

/-! ## The reader -/

/-- The text with every ampersand standing for itself. -/
def protect (cs : List Char) : List Char :=
  cs.flatMap (Escape.char fun c => if c = '&' then some "&amp;" else none)

/-- The attribute with the references in its value replaced. -/
def Attribute.decoded (a : Attribute) : Attribute :=
  ⟨a.name, a.value.map fun v => String.ofList (Escape.decode Escape.reference? v.toList)⟩

/-- The characters of a run of text, with its references replaced. -/
def decodedCharacters (run : List Char) : List Lexeme :=
  (Escape.decode Escape.reference? run).map Lexeme.char

/-- The lexemes with all references replaced.  A text is kept until the next tag, last character
first, since a reference is not read until it ends. -/
def replaceReferences (run : List Char) : List Lexeme → List Lexeme
  | [] => decodedCharacters run.reverse
  | .char c :: ls => replaceReferences (c :: run) ls
  | .opening name attributes :: ls =>
    decodedCharacters run.reverse ++
      .opening name (attributes.map Attribute.decoded) :: replaceReferences [] ls
  | .closing name :: ls =>
    decodedCharacters run.reverse ++ .closing name :: replaceReferences [] ls

/-- Whether elements of a name have no content and no closing tag. -/
def isVoid (name : String) : Bool :=
  ["area", "base", "br", "col", "embed", "hr", "img", "input", "link", "meta", "source", "track",
    "wbr"].contains name

/-- The lexeme, closed if no closing tag may follow. -/
def Lexeme.closed : Lexeme → List Lexeme
  | .opening name attributes =>
    .opening name attributes :: if isVoid name then [.closing name] else []
  | l => [l]

/-- What every document begins with. -/
def doctype : List Char := "<!DOCTYPE html>".toList

/-- The elements and characters of a document, behind its declaration. -/
def readDocument (text : String) : Option (List Item) :=
  if doctype.isPrefixOf text.toList then do
    let ls ← lexemes (.data []) (protect (text.toList.drop doctype.length))
    assemble [] [] ((replaceReferences [] ls).flatMap Lexeme.closed)
  else none

example : readDocument "<!DOCTYPE html><p id=\"a&#x2F;b\">1 &lt; 2<br></p>" =
    some [.element "p" [⟨"id", some "a/b"⟩] (Item.ofText "1 < 2" ++ [.element "br" [] []])] := rfl

/-! ## Texts as they stand -/

/-- The attribute with its value as it stands. -/
def Attribute.spell (a : Attribute) : List Char :=
  ' ' :: a.name.toList ++
    match a.value with
    | some v => "=\"".toList ++ v.toList ++ ['"']
    | none => []

/-- The piece with its texts as they stand. -/
def Piece.spell : Piece → List Char
  | opening name attributes => '<' :: name.toList ++ attributes.flatMap Attribute.spell ++ ['>']
  | closing name => "</".toList ++ name.toList ++ ['>']
  | text s => s.toList

/-- The texts in a piece are written so that they can be read back. -/
def Piece.Encoded : Piece → Prop
  | opening _ attributes =>
    ∀ a ∈ attributes, ∀ v ∈ a.value, ∃ cs, Escape.Encodes v.toList cs
  | closing _ => True
  | text s => ∃ cs, Escape.Encodes s.toList cs

/-- The pieces that are read: references are replaced, and what is never closed is closed. -/
def Piece.decoded : Piece → List Piece
  | opening name attributes =>
    .opening name (attributes.map Attribute.decoded) :: if isVoid name then [.closing name] else []
  | closing name => [.closing name]
  | text s => [.text (String.ofList (Escape.decode Escape.reference? s.toList))]

/-! ### Protected texts -/

@[simp] theorem protect_nil : protect [] = [] := rfl

@[simp] theorem protect_append (a b : List Char) : protect (a ++ b) = protect a ++ protect b :=
  List.flatMap_append

theorem protect_cons {c : Char} (h : c ≠ '&') (cs : List Char) :
    protect (c :: cs) = c :: protect cs := by
  rw [protect, List.flatMap_cons, Escape.char, if_neg h]
  rfl

/-- Where there are no delimiters, only ampersands are left to be escaped. -/
theorem protect_eq_escaped {cs : List Char} (h : ∀ c ∈ cs, c ∉ Escape.delimiters) :
    protect cs = Escape.escaped cs := by
  induction cs with
  | nil => rfl
  | cons c cs ih =>
    obtain ⟨hc, hcs⟩ := List.forall_mem_cons.mp h
    rw [Escape.escaped, List.flatMap_cons, ← Escape.escaped, ← ih hcs]
    by_cases hamp : c = '&'
    · rw [hamp]
      rfl
    · have hnone : Escape.entity? c = none := Escape.entity?_eq_none hamp hc
      rw [protect_cons hamp, Escape.char, hnone]
      rfl

theorem protect_name {s : String} (h : IsName s) : protect s.toList = s.toList := by
  have hname : ∀ c ∈ s.toList, isNameChar c = true := h.2
  revert hname
  induction s.toList with
  | nil => exact fun _ => rfl
  | cons c cs ih =>
    intro hname
    obtain ⟨hc, hcs⟩ := List.forall_mem_cons.mp hname
    have hamp : c ≠ '&' := by
      rintro rfl
      exact absurd hc (by decide)
    rw [protect_cons hamp, ih hcs]

/-- Protected values are written by the escape of values. -/
theorem protect_attribute {a : Attribute} (hname : IsName a.name)
    (hvalue : ∀ v ∈ a.value, ∃ cs, Escape.Encodes v.toList cs) : protect a.spell = a.write := by
  obtain ⟨name, value⟩ := a
  rw [Attribute.spell, Attribute.write, List.cons_append, protect_cons (by decide), protect_append,
    protect_name hname]
  cases value with
  | none => rfl
  | some v =>
    obtain ⟨cs, hcs⟩ := hvalue v rfl
    simp only [protect_append, protect_eq_escaped hcs.plain, Escape.toList_html]
    rfl

theorem protect_attributes {attributes : List Attribute} (hnamed : Named attributes)
    (hvalues : ∀ a ∈ attributes, ∀ v ∈ a.value, ∃ cs, Escape.Encodes v.toList cs) :
    protect (attributes.flatMap Attribute.spell) = attributes.flatMap Attribute.write := by
  induction attributes with
  | nil => rfl
  | cons a attributes ih =>
    obtain ⟨ha, has⟩ := List.forall_mem_cons.mp hnamed
    obtain ⟨hv, hvs⟩ := List.forall_mem_cons.mp hvalues
    rw [List.flatMap_cons, List.flatMap_cons, protect_append, protect_attribute ha hv, ih has hvs]

theorem protect_spell {p : Piece} (hclean : p.Clean) (hencoded : p.Encoded) :
    protect p.spell = p.write := by
  cases p with
  | text s =>
    obtain ⟨cs, hcs⟩ := hencoded
    rw [Piece.spell, Piece.write, Escape.toList_html, protect_eq_escaped hcs.plain]
  | closing name =>
    rw [Piece.spell, Piece.write, protect_append, protect_append, protect_name hclean]
    rfl
  | opening name attributes =>
    rw [Piece.spell, Piece.write, List.cons_append, List.cons_append, protect_cons (by decide),
      protect_append, protect_append, protect_name hclean.1, protect_attributes hclean.2 hencoded]
    rfl

/-- Texts that stand in a document as they are, protected, are what HTML has of them. -/
theorem protect_spells {raw : List Piece} (h : ∀ p ∈ raw, p.Clean ∧ p.Encoded) :
    protect (raw.flatMap Piece.spell) = write raw := by
  induction raw with
  | nil => rfl
  | cons p raw ih =>
    obtain ⟨⟨hclean, hencoded⟩, hraw⟩ := List.forall_mem_cons.mp h
    rw [List.flatMap_cons, protect_append, protect_spell hclean hencoded, ih hraw]
    rfl

/-! ### Replaced references -/

theorem flatMap_closed_chars (cs : List Char) :
    (cs.map Lexeme.char).flatMap Lexeme.closed = cs.map Lexeme.char := by
  induction cs with
  | nil => rfl
  | cons c cs ih => rw [List.map_cons, List.flatMap_cons, ih]; rfl

theorem replaceReferences_chars (cs run : List Char) (ls : List Lexeme) :
    replaceReferences run (cs.map Lexeme.char ++ ls) =
      replaceReferences (cs.reverse ++ run) ls := by
  induction cs generalizing run with
  | nil => rfl
  | cons c cs ih =>
    rw [List.map_cons, List.cons_append, replaceReferences, ih, List.reverse_cons,
      List.append_assoc, List.singleton_append]

/-- References are replaced piece by piece, whatever text stands before the pieces.  The induction
is on the pieces; a text joins the text before it. -/
theorem replaceReferences_from {raw : List Piece} (h : ∀ p ∈ raw, p.Encoded)
    {run cs : List Char} (hrun : Escape.Encodes run.reverse cs) :
    (replaceReferences run (raw.flatMap Piece.lexemes)).flatMap Lexeme.closed =
      cs.map Lexeme.char ++ (raw.flatMap Piece.decoded).flatMap Piece.lexemes := by
  induction raw generalizing run cs with
  | nil =>
    rw [List.flatMap_nil, replaceReferences, decodedCharacters, hrun.decode_eq,
      flatMap_closed_chars, List.flatMap_nil, List.flatMap_nil, List.append_nil]
  | cons p raw ih =>
    obtain ⟨hp, hraw⟩ := List.forall_mem_cons.mp h
    rw [List.flatMap_cons, List.flatMap_cons, List.flatMap_append]
    have htag := ih hraw (show Escape.Encodes (List.reverse []) [] from .nil)
    cases p with
    | text s =>
      obtain ⟨ds, hds⟩ := hp
      have hjoin : Escape.Encodes (s.toList.reverse ++ run).reverse (cs ++ ds) := by
        rw [List.reverse_append, List.reverse_reverse]
        exact hrun.append hds
      rw [Piece.lexemes, replaceReferences_chars, ih hraw hjoin, List.map_append, List.append_assoc,
        Piece.decoded, hds.decode_eq, List.flatMap_singleton, Piece.lexemes, String.toList_ofList]
    | closing name =>
      rw [Piece.lexemes, List.singleton_append, replaceReferences, decodedCharacters,
        hrun.decode_eq, List.flatMap_append, flatMap_closed_chars, List.flatMap_cons, htag]
      rfl
    | opening name attributes =>
      rw [Piece.lexemes, List.singleton_append, replaceReferences, decodedCharacters,
        hrun.decode_eq, List.flatMap_append, flatMap_closed_chars, List.flatMap_cons, htag]
      have hclosed : Lexeme.closed (.opening name (attributes.map Attribute.decoded)) =
          (Piece.decoded (.opening name attributes)).flatMap Piece.lexemes := by
        rw [Lexeme.closed, Piece.decoded, List.flatMap_cons]
        split <;> rfl
      rw [hclosed]
      rfl

/-! ## Documents -/

/-- The text is that of the items as it can stand in a document. -/
def Spelling (items : List Item) (text : List Char) : Prop :=
  ∃ raw : List Piece, text = raw.flatMap Piece.spell ∧ (∀ p ∈ raw, p.Clean ∧ p.Encoded) ∧
    Spells items (raw.flatMap Piece.decoded)

/-- An attribute as it stands, and what is read of it. -/
structure Attribute.Encodes (raw a : Attribute) : Prop where
  isName : IsName raw.name
  encoded : ∀ v ∈ raw.value, ∃ cs, Escape.Encodes v.toList cs
  decoded : raw.decoded = a

theorem Attribute.Encodes.mk_some {name raw value : String} (hname : IsName name)
    (h : Escape.Encodes raw.toList value.toList) :
    Attribute.Encodes ⟨name, some raw⟩ ⟨name, some value⟩ where
  isName := hname
  encoded := by
    rintro v ⟨⟩
    exact ⟨_, h⟩
  decoded := by rw [Attribute.decoded, Option.map_some, h.decode_eq, String.ofList_toList]

/-- A value that stands for itself. -/
theorem Attribute.Encodes.fixed {name value : String} (hname : IsName name)
    (h : value.toList.all fun c => (Escape.entity? c).isNone) :
    Attribute.Encodes ⟨name, some value⟩ ⟨name, some value⟩ :=
  .mk_some hname (.fixed h)

/-- A value of which the beginning stands for itself, and the rest fills a gap. -/
theorem Attribute.Encodes.gap {name start : String} (hname : IsName name)
    (h : start.toList.all fun c => (Escape.entity? c).isNone) (s : String) :
    Attribute.Encodes ⟨name, some (start ++ Escape.slot s)⟩ ⟨name, some (start ++ s)⟩ := by
  refine .mk_some hname ?_
  rw [String.toList_append, String.toList_append]
  exact (Escape.Encodes.fixed h).append (.slot s)

theorem Attribute.Encodes.of_forall₂ {raws attributes : List Attribute}
    (h : List.Forall₂ Attribute.Encodes raws attributes) :
    raws.map Attribute.decoded = attributes ∧ Named raws ∧
      ∀ a ∈ raws, ∀ v ∈ a.value, ∃ cs, Escape.Encodes v.toList cs := by
  induction h with
  | nil => exact ⟨rfl, .nil, by simp⟩
  | cons ha _ ih =>
    obtain ⟨hdecoded, hnamed, hencoded⟩ := ih
    exact ⟨by rw [List.map_cons, ha.decoded, hdecoded],
      List.forall_mem_cons.mpr ⟨ha.isName, hnamed⟩,
      List.forall_mem_cons.mpr ⟨ha.encoded, hencoded⟩⟩

theorem named_decoded {attributes : List Attribute} (h : Named attributes) :
    Named (attributes.map Attribute.decoded) :=
  List.forall_mem_map.mpr h

namespace Spelling

variable {items items' : List Item} {text text' : List Char} {name : String}
  {raws attributes : List Attribute}

theorem nil : Spelling [] [] := ⟨[], rfl, by simp, .nil⟩

theorem append (h : Spelling items text) (h' : Spelling items' text') :
    Spelling (items ++ items') (text ++ text') := by
  obtain ⟨raw, rfl, hraw, hspells⟩ := h
  obtain ⟨raw', rfl, hraw', hspells'⟩ := h'
  refine ⟨raw ++ raw', by rw [List.flatMap_append], List.forall_mem_append.mpr ⟨hraw, hraw'⟩, ?_⟩
  rw [List.flatMap_append]
  exact hspells.append hspells'

theorem cons {item : Item} (h : Spelling [item] text) (h' : Spelling items' text') :
    Spelling (item :: items') (text ++ text') :=
  h.append h'

theorem flatMap {α : Type} {items : α → List Item} {text : α → List Char} {as : List α}
    (h : ∀ a ∈ as, Spelling (items a) (text a)) :
    Spelling (as.flatMap items) (as.flatMap text) := by
  induction as with
  | nil => exact nil
  | cons a as ih =>
    obtain ⟨ha, has⟩ := List.forall_mem_cons.mp h
    exact ha.append (ih has)

theorem of_eq (h : Spelling items text) (heq : text' = text) : Spelling items text' := by
  rw [heq]
  exact h

theorem ofText {raw s : String} (h : Escape.Encodes raw.toList s.toList) :
    Spelling (Item.ofText s) raw.toList := by
  have hclean : ∀ p ∈ [Piece.text raw], p.Clean ∧ p.Encoded := by
    simpa [Piece.Clean, Piece.Encoded] using ⟨_, h⟩
  refine ⟨[.text raw], by simp [Piece.spell], hclean, ?_⟩
  rw [List.flatMap_singleton, Piece.decoded, h.decode_eq, String.ofList_toList]
  exact .text s

/-- An element with some content. -/
theorem element (hname : IsName name) (hvoid : isVoid name = false)
    (hattributes : List.Forall₂ Attribute.Encodes raws attributes) (h : Spelling items text) :
    Spelling [.element name attributes items]
      ('<' :: name.toList ++ raws.flatMap Attribute.spell ++ ['>'] ++ text ++
        ("</".toList ++ name.toList ++ ['>'])) := by
  obtain ⟨raw, rfl, hraw, hspells⟩ := h
  obtain ⟨rfl, hnamed, hencoded⟩ := Attribute.Encodes.of_forall₂ hattributes
  refine ⟨Html.element name raws raw, ?_, ?_, ?_⟩
  · simp [Html.element, Piece.spell]
  · intro p hp
    rw [Html.element, List.cons_append, List.mem_cons, List.mem_append, List.mem_singleton] at hp
    rcases hp with rfl | hp | rfl
    · exact ⟨⟨hname, hnamed⟩, hencoded⟩
    · exact hraw p hp
    · exact ⟨hname, trivial⟩
  · have hpieces : (Html.element name raws raw).flatMap Piece.decoded =
        Html.element name (raws.map Attribute.decoded) (raw.flatMap Piece.decoded) := by
      simp [Html.element, Piece.decoded, hvoid]
    rw [hpieces]
    exact .element hname (named_decoded hnamed) hspells

/-- An element that is never closed. -/
theorem void (hname : IsName name) (hvoid : isVoid name = true)
    (hattributes : List.Forall₂ Attribute.Encodes raws attributes) :
    Spelling [.element name attributes []]
      ('<' :: name.toList ++ raws.flatMap Attribute.spell ++ ['>']) := by
  obtain ⟨rfl, hnamed, hencoded⟩ := Attribute.Encodes.of_forall₂ hattributes
  refine ⟨[.opening name raws], by simp [Piece.spell], ?_, ?_⟩
  · intro p hp
    rw [List.mem_singleton.mp hp]
    exact ⟨⟨hname, hnamed⟩, hencoded⟩
  · have hpieces : [Piece.opening name raws].flatMap Piece.decoded =
        Html.element name (raws.map Attribute.decoded) [] := by
      simp [Html.element, Piece.decoded, hvoid]
    rw [hpieces]
    exact .element hname (named_decoded hnamed) .nil

/-- **Documents are read back.** -/
theorem readDocument (h : Spelling items text) :
    Html.readDocument (String.ofList (doctype ++ text)) = some items := by
  obtain ⟨raw, rfl, hraw, hspells⟩ := h
  have hprefix : doctype.isPrefixOf (doctype ++ raw.flatMap Piece.spell) = true :=
    List.isPrefixOf_iff_prefix.mpr (List.prefix_append _ _)
  have hreplaced := replaceReferences_from (fun p hp => (hraw p hp).2)
    (show Escape.Encodes (List.reverse []) [] from .nil)
  have hassemble := hspells.assemble [] [] []
  rw [List.append_nil, List.append_nil] at hassemble
  rw [Html.readDocument, String.toList_ofList, if_pos hprefix, List.drop_left,
    protect_spells hraw, lexemes_write fun p hp => (hraw p hp).1]
  change assemble [] [] _ = _
  rw [hreplaced, List.map_nil, List.nil_append, hassemble, assemble, List.reverse_reverse]

end Spelling

/-! ## Markup in documents -/

def Attribute.escaped (a : Attribute) : Attribute := ⟨a.name, a.value.map Escape.html⟩

namespace Piece

/-- The piece with its texts as the HTML of markup has them. -/
def escaped : Piece → Piece
  | opening name attributes => opening name (attributes.map Attribute.escaped)
  | closing name => closing name
  | text s => text (Escape.html s)

/-- The piece is not the tag of an element that is never closed. -/
def NotVoid : Piece → Prop
  | opening name _ => isVoid name = false
  | _ => True

theorem spell_escaped (p : Piece) : p.escaped.spell = p.write := by
  cases p with
  | text s => rfl
  | closing name => rfl
  | opening name attributes =>
    have hspell : ∀ a : Attribute, a.escaped.spell = a.write := by
      rintro ⟨name, _ | v⟩ <;> rfl
    simp only [escaped, spell, write, List.flatMap_map, hspell]

theorem encoded_escaped (p : Piece) : p.escaped.Encoded := by
  cases p with
  | text s => exact ⟨_, Escape.Encodes.html s⟩
  | closing name => trivial
  | opening name attributes =>
    refine List.forall_mem_map.mpr fun a _ v hv => ?_
    obtain ⟨w, -, rfl⟩ := Option.map_eq_some_iff.mp hv
    exact ⟨_, Escape.Encodes.html w⟩

theorem Clean.escaped {p : Piece} (h : p.Clean) : p.escaped.Clean := by
  cases p with
  | text s => trivial
  | closing name => exact h
  | opening name attributes => exact ⟨h.1, List.forall_mem_map.mpr h.2⟩

theorem NotVoid.decoded_escaped {p : Piece} (h : p.NotVoid) : p.escaped.decoded = [p] := by
  cases p with
  | text s =>
    rw [Piece.escaped, decoded, (Escape.Encodes.html s).decode_eq, String.ofList_toList]
  | closing name => rfl
  | opening name attributes =>
    have hdecoded : Attribute.decoded ∘ Attribute.escaped = id := by
      funext ⟨name, value⟩
      cases value with
      | none => rfl
      | some v => simp [Attribute.escaped, Attribute.decoded, (Escape.Encodes.html v).decode_eq]
    have hvoid : isVoid name = false := h
    simp [Piece.escaped, decoded, hvoid, hdecoded]

end Piece

/-- No piece is the tag of an element that is never closed. -/
def AllClosed (pieces : List Piece) : Prop := ∀ p ∈ pieces, p.NotVoid

namespace AllClosed

theorem nil : AllClosed [] := nofun

theorem append {a b : List Piece} (ha : AllClosed a) (hb : AllClosed b) : AllClosed (a ++ b) :=
  List.forall_mem_append.mpr ⟨ha, hb⟩

theorem text (s : String) : AllClosed [.text s] := by
  intro p hp
  rw [List.mem_singleton.mp hp]
  trivial

theorem element {name : String} (hvoid : isVoid name = false) (attributes : List Attribute)
    {inner : List Piece} (h : AllClosed inner) : AllClosed (element name attributes inner) := by
  intro p hp
  rw [Html.element, List.cons_append, List.mem_cons, List.mem_append, List.mem_singleton] at hp
  rcases hp with rfl | hp | rfl
  · exact hvoid
  · exact h p hp
  · trivial

end AllClosed

/-- Pieces that spell items do so in a document, too. -/
theorem Spells.spelling {items : List Item} {pieces : List Piece} (h : Spells items pieces)
    (hvoid : AllClosed pieces) : Spelling items (write pieces) := by
  refine ⟨pieces.map Piece.escaped, ?_, List.forall_mem_map.mpr fun p hp =>
    ⟨(h.clean p hp).escaped, p.encoded_escaped⟩, ?_⟩
  · simp only [write, List.flatMap_map, Piece.spell_escaped]
  · have hpieces : (pieces.map Piece.escaped).flatMap Piece.decoded = pieces := by
      clear h
      induction pieces with
      | nil => rfl
      | cons p pieces ih =>
        obtain ⟨hp, hpieces⟩ := List.forall_mem_cons.mp hvoid
        rw [List.map_cons, List.flatMap_cons, hp.decoded_escaped, ih hpieces, List.singleton_append]
    rw [hpieces]
    exact h

theorem isVoid_headingElement (level : UInt8) : isVoid (headingElement level) = false := by
  rcases Nat.lt_or_ge level.toNat 6 with h | h
  · have hsmall : ∀ n < 6, isVoid (["h1", "h1", "h2", "h3", "h4", "h5"].getD n "h6") = false := by
      decide
    exact hsmall level.toNat h
  · rw [headingElement_of_le h]
    decide

end Html

open Html

mutual

/-- All elements of markup are closed. -/
theorem Node.allClosed : ∀ n : Node, AllClosed n.pieces
  | .text s => .text s
  | .keyword s | .pre s => .element (by decide) _ (.text s)
  | .anchor _ => .element (by decide) _ .nil
  | .link _ ns | .span _ ns | .code ns | .emphasis ns | .bold ns | .paragraph ns | .div _ _ ns =>
    .element (by decide) _ (Markup.allClosed ns)
  | .heading level id ns => by
    rw [Node.pieces, headingName_eq]
    exact .element (isVoid_headingElement level) _ (Markup.allClosed ns)
  | .list ordered items => by
    have hvoid : isVoid (listName ordered) = false := by cases ordered <;> decide
    exact .element hvoid _ (Node.allClosed_items items)
  | .table _ rows => .element (by decide) _ (Row.allClosed rows)
  | .details _ summary body =>
    .element (by decide) _
      (.append (.element (by decide) _ (Markup.allClosed summary)) (Markup.allClosed body))

@[inherit_doc Node.allClosed]
theorem Markup.allClosed : ∀ ns : List Node, AllClosed (Markup.pieces ns)
  | [] => .nil
  | n :: ns => .append (Node.allClosed n) (Markup.allClosed ns)

@[inherit_doc Node.allClosed]
theorem Node.allClosed_items : ∀ items : List (List Node), AllClosed (Node.piecesOfItems items)
  | [] => .nil
  | ns :: items =>
    .append (.element (by decide) _ (Markup.allClosed ns)) (Node.allClosed_items items)

@[inherit_doc Node.allClosed]
theorem Row.allClosed : ∀ rows : List Row, AllClosed (Row.pieces rows)
  | [] => .nil
  | .mk _ cells :: rows =>
    .append (.element (by decide) _ (Cell.allClosed cells)) (Row.allClosed rows)

@[inherit_doc Node.allClosed]
theorem Cell.allClosed : ∀ cells : List Cell, AllClosed (Cell.pieces cells)
  | [] => .nil
  | .mk _ ns :: cells =>
    .append (.element (by decide) _ (Markup.allClosed ns)) (Cell.allClosed cells)

end

/-- The HTML of markup is read in a document as it is read by itself. -/
theorem Markup.spelling (ns : Markup) : Spelling (Markup.items ns) (Markup.toHtml ns).toList := by
  rw [Markup.toHtml, String.toList_ofList]
  exact (Markup.spells ns).spelling (Markup.allClosed ns)

end DocSite
