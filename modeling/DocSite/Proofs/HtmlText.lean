import DocSite.Markup.Html
import DocSite.Proofs.Entities

/-!
# Reading HTML

A reader for HTML that knows nothing of markup.  A tag goes from `<` to the next `>`, whatever is
between them; everything else is character data.  A tag is read as the name of an element and its
attributes, and character data, like the value of an attribute, is decoded.

The reader gives one lexeme for each tag and one for each character, since how a text was cut into
pieces is not seen in what is written.  The main result is `lexemes_write`: pieces whose names are
names are read back as they were, with any text at all in them.
-/

namespace DocSite.Html

/-! ## The reader -/

/-- The characters of the names of elements and attributes. -/
def isNameChar (c : Char) : Bool := c.isAlphanum

/-- What is read: a tag, or a character between tags. -/
inductive Lexeme where
  | opening (name : String) (attributes : List Attribute)
  | closing (name : String)
  | char (c : Char)

/-- Where the reader of attributes stands: before an attribute, in its name, behind the equals sign
or in its value.  What was read of a name or value is kept last character first. -/
inductive Place where
  | before
  | name (read : List Char)
  | quote (name : List Char)
  | value (name read : List Char)

/-- The attribute, unless its name is empty. -/
def attribute? (name : List Char) (value : Option (List Char)) : Option Attribute :=
  if name.isEmpty then none
  else
    some ⟨String.ofList name.reverse,
      value.map fun v => String.ofList (Escape.decode Escape.named? v.reverse)⟩

/-- The attributes of an opening tag, each with one blank before it. -/
def readAttributes : Place → List Char → Option (List Attribute)
  | .before, [] => some []
  | .before, c :: cs => if c = ' ' then readAttributes (.name []) cs else none
  | .name read, [] => return [← attribute? read none]
  | .name read, c :: cs =>
    if isNameChar c then readAttributes (.name (c :: read)) cs
    else if c = '=' then readAttributes (.quote read) cs
    else if c = ' ' then return (← attribute? read none) :: (← readAttributes (.name []) cs)
    else none
  | .quote _, [] | .value _ _, [] => none
  | .quote name, c :: cs => if c = '"' then readAttributes (.value name []) cs else none
  | .value name read, c :: cs =>
    if c = '"' then return (← attribute? name (some read)) :: (← readAttributes .before cs)
    else readAttributes (.value name (c :: read)) cs

/-- What stands between `<` and `>`. -/
def readTag : List Char → Option Lexeme
  | '/' :: name =>
    if !name.isEmpty && name.all isNameChar then some (.closing (String.ofList name)) else none
  | inside =>
    if (inside.takeWhile isNameChar).isEmpty then none
    else
      (readAttributes .before (inside.dropWhile isNameChar)).map
        (.opening (String.ofList (inside.takeWhile isNameChar)))

/-- Where the reader stands: in character data or in a tag.  What was read of them is kept last
character first. -/
inductive Mode where
  | data (read : List Char)
  | tag (read : List Char)

/-- The characters of a run of character data. -/
def characters (run : List Char) : List Lexeme := (Escape.decode Escape.named? run).map Lexeme.char

/-- The tags and characters of a text, if every tag in it is one and is closed. -/
def lexemes : Mode → List Char → Option (List Lexeme)
  | .data read, [] => some (characters read.reverse)
  | .data read, c :: cs =>
    if c = '<' then return characters read.reverse ++ (← lexemes (.tag []) cs)
    else lexemes (.data (c :: read)) cs
  | .tag _, [] => none
  | .tag read, c :: cs =>
    if c = '>' then return (← readTag read.reverse) :: (← lexemes (.data []) cs)
    else lexemes (.tag (c :: read)) cs

/-- The text without its tags. -/
def withoutTags (inTag : Bool) : List Char → List Char
  | [] => []
  | c :: cs =>
    if inTag then withoutTags (c != '>') cs
    else if c = '<' then withoutTags true cs
    else c :: withoutTags false cs

/-! ## Names -/

/-- The text can be the name of an element or an attribute. -/
def IsName (s : String) : Prop := s.toList ≠ [] ∧ ∀ c ∈ s.toList, isNameChar c = true

instance (s : String) : Decidable (IsName s) :=
  decidable_of_iff (s.toList ≠ [] ∧ s.toList.all isNameChar = true)
    (and_congr_right fun _ => List.all_eq_true)

/-- The attributes have names. -/
def Named (attributes : List Attribute) : Prop := ∀ a ∈ attributes, IsName a.name

namespace Named

theorem nil : Named [] := nofun

theorem cons {name : String} {value : Option String} {attributes : List Attribute}
    (hname : IsName name) (h : Named attributes) : Named (⟨name, value⟩ :: attributes) :=
  List.forall_mem_cons.mpr ⟨hname, h⟩

end Named

/-- The names in a piece are names. -/
def Piece.Clean : Piece → Prop
  | opening name attributes => IsName name ∧ Named attributes
  | closing name => IsName name
  | text _ => True

/-! ## Attributes -/

theorem attribute?_reverse {s : String} (h : IsName s) (value : Option (List Char)) :
    attribute? s.toList.reverse (value.map List.reverse) =
      some ⟨s, value.map fun v => String.ofList (Escape.decode Escape.named? v)⟩ := by
  have hne : s.toList.reverse.isEmpty = false := by simpa using h.1
  cases value <;> simp [attribute?, hne]

/-- A name is read as a whole. -/
theorem readAttributes_name {name : List Char} (h : ∀ c ∈ name, isNameChar c = true)
    (read cs : List Char) :
    readAttributes (.name read) (name ++ cs) =
      readAttributes (.name (name.reverse ++ read)) cs := by
  induction name generalizing read with
  | nil => rfl
  | cons c name ih =>
    rw [List.forall_mem_cons] at h
    rw [List.cons_append, readAttributes, if_pos h.1, ih h.2, List.reverse_cons, List.append_assoc,
      List.singleton_append]

/-- A value is read up to its quote. -/
theorem readAttributes_value {value : List Char} (h : '"' ∉ value) (name read cs : List Char) :
    readAttributes (.value name read) (value ++ cs) =
      readAttributes (.value name (value.reverse ++ read)) cs := by
  induction value generalizing read with
  | nil => rfl
  | cons c value ih =>
    rw [List.mem_cons, not_or] at h
    rw [List.cons_append, readAttributes, if_neg (Ne.symm h.1), ih h.2, List.reverse_cons,
      List.append_assoc, List.singleton_append]

/-- A name without a value ends where the attribute does. -/
theorem readAttributes_bare {name : String} (h : IsName name) (attributes : List Attribute) :
    readAttributes (.name name.toList.reverse) (attributes.flatMap Attribute.write) =
      (readAttributes .before (attributes.flatMap Attribute.write)).map (⟨name, none⟩ :: ·) := by
  have hattribute : attribute? name.toList.reverse none = some ⟨name, none⟩ :=
    attribute?_reverse h none
  cases attributes with
  | nil =>
    simp only [List.flatMap_nil, readAttributes, hattribute]
    rfl
  | cons a attributes =>
    have hblank : isNameChar ' ' = false := by decide
    simp only [List.flatMap_cons, Attribute.write, List.cons_append, readAttributes, hblank,
      hattribute]
    cases readAttributes (.name []) _ <;> rfl

/-- One attribute in front of others is read as it is. -/
theorem readAttributes_write_append {a : Attribute} (h : IsName a.name)
    (attributes : List Attribute) :
    readAttributes .before (a.write ++ attributes.flatMap Attribute.write) =
      (readAttributes .before (attributes.flatMap Attribute.write)).map (a :: ·) := by
  obtain ⟨name, value⟩ := a
  cases value with
  | none =>
    change readAttributes (.name []) ((name.toList ++ []) ++ _) = _
    rw [List.append_nil, readAttributes_name h.2, List.append_nil, readAttributes_bare h]
  | some v =>
    have hquote : '"' ∉ Escape.escaped v.toList := Escape.not_mem_escaped (by decide) _
    have hequals : isNameChar '=' = false := by decide
    have hattribute := attribute?_reverse h (some (Escape.escaped v.toList))
    rw [Option.map_some, Option.map_some, Escape.decode_escaped, String.ofList_toList] at hattribute
    have hwrite : Attribute.write ⟨name, some v⟩ ++ attributes.flatMap Attribute.write =
        ' ' :: (name.toList ++ '=' :: '"' ::
          (Escape.escaped v.toList ++ '"' :: attributes.flatMap Attribute.write)) := by
      simp [Attribute.write, Escape.toList_html]
    rw [hwrite, readAttributes, if_pos rfl, readAttributes_name h.2, List.append_nil,
      readAttributes, hequals]
    simp only [Bool.false_eq_true, if_false, if_true]
    rw [readAttributes, if_pos rfl, readAttributes_value hquote, List.append_nil, readAttributes,
      if_pos rfl, hattribute]
    cases readAttributes .before _ <;> rfl

/-- Attributes are read back as they were, whatever their values are. -/
theorem readAttributes_write {attributes : List Attribute} (h : Named attributes) :
    readAttributes .before (attributes.flatMap Attribute.write) = some attributes := by
  induction attributes with
  | nil => rfl
  | cons a attributes ih =>
    obtain ⟨ha, hattributes⟩ := List.forall_mem_cons.mp h
    rw [List.flatMap_cons, readAttributes_write_append ha, ih hattributes, Option.map_some]

/-! ## Tags -/

namespace Piece

/-- What stands between the brackets of a tag. -/
def inside : Piece → List Char
  | opening name attributes => name.toList ++ attributes.flatMap Attribute.write
  | closing name => '/' :: name.toList
  | text _ => []

/-- The text of a piece, if it is no tag. -/
def chars : Piece → List Char
  | text s => s.toList
  | _ => []

/-- What a piece is read as. -/
def lexemes : Piece → List Lexeme
  | opening name attributes => [.opening name attributes]
  | closing name => [.closing name]
  | text s => s.toList.map Lexeme.char

end Piece

theorem IsName.readTag_closing {name : String} (h : IsName name) :
    readTag ('/' :: name.toList) = some (.closing name) := by
  have hne : name.toList.isEmpty = false := by simpa using h.1
  have hall : name.toList.all isNameChar = true := List.all_eq_true.mpr h.2
  simp [readTag, hne, hall]

/-- Behind the name of a tag comes a blank or nothing. -/
theorem takeWhile_write (attributes : List Attribute) :
    (attributes.flatMap Attribute.write).takeWhile isNameChar = [] ∧
      (attributes.flatMap Attribute.write).dropWhile isNameChar =
        attributes.flatMap Attribute.write := by
  cases attributes with
  | nil => exact ⟨rfl, rfl⟩
  | cons a attributes => exact ⟨rfl, rfl⟩

theorem IsName.readTag_opening {name : String} (h : IsName name) {attributes : List Attribute}
    (hattributes : Named attributes) :
    readTag (name.toList ++ attributes.flatMap Attribute.write) =
      some (.opening name attributes) := by
  have htake : (name.toList ++ attributes.flatMap Attribute.write).takeWhile isNameChar =
      name.toList := by
    rw [List.takeWhile_append_of_pos h.2, (takeWhile_write attributes).1, List.append_nil]
  have hdrop : (name.toList ++ attributes.flatMap Attribute.write).dropWhile isNameChar =
      attributes.flatMap Attribute.write := by
    rw [List.dropWhile_append_of_pos h.2, (takeWhile_write attributes).2]
  have hne : name.toList.isEmpty = false := by simpa using h.1
  unfold readTag
  split
  case h_1 rest heq =>
    -- a slash is no character of a name
    obtain ⟨c, cs, hcs⟩ := List.exists_cons_of_ne_nil h.1
    rw [hcs, List.cons_append] at heq
    have hc : isNameChar c = true := h.2 c (by rw [hcs]; exact List.mem_cons_self)
    rw [(List.cons.inj heq).1] at hc
    exact absurd hc (by decide)
  case h_2 =>
    rw [htake, hdrop, hne, readAttributes_write hattributes, String.ofList_toList]
    rfl

theorem gt_not_mem_of_isName {s : String} (h : IsName s) : '>' ∉ s.toList :=
  fun hmem => absurd (h.2 '>' hmem) (by decide)

theorem gt_not_mem_write {a : Attribute} (h : IsName a.name) : '>' ∉ a.write := by
  obtain ⟨name, value⟩ := a
  have hname := gt_not_mem_of_isName h
  cases value with
  | none => simpa [Attribute.write] using hname
  | some v =>
    have hvalue : '>' ∉ Escape.escaped v.toList := Escape.not_mem_escaped (by decide) _
    simpa [Attribute.write, Escape.toList_html, hvalue] using hname

namespace Piece

/-- **Tags.**  A piece with clean names is a text, or a tag that ends at the first `>` and is read
back as it was. -/
theorem Clean.text_or_tag {p : Piece} (h : p.Clean) :
    (∃ s, p = text s) ∨
      p.write = '<' :: (p.inside ++ ['>']) ∧ '>' ∉ p.inside ∧ p.chars = [] ∧
        ∃ l, readTag p.inside = some l ∧ p.lexemes = [l] := by
  cases p with
  | text s => exact .inl ⟨s, rfl⟩
  | closing name =>
    have hname := gt_not_mem_of_isName h
    exact .inr ⟨rfl, by simpa [inside] using hname, rfl, _, h.readTag_closing, rfl⟩
  | opening name attributes =>
    obtain ⟨hname, hattributes⟩ := h
    refine .inr ⟨by simp [write, inside], ?_, rfl, _, hname.readTag_opening hattributes, rfl⟩
    rw [inside, List.mem_append, not_or, List.mem_flatMap]
    refine ⟨gt_not_mem_of_isName hname, ?_⟩
    rintro ⟨a, ha, hmem⟩
    exact gt_not_mem_write (hattributes a ha) hmem

end Piece

/-! ## Pieces -/

/-- Character data is read up to the next tag. -/
theorem lexemes_data {run : List Char} (h : '<' ∉ run) (read cs : List Char) :
    lexemes (.data read) (run ++ cs) = lexemes (.data (run.reverse ++ read)) cs := by
  induction run generalizing read with
  | nil => rfl
  | cons c run ih =>
    rw [List.mem_cons, not_or] at h
    rw [List.cons_append, lexemes, if_neg (Ne.symm h.1), ih h.2, List.reverse_cons,
      List.append_assoc, List.singleton_append]

/-- A tag is read up to the next `>`. -/
theorem lexemes_tag {inside : List Char} (h : '>' ∉ inside) (read cs : List Char) :
    lexemes (.tag read) (inside ++ '>' :: cs) = (do
      return (← readTag (read.reverse ++ inside)) :: (← lexemes (.data []) cs)) := by
  induction inside generalizing read with
  | nil => rw [List.nil_append, lexemes, if_pos rfl, List.append_nil]
  | cons c inside ih =>
    rw [List.mem_cons, not_or] at h
    rw [List.cons_append, lexemes, if_neg (Ne.symm h.1), ih h.2, List.reverse_cons,
      List.append_assoc, List.singleton_append]

/-- Pieces are read back, whatever text stands before them.  The induction is on the pieces; a text
is kept until the next tag or the end, so it joins the text before it. -/
theorem lexemes_write_from {pieces : List Piece} (h : ∀ p ∈ pieces, p.Clean) (before : List Char) :
    lexemes (.data (Escape.escaped before).reverse) (write pieces) =
      some (before.map Lexeme.char ++ pieces.flatMap Piece.lexemes) := by
  have hcharacters (cs : List Char) :
      characters (Escape.escaped cs).reverse.reverse = cs.map Lexeme.char := by
    rw [List.reverse_reverse, characters, Escape.decode_escaped]
  induction pieces generalizing before with
  | nil =>
    change some (characters _) = _
    rw [hcharacters, List.flatMap_nil, List.append_nil]
  | cons p pieces ih =>
    rw [List.forall_mem_cons] at h
    rw [write, List.flatMap_cons, List.flatMap_cons]
    rcases h.1.text_or_tag with ⟨s, rfl⟩ | ⟨hwrite, hinside, -, l, hread, hlexemes⟩
    · have hdata : '<' ∉ Escape.escaped s.toList := Escape.not_mem_escaped (by decide) _
      have hjoin := ih h.2 (before ++ s.toList)
      rw [Escape.escaped_append, List.reverse_append] at hjoin
      rw [Piece.write, Escape.toList_html, lexemes_data hdata]
      rw [write] at hjoin
      rw [hjoin, Piece.lexemes, List.map_append, List.append_assoc]
    · have hrest := ih h.2 []
      rw [hwrite, List.cons_append, List.append_assoc, lexemes, if_pos rfl, List.singleton_append,
        lexemes_tag hinside, hcharacters, hlexemes]
      rw [write] at hrest
      change lexemes (.data []) _ = _ at hrest
      rw [hrest, List.reverse_nil, List.nil_append, hread]
      rfl

/-- **Pieces are read back.**  Tags are read as the tags they were, and texts as their
characters. -/
theorem lexemes_write {pieces : List Piece} (h : ∀ p ∈ pieces, p.Clean) :
    lexemes (.data []) (write pieces) = some (pieces.flatMap Piece.lexemes) :=
  lexemes_write_from h []

/-! ## Text without tags -/

theorem withoutTags_tag {inside : List Char} (h : '>' ∉ inside) (cs : List Char) :
    withoutTags true (inside ++ '>' :: cs) = withoutTags false cs := by
  induction inside with
  | nil => rfl
  | cons c inside ih =>
    rw [List.mem_cons, not_or] at h
    have hne : (c != '>') = true := bne_iff_ne.mpr (Ne.symm h.1)
    rw [List.cons_append, withoutTags, if_pos rfl, hne, ih h.2]

theorem withoutTags_data {run : List Char} (h : '<' ∉ run) (cs : List Char) :
    withoutTags false (run ++ cs) = run ++ withoutTags false cs := by
  induction run with
  | nil => rfl
  | cons c run ih =>
    rw [List.mem_cons, not_or] at h
    rw [List.cons_append, withoutTags, if_neg (by decide), if_neg (Ne.symm h.1), ih h.2,
      List.cons_append]

/-- Without its tags, a text is what was escaped between them. -/
theorem withoutTags_write {pieces : List Piece} (h : ∀ p ∈ pieces, p.Clean) :
    withoutTags false (write pieces) = Escape.escaped (pieces.flatMap Piece.chars) := by
  induction pieces with
  | nil => rfl
  | cons p pieces ih =>
    rw [List.forall_mem_cons] at h
    rw [write, List.flatMap_cons, List.flatMap_cons, Escape.escaped_append, ← ih h.2, ← write]
    rcases h.1.text_or_tag with ⟨s, rfl⟩ | ⟨hwrite, hinside, hchars, -⟩
    · have hdata : '<' ∉ Escape.escaped s.toList := Escape.not_mem_escaped (by decide) _
      rw [Piece.write, Escape.toList_html, withoutTags_data hdata, Piece.chars]
    · rw [hwrite, List.cons_append, List.append_assoc, hchars]
      exact withoutTags_tag hinside _

end DocSite.Html
