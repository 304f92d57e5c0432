import DocSite.Markup.Escape

/-!
# Entities read back

`Escape.html` replaces five characters one after the other, all over the text.  That this is the
same as looking at each character once, `Escape.toList_html`, holds because the ampersand is
replaced first: no later replacement meets a character of an entity.

`Escape.decode` goes the other way, from left to right and without looking back.  It takes the table
of entities as an argument; `Escape.Undoes` says what such a table must do to undo an escape, and
`Escape.decode_escaped` that it then does, also where the text itself looks like an entity.  An
escaped text has no ampersand but those that begin the entity of a character,
`Escape.Undoes.flatMap_char_eq_append`.
-/

namespace DocSite.Escape

/-! ## One pass -/

/-- The characters as element content or attribute value. -/
def escaped (cs : List Char) : List Char := cs.flatMap (char entity?)

@[simp] theorem escaped_nil : escaped [] = [] := rfl

@[simp] theorem escaped_append (cs ds : List Char) :
    escaped (cs ++ ds) = escaped cs ++ escaped ds :=
  List.flatMap_append

/-- Replacing goes character by character, however many characters have been replaced before. -/
theorem foldl_substitute_flatMap (replaced : List (Char × String)) (cs : List Char)
    (f : Char → List Char) :
    replaced.foldl (fun cs stage => substitute stage.1 stage.2 cs) (cs.flatMap f) =
      cs.flatMap fun c => replaced.foldl (fun cs stage => substitute stage.1 stage.2 cs) (f c) := by
  induction replaced generalizing f with
  | nil => rfl
  | cons stage replaced ih =>
    have hstage : substitute stage.1 stage.2 (cs.flatMap f) =
        cs.flatMap fun c => substitute stage.1 stage.2 (f c) := List.flatMap_assoc
    rw [List.foldl_cons, hstage]
    exact ih _

theorem mem_stages {c : Char} {e : String} (h : entity? c = some e) : (c, e) ∈ stages := by
  unfold entity? at h
  split at h
  case h_6 => cases h
  all_goals
    cases h
    decide

theorem not_mem_of_entity?_eq_none {c : Char} (h : entity? c = none) :
    c ∉ ['&', '<', '>', '"', '\''] := by
  intro hmem
  simp only [List.mem_cons, List.not_mem_nil, or_false] at hmem
  rcases hmem with rfl | rfl | rfl | rfl | rfl <;> cases h

theorem substitute_singleton {c special : Char} (h : c ≠ special) (entity : String) :
    substitute special entity [c] = [c] := by
  change (if c = special then entity.toList else [c]) ++ [] = [c]
  rw [if_neg h, List.append_nil]

/-- The entity of a character has no character left to replace, and neither has a character without
one. -/
theorem foldl_substitute_singleton (c : Char) :
    stages.foldl (fun cs stage => substitute stage.1 stage.2 cs) [c] = char entity? c := by
  unfold char
  split
  case h_1 e he =>
    have hentity : ∀ special ∈ stages,
        stages.foldl (fun cs stage => substitute stage.1 stage.2 cs) [special.1] =
          special.2.toList := by
      decide
    exact hentity (c, e) (mem_stages he)
  case h_2 he =>
    have hplain := not_mem_of_entity?_eq_none he
    simp only [List.mem_cons, List.not_mem_nil, or_false, not_or] at hplain
    obtain ⟨hamp, hlt, hgt, hquot, hapos⟩ := hplain
    simp only [stages, List.foldl_cons, List.foldl_nil, substitute_singleton hamp,
      substitute_singleton hlt, substitute_singleton hgt, substitute_singleton hquot,
      substitute_singleton hapos]

/-- Five passes over a text are one. -/
theorem toList_html (s : String) : (html s).toList = escaped s.toList := by
  have hpass := foldl_substitute_flatMap stages s.toList (fun c => [c])
  rw [List.flatMap_singleton'] at hpass
  rw [html, String.toList_ofList, hpass]
  simp only [foldl_substitute_singleton]
  rfl

/-- What stands for a character begins no tag, ends none and ends no value. -/
theorem not_mem_of_mem_char {c d : Char} (h : d ∈ char entity? c) :
    d ∉ ['<', '>', '"', '\''] := by
  unfold char at h
  split at h
  case h_1 e he =>
    have hentity : ∀ special ∈ stages,
        special.2.toList.all fun d => d ∉ ['<', '>', '"', '\''] := by
      decide
    exact of_decide_eq_true (List.all_eq_true.mp (hentity (c, e) (mem_stages he)) d h)
  case h_2 he =>
    rw [List.mem_singleton.mp h]
    intro hmem
    exact not_mem_of_entity?_eq_none he (List.mem_cons_of_mem _ hmem)

theorem not_mem_escaped {d : Char} (hd : d ∈ ['<', '>', '"', '\'']) (cs : List Char) :
    d ∉ escaped cs := by
  intro hmem
  obtain ⟨c, -, hchar⟩ := List.mem_flatMap.mp hmem
  exact not_mem_of_mem_char hchar hd

/-! ## Decoding -/

/-- The text with its entities replaced, from left to right.  What has been read of an entity is
kept, last character first; if it turns out not to be one, it stands for itself. -/
def decodeFrom (named : List Char → Option Char) : Option (List Char) → List Char → List Char
  | none, [] => []
  | some name, [] => '&' :: name.reverse
  | none, c :: cs =>
    if c = '&' then decodeFrom named (some []) cs else c :: decodeFrom named none cs
  | some name, c :: cs =>
    if c = ';' then
      match named name.reverse with
      | some d => d :: decodeFrom named none cs
      | none => '&' :: name.reverse ++ ';' :: decodeFrom named none cs
    else if c = '&' then '&' :: name.reverse ++ decodeFrom named (some []) cs
    else decodeFrom named (some (c :: name)) cs

@[inherit_doc decodeFrom]
def decode (named : List Char → Option Char) (cs : List Char) : List Char :=
  decodeFrom named none cs

/-- The five entities of element content and attribute values, by what stands between the ampersand
and the semicolon. -/
def named? : List Char → Option Char
  | ['a', 'm', 'p'] => some '&'
  | ['l', 't'] => some '<'
  | ['g', 't'] => some '>'
  | ['q', 'u', 'o', 't'] => some '"'
  | ['#', 'x', '2', '7'] => some '\''
  | _ => none

/-- The names undo the table: every entity of it has a name, which stands for the character it is
the entity of, and a bare ampersand is never left. -/
structure Undoes (named : List Char → Option Char) (table : Char → Option String) : Prop where
  entity : ∀ {c e}, table c = some e →
    ∃ name, e.toList = '&' :: (name ++ [';']) ∧ '&' ∉ name ∧ ';' ∉ name ∧ named name = some c
  plain : ∀ {c}, table c = none → c ≠ '&'

theorem undoes_entity? : Undoes named? entity? where
  entity := by
    intro c e h
    have hnamed : ∀ special ∈ stages, ∃ name ∈ [special.2.toList.tail.dropLast],
        special.2.toList = '&' :: (name ++ [';']) ∧ '&' ∉ name ∧ ';' ∉ name ∧
          named? name = some special.1 := by
      decide
    obtain ⟨name, -, hname⟩ := hnamed (c, e) (mem_stages h)
    exact ⟨name, hname⟩
  plain := by
    rintro c h rfl
    cases h

section Decoding

variable {named : List Char → Option Char} {table : Char → Option String}

/-- The name of an entity is read as a whole. -/
theorem decodeFrom_name {name : List Char} (hamp : '&' ∉ name) (hsemi : ';' ∉ name)
    (read cs : List Char) :
    decodeFrom named (some read) (name ++ cs) =
      decodeFrom named (some (name.reverse ++ read)) cs := by
  induction name generalizing read with
  | nil => rfl
  | cons c name ih =>
    rw [List.mem_cons, not_or] at hamp hsemi
    have hstep : decodeFrom named (some read) (c :: (name ++ cs)) =
        decodeFrom named (some (c :: read)) (name ++ cs) := by
      rw [decodeFrom, if_neg (Ne.symm hsemi.1), if_neg (Ne.symm hamp.1)]
    rw [List.cons_append, hstep, ih hamp.2 hsemi.2, List.reverse_cons, List.append_assoc,
      List.singleton_append]

/-- What stands for a character is read as that character. -/
theorem Undoes.decode_char (h : Undoes named table) (c : Char) (cs : List Char) :
    decode named (char table c ++ cs) = c :: decode named cs := by
  unfold char
  split
  case h_1 e he =>
    obtain ⟨name, hlist, hamp, hsemi, hnamed⟩ := h.entity he
    rw [hlist, List.cons_append, List.append_assoc]
    change decodeFrom named (some []) (name ++ ';' :: cs) = _
    rw [decodeFrom_name hamp hsemi, decodeFrom, if_pos rfl, List.append_nil, List.reverse_reverse,
      hnamed]
    rfl
  case h_2 he =>
    change decodeFrom named none (c :: cs) = _
    rw [decodeFrom, if_neg (h.plain he)]
    rfl

theorem Undoes.decode_flatMap (h : Undoes named table) (cs rest : List Char) :
    decode named (cs.flatMap (char table) ++ rest) = cs ++ decode named rest := by
  induction cs with
  | nil => rfl
  | cons c cs ih => rw [List.flatMap_cons, List.append_assoc, h.decode_char, ih, List.cons_append]

/-- What stands for a character has no ampersand but the one that an entity begins with. -/
theorem Undoes.char_eq_append (h : Undoes named table) {c : Char} {before after : List Char}
    (hchar : char table c = before ++ '&' :: after) :
    before = [] ∧ ∃ entity, table c = some entity ∧ entity.toList = '&' :: after := by
  unfold char at hchar
  split at hchar
  case h_1 e he =>
    obtain ⟨name, hlist, hamp, -, -⟩ := h.entity he
    rw [hlist] at hchar
    cases before with
    | nil => exact ⟨rfl, e, he, hlist.trans hchar⟩
    | cons b before =>
      have hrest : name ++ [';'] = before ++ '&' :: after := (List.cons.inj hchar).2
      have hmem : '&' ∈ name ++ [';'] := hrest ▸ List.mem_append_right _ List.mem_cons_self
      rcases List.mem_append.mp hmem with hname | hsemi
      · exact absurd hname hamp
      · exact absurd (List.mem_singleton.mp hsemi) (by decide)
  case h_2 he =>
    have hmem : '&' ∈ [c] := hchar ▸ List.mem_append_right _ List.mem_cons_self
    exact absurd (List.mem_singleton.mp hmem).symm (h.plain he)

/-- Every ampersand of an escaped text begins the entity of a character, with the escaped characters
before that one to its left and those after it to its right. -/
theorem Undoes.flatMap_char_eq_append (h : Undoes named table) {cs before after : List Char}
    (hcs : cs.flatMap (char table) = before ++ '&' :: after) :
    ∃ read c unread entity, cs = read ++ c :: unread ∧ table c = some entity ∧
      before = read.flatMap (char table) ∧
      '&' :: after = entity.toList ++ unread.flatMap (char table) := by
  induction cs generalizing before with
  | nil =>
    rw [List.flatMap_nil] at hcs
    exact absurd hcs.symm (List.append_ne_nil_of_right_ne_nil _ (List.cons_ne_nil _ _))
  | cons d cs ih =>
    -- An ampersand beyond what stands for `d` is found among the other characters.
    have hlater : ∀ later, before = char table d ++ later →
        cs.flatMap (char table) = later ++ '&' :: after →
        ∃ read c unread entity, d :: cs = read ++ c :: unread ∧ table c = some entity ∧
          before = read.flatMap (char table) ∧
          '&' :: after = entity.toList ++ unread.flatMap (char table) := by
      rintro later rfl hrest
      obtain ⟨read, c, unread, entity, rfl, hentity, rfl, hafter⟩ := ih hrest
      exact ⟨d :: read, c, unread, entity, rfl, hentity, List.flatMap_cons.symm, hafter⟩
    rw [List.flatMap_cons] at hcs
    rcases List.append_eq_append_iff.mp hcs with ⟨later, hbefore, hrest⟩ | ⟨own, hchar, hrest⟩
    · exact hlater later hbefore hrest
    · cases own with
      | nil => exact hlater [] (by rw [hchar, List.append_nil, List.append_nil]) hrest.symm
      | cons a own =>
        obtain rfl : '&' = a := (List.cons.inj hrest).1
        obtain ⟨rfl, entity, hentity, hlist⟩ := h.char_eq_append hchar
        exact ⟨[], d, cs, entity, rfl, hentity, rfl, hlist ▸ hrest⟩

end Decoding

/-- An escaped text is read as the text. -/
theorem decode_escaped (cs : List Char) : decode named? (escaped cs) = cs := by
  have hread := undoes_entity?.decode_flatMap cs []
  rw [List.append_nil] at hread
  exact hread.trans (List.append_nil cs)

example : decode named? "&amp;lt; &nbsp; &&gt;".toList = "&lt; &nbsp; &>".toList := by decide

/-! ## Escaped texts -/

/-- Replacing the special characters one after the other is looking each character up once.  So
texts are escaped piece by piece.  No character with a meaning is left but the ampersand, which only
begins entities, and reading the entities from left to right gives the text again. -/
theorem html_eq_single_pass (s : String) :
    html s = text entity? s ∧
      (∀ t, html (s ++ t) = html s ++ html t) ∧
      (∀ d ∈ ['<', '>', '"', '\''], d ∉ (html s).toList) ∧
      (∀ before after, (html s).toList = before ++ '&' :: after →
        ∃ read c unread entity, s.toList = read ++ c :: unread ∧ entity? c = some entity ∧
          before = escaped read ∧ '&' :: after = entity.toList ++ escaped unread) ∧
      decode named? (html s).toList = s.toList := by
  refine ⟨?_, ?_, ?_, ?_, ?_⟩
  · rw [← String.toList_inj, toList_html, text, String.toList_ofList, escaped]
  · intro t
    rw [← String.toList_inj, toList_html, String.toList_append, escaped_append,
      String.toList_append, toList_html, toList_html]
  · intro d hd
    rw [toList_html]
    exact not_mem_escaped hd _
  · intro before after h
    rw [toList_html] at h
    exact undoes_entity?.flatMap_char_eq_append h
  · rw [toList_html, decode_escaped]

/-- A text that looks escaped already: its ampersand becomes an entity of its own. -/
theorem html_sampleEntity :
    (html "&lt;'").toList = "&amp;lt;".toList ++ '&' :: "#x27;".toList ∧
      (∃ read c unread entity, "&lt;'".toList = read ++ c :: unread ∧ entity? c = some entity ∧
        "&amp;lt;".toList = escaped read ∧
        '&' :: "#x27;".toList = entity.toList ++ escaped unread) ∧
      decode named? (html "&lt;'").toList = "&lt;'".toList := by
  obtain ⟨-, -, -, hampersand, hdecode⟩ := html_eq_single_pass "&lt;'"
  have hhtml : (html "&lt;'").toList = "&amp;lt;".toList ++ '&' :: "#x27;".toList := by decide
  exact ⟨hhtml, hampersand _ _ hhtml, hdecode⟩

end DocSite.Escape
