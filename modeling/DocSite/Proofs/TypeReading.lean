import DocSite.Proofs.TypeWriting

/-!
# Reading the text of a type

The text of a type spells the tokens of a phrase, which follows from the type (`PlainType.phrase`):
where a type stands in for a simple one it is put in a group, and all else is put together as it is.
Tokens determine the phrase, so two questions are left, and both are about phrases.

* Which type was the phrase written for?  Groups tell almost everything.  The one thing they do not
  tell is what an alias behind an arrow names, since the result of a function is never put in a
  group.  But a function that has a name is put in one, so such an alias was written for the last
  result.  Hence the text of a type is unambiguous.
* Which type is the phrase?  In the language an alias names all that stands before it.  So a
  function whose result has a name is read as a function that has the name itself.  This is the only
  thing that is read differently.
-/

namespace DocSite

open TypeSyntax

namespace TypeSyntax

/-- A simple type as a whole one. -/
def Phrase.ofSimple (s : Simple) : Phrase := .function (.result (.one s))

/-- A type where only a simple one may stand. -/
def Phrase.enclosed : Phrase → Simple
  | .function (.result (.one s)) => s
  | w => .group w

/-- A type with one more arrow before it.  The arrow gets under every alias. -/
def Phrase.prepend (l : Option Label) (p : Product) : Phrase → Phrase
  | .function f => .function (.arrow l p f)
  | .alias w n => .alias (w.prepend l p) n

/-- Some types with stars between them. -/
def Product.ofPhrases : List Phrase → Product
  | [] => .one .any
  | w :: ws => (ws.map Phrase.enclosed).foldl .times (.one w.enclosed)

/-- A path behind a list of arguments. -/
def Simple.applyAll (before : Arguments) (last : Phrase) (path : String) : List Phrase → Simple
  | [] => .applyTo before last path
  | w :: ws => applyAll (.more before last) w path ws

/-- A path behind its arguments. -/
def Simple.application (path : String) : List Phrase → Simple
  | [] => .path path
  | [w] => .apply w.enclosed path
  | w :: v :: ws => .applyAll (.one w) v path ws

end TypeSyntax

mutual

/-- How the text of a type is read. -/
def PlainType.phrase : PlainType → Phrase
  | .var n => .ofSimple (.variable n)
  | .any => .ofSimple .any
  | .alias t n => .alias (.ofSimple t.phrase.enclosed) n
  | .arrow l s t => t.phrase.prepend l (.one s.phrase.enclosed)
  | .tuple ts => .function (.result (.ofPhrases (PlainType.phrases ts)))
  | .constr p ts => .ofSimple (.application p (PlainType.phrases ts))

@[inherit_doc PlainType.phrase]
def PlainType.phrases : List PlainType → List Phrase
  | [] => []
  | t :: ts => t.phrase :: PlainType.phrases ts

end

mutual

/-- All names can be told from what stands around them, and all tuples have several elements. -/
def PlainType.Legible : PlainType → Prop
  | .var n => IsWord n
  | .any => True
  | .alias t n => t.Legible ∧ IsWord n
  | .arrow l s t => (∀ l' ∈ l, IsWord (labelName l')) ∧ s.Legible ∧ t.Legible
  | .tuple ts => 2 ≤ ts.length ∧ PlainType.AllLegible ts
  | .constr p ts => (IsWord p ∧ p ∉ reserved.map Prod.fst) ∧ PlainType.AllLegible ts

@[inherit_doc PlainType.Legible]
def PlainType.AllLegible : List PlainType → Prop
  | [] => True
  | t :: ts => t.Legible ∧ PlainType.AllLegible ts

end

mutual

def PlainType.decidableLegible : ∀ a : PlainType, Decidable a.Legible
  | .var n => inferInstanceAs (Decidable (IsWord n))
  | .any => .isTrue trivial
  | .alias t n =>
    haveI := t.decidableLegible
    inferInstanceAs (Decidable (t.Legible ∧ IsWord n))
  | .arrow l s t =>
    haveI := s.decidableLegible
    haveI := t.decidableLegible
    inferInstanceAs (Decidable ((∀ l' ∈ l, IsWord (labelName l')) ∧ s.Legible ∧ t.Legible))
  | .tuple ts =>
    haveI := PlainType.decidableAllLegible ts
    inferInstanceAs (Decidable (2 ≤ ts.length ∧ PlainType.AllLegible ts))
  | .constr p ts =>
    haveI := PlainType.decidableAllLegible ts
    inferInstanceAs (Decidable ((IsWord p ∧ p ∉ reserved.map Prod.fst) ∧ PlainType.AllLegible ts))

def PlainType.decidableAllLegible : ∀ ts : List PlainType, Decidable (PlainType.AllLegible ts)
  | [] => .isTrue trivial
  | t :: ts =>
    haveI := t.decidableLegible
    haveI := PlainType.decidableAllLegible ts
    inferInstanceAs (Decidable (t.Legible ∧ PlainType.AllLegible ts))

end

instance (a : PlainType) : Decidable a.Legible := a.decidableLegible

/-! ## The tokens of a text -/

namespace TypeSyntax

theorem Phrase.enclosed_prepend (l : Option Label) (p : Product) (w : Phrase) :
    (w.prepend l p).enclosed = .group (w.prepend l p) := by
  cases w <;> rfl

theorem Phrase.tokens_prepend (l : Option Label) (p : Product) (w : Phrase) :
    (w.prepend l p).tokens = (l.map Token.label).toList ++ (p.tokens ++ .arrow :: w.tokens) := by
  cases w with
  | function f => rfl
  | «alias» w n =>
    rw [Phrase.prepend, Phrase.tokens, Phrase.tokens_prepend l p w, Phrase.tokens]
    simp

theorem Product.tokens_foldl (p : Product) (ss : List Simple) :
    (ss.foldl .times p).tokens = p.tokens ++ (ss.map Simple.tokens).flatMap (.star :: ·) := by
  induction ss generalizing p with
  | nil => simp
  | cons s ss ih =>
    rw [List.foldl_cons, ih, Product.tokens]
    simp

/-- A product of several factors is not a simple type. -/
theorem Product.enclosed_foldl (p : Product) (s : Simple) (ss : List Simple) :
    (Phrase.function (.result (ss.foldl .times (.times p s)))).enclosed =
      .group (.function (.result (ss.foldl .times (.times p s)))) := by
  induction ss generalizing p s with
  | nil => rfl
  | cons s' ss ih => exact ih (.times p s) s'

theorem Simple.tokens_applyAll (before : Arguments) (last : Phrase) (path : String)
    (ws : List Phrase) :
    (applyAll before last path ws).tokens =
      .opening :: (before.tokens ++ (.comma :: last.tokens) ++
        (ws.map Phrase.tokens).flatMap (.comma :: ·) ++ [.closing, .path path]) := by
  induction ws generalizing before last with
  | nil => simp [applyAll, Simple.tokens]
  | cons w ws ih =>
    rw [applyAll, ih, Arguments.tokens]
    simp

theorem Token.ofWord_of_notMem {p : String} (h : p ∉ reserved.map Prod.fst) :
    Token.ofWord p = .path p := by
  have hlookup : reserved.lookup p = none := by
    rw [List.lookup_eq_none_iff]
    intro entry hentry
    exact bne_iff_ne.mpr fun heq => h (heq ▸ List.mem_map_of_mem hentry)
  rw [Token.ofWord, hlookup, Option.getD_none]

end TypeSyntax

namespace PlainType

/-- A type that is put in parentheses where it has to be. -/
theorem spells_of_group {a : PlainType} (htext : a.text true = "(" ++ a.text false ++ ")")
    (hgroup : a.phrase.enclosed = .group a.phrase) (h : Spells (a.text false) a.phrase.tokens) :
    Spells (a.text false) a.phrase.tokens ∧ Spells (a.text true) a.phrase.enclosed.tokens := by
  refine ⟨h, ?_⟩
  rw [htext, hgroup]
  exact h.enclosed

mutual

/-- The letters of a type spell the tokens of its phrase, in parentheses and without them. -/
theorem spells : ∀ a : PlainType, a.Legible →
    Spells (a.text false) a.phrase.tokens ∧ Spells (a.text true) a.phrase.enclosed.tokens
  | .var n, h => ⟨.typeVar h, .typeVar h⟩
  | .any, _ => ⟨.word (by decide), .word (by decide)⟩
  | .alias t n, h => by
    obtain ⟨ht, hn⟩ := h
    exact spells_of_group rfl rfl ((spells t ht).2.join separates_naming (.typeVar hn))
  | .arrow l s t, h => by
    obtain ⟨hl, hs, ht⟩ := h
    refine spells_of_group rfl (Phrase.enclosed_prepend _ _ _) ?_
    have hspells :=
      (Spells.lead (leads_label hl) (spells s hs).2).join separates_arrow (spells t ht).1
    rw [List.append_assoc] at hspells
    rw [phrase, Phrase.tokens_prepend]
    exact hspells
  | .tuple ts, h => by
    obtain ⟨hlength, hts⟩ := h
    have hall := (spellsAll ts hts).2
    rcases ts with _ | ⟨t, _ | ⟨u, ts⟩⟩
    · simp at hlength
    · simp at hlength
    · obtain _ | ⟨ht, hrest⟩ := hall
      refine spells_of_group rfl (Product.enclosed_foldl _ _ _) ?_
      have hspells := Spells.intercalate separates_star hrest ht
      have htokens : (PlainType.tuple (t :: u :: ts)).phrase.tokens =
          t.phrase.enclosed.tokens ++
            ((phrases (u :: ts)).map fun w => w.enclosed.tokens).flatMap (.star :: ·) := by
        change (((phrases (u :: ts)).map Phrase.enclosed).foldl Product.times
          (.one t.phrase.enclosed)).tokens = _
        rw [Product.tokens_foldl, List.map_map]
        rfl
      rw [htokens]
      exact hspells
  | .constr p ts, h => by
    obtain ⟨⟨hp, hreserved⟩, hts⟩ := h
    have hspells : Spells (applicationText p (texts (ts.length == 1) ts))
        (Simple.application p (phrases ts)).tokens := by
      have hword : Spells p [.path p] := Token.ofWord_of_notMem hreserved ▸ .word hp
      have hall := spellsAll ts hts
      rcases ts with _ | ⟨t, _ | ⟨u, ts⟩⟩
      · exact hword
      · obtain _ | ⟨ht, -⟩ := hall.2
        have happly := ht.apply hp
        rw [Token.ofWord_of_notMem hreserved] at happly
        exact happly
      · obtain _ | ⟨ht, hrest⟩ := hall.1
        have happly := (Spells.intercalate separates_comma hrest ht).applyTo hp
        rw [Token.ofWord_of_notMem hreserved] at happly
        have htokens : (Simple.application p (phrases (t :: u :: ts))).tokens =
            .opening :: (t.phrase.tokens ++
              ((phrases (u :: ts)).map Phrase.tokens).flatMap (.comma :: ·) ++
                [.closing, .path p]) := by
          change (Simple.applyAll (.one t.phrase) u.phrase p (phrases ts)).tokens = _
          rw [Simple.tokens_applyAll]
          simp [phrases, Arguments.tokens]
        rw [htokens]
        exact happly
    exact ⟨hspells, hspells⟩

theorem spellsAll : ∀ as : List PlainType, AllLegible as →
    List.Forall₂ Spells (texts false as) ((phrases as).map Phrase.tokens) ∧
      List.Forall₂ Spells (texts true as) ((phrases as).map fun w => w.enclosed.tokens)
  | [], _ => ⟨.nil, .nil⟩
  | a :: as, h =>
    have ih := spells a h.1
    have ihs := spellsAll as h.2
    ⟨.cons ih.1 ihs.1, .cons ih.2 ihs.2⟩

end

end PlainType

/-! ## What phrases mean -/

namespace TypeSyntax

variable {naming : Naming}

theorem Phrase.meaning_enclosed (w : Phrase) : w.enclosed.meaning naming = w.meaning naming [] := by
  unfold Phrase.enclosed
  split <;> rfl

theorem Product.meaning_foldl (p : Product) (s : Simple) (ss : List Simple) :
    (ss.foldl Product.times (p.times s)).meaning naming =
      .tuple (p.meanings naming ++ (s :: ss).map (Simple.meaning naming)) := by
  induction ss generalizing p s with
  | nil => rfl
  | cons s' ss ih =>
    rw [List.foldl_cons, ih, Product.meanings]
    simp

theorem Product.meaning_ofPhrases (w v : Phrase) (ws : List Phrase) :
    (Product.ofPhrases (w :: v :: ws)).meaning naming =
      .tuple ((w :: v :: ws).map (Phrase.meaning naming [])) := by
  have hmap : ∀ vs : List Phrase, (vs.map Phrase.enclosed).map (Simple.meaning naming) =
      vs.map (Phrase.meaning naming []) := by
    intro vs
    rw [List.map_map]
    exact List.map_congr_left fun v _ => v.meaning_enclosed
  calc _ = PlainType.tuple (((w :: v :: ws).map Phrase.enclosed).map (Simple.meaning naming)) :=
        Product.meaning_foldl (.one w.enclosed) v.enclosed (ws.map Phrase.enclosed)
    _ = _ := by rw [hmap]

theorem Simple.meaning_applyAll (before : Arguments) (last : Phrase) (path : String)
    (ws : List Phrase) :
    (applyAll before last path ws).meaning naming =
      .constr path (before.meanings naming ++ (last :: ws).map (Phrase.meaning naming [])) := by
  induction ws generalizing before last with
  | nil => rfl
  | cons w ws ih =>
    rw [applyAll, ih, Arguments.meanings]
    simp

theorem Simple.meaning_application (path : String) (ws : List Phrase) :
    (application path ws).meaning naming = .constr path (ws.map (Phrase.meaning naming [])) := by
  rcases ws with _ | ⟨w, _ | ⟨v, ws⟩⟩
  · rfl
  · rw [application, Simple.meaning, w.meaning_enclosed]
    rfl
  · exact Simple.meaning_applyAll (.one w) v path ws

/-- An arrow gets under the aliases behind it, if these name the last result only. -/
theorem Phrase.meaning_prepend (l : Option Label) (p : Product) :
    ∀ (w : Phrase) (names : List String),
      (w.prepend l p).meaning .lastResult names =
        PlainType.arrow l (p.meaning .lastResult) (w.meaning .lastResult names)
  | .function _, _ => rfl
  | .alias w n, names => Phrase.meaning_prepend l p w (n :: names)

end TypeSyntax

namespace PlainType

section Meaning

variable {naming : Naming}

theorem meaning_phrase_alias (t : PlainType) (n : String) :
    (PlainType.alias t n).phrase.meaning naming [] = .alias (t.phrase.meaning naming []) n := by
  rw [← Phrase.meaning_enclosed t.phrase]
  cases naming <;> rfl

theorem meaning_phrase_tuple : ∀ {ts : List PlainType}, 2 ≤ ts.length →
    (PlainType.tuple ts).phrase.meaning naming [] =
      .tuple ((phrases ts).map (Phrase.meaning naming []))
  | t :: u :: ts, _ => Product.meaning_ofPhrases t.phrase u.phrase (phrases ts)

theorem meaning_phrase_constr (p : String) (ts : List PlainType) :
    (PlainType.constr p ts).phrase.meaning naming [] =
      .constr p ((phrases ts).map (Phrase.meaning naming [])) :=
  Simple.meaning_application p (phrases ts)

end Meaning

/-! ## Which type it was -/

mutual

/-- **The phrase of a type tells which type it was written for**: an alias that stands behind arrows
was written for the last result, since a function would be in parentheses. -/
theorem meaning_phrase : ∀ a : PlainType, a.Legible → a.phrase.meaning .lastResult [] = a
  | .var _, _ => rfl
  | .any, _ => rfl
  | .alias t n, h => by rw [meaning_phrase_alias, meaning_phrase t h.1]
  | .arrow l s t, h => by
    have ihs := meaning_phrase s h.2.1
    have iht := meaning_phrase t h.2.2
    rw [phrase, Phrase.meaning_prepend, Product.meaning, Phrase.meaning_enclosed, ihs, iht]
  | .tuple ts, h => by rw [meaning_phrase_tuple h.1, meanings_phrases ts h.2]
  | .constr p ts, h => by rw [meaning_phrase_constr, meanings_phrases ts h.2]

@[inherit_doc meaning_phrase]
theorem meanings_phrases : ∀ as : List PlainType, AllLegible as →
    (phrases as).map (Phrase.meaning .lastResult []) = as
  | [], _ => rfl
  | a :: as, h => by
    rw [phrases, List.map_cons, meaning_phrase a h.1, meanings_phrases as h.2]

end

theorem phrase_injective {a b : PlainType} (ha : a.Legible) (hb : b.Legible)
    (h : a.phrase = b.phrase) : a = b := by
  rw [← meaning_phrase a ha, h, meaning_phrase b hb]

/-- Types with the same text have the same phrase. -/
theorem phrase_eq_of_text_eq {a b : PlainType} (ha : a.Legible) (hb : b.Legible)
    (h : a.text false = b.text false) : a.phrase = b.phrase := by
  have ha' := (spells a ha).1.lex_eq
  have hb' := (spells b hb).1.lex_eq
  rw [h, hb', Option.some.injEq] at ha'
  exact Phrase.tokens_injective _ _ ha'.symm

end PlainType

/-- **The text of a type is unambiguous.**  On whatever pages two types are rendered, their texts
are the same exactly if the types are, up to paths that show the same letters. -/
theorem TypeExpr.plainText_render_inj {s t : TypeExpr} {a b : PlainType} (hs : s.plain? = some a)
    (ht : t.plain? = some b) (ha : a.Legible) (hb : b.Legible) (here there : Here) :
    Markup.plainText (s.render here false).value = Markup.plainText (t.render there false).value ↔
      a = b := by
  rw [TypeExpr.plainText_render here s false hs, TypeExpr.plainText_render there t false ht]
  constructor
  · intro htext
    exact PlainType.phrase_injective ha hb (PlainType.phrase_eq_of_text_eq ha hb htext)
  · rintro rfl
    rfl

/-- A function whose result has a name. -/
def sampleNamedResult : TypeExpr := .arrow none (.var "a") (.alias (.var "b") "c")

/-- A function that has a name itself. -/
def sampleNamedFunction : TypeExpr := .alias (.arrow none (.var "a") (.var "b")) "c"

/-- A function that takes such functions, and what it makes of them. -/
def sampleCallback (path : Path) : TypeExpr :=
  .arrow (some (.optional "f")) (.tuple [sampleNamedResult, sampleNamedFunction])
    (.constr path [.var "a", .constr (.root "int") []])

theorem texts_sampleCallback :
    Markup.plainText (sampleNamedResult.render ⟨{}, []⟩ false).value ≠
      Markup.plainText (sampleNamedFunction.render ⟨{}, []⟩ false).value ∧
    Markup.plainText ((sampleCallback (.dot (.root "M") "t")).render ⟨{}, ["A"]⟩ false).value =
      Markup.plainText ((sampleCallback (.forward "M.t")).render ⟨{}, ["B", "C"]⟩ false).value := by
  constructor
  · rw [Ne, TypeExpr.plainText_render_inj rfl rfl (by decide) (by decide)]
    simp
  · exact (TypeExpr.plainText_render_inj rfl rfl (by decide) (by decide) _ _).mpr rfl

/-! ## Which type is read -/

namespace PlainType

mutual

/-- No arrow of the type leads to an alias. -/
def NoNamedTarget : PlainType → Prop
  | .var _ | .any => True
  | .alias t _ => t.NoNamedTarget
  | .arrow _ s t => s.NoNamedTarget ∧ t.NoNamedTarget ∧ ∀ u n, t ≠ .alias u n
  | .tuple ts | .constr _ ts => NoNamedTargets ts

@[inherit_doc NoNamedTarget]
def NoNamedTargets : List PlainType → Prop
  | [] => True
  | t :: ts => t.NoNamedTarget ∧ NoNamedTargets ts

end

mutual

/-- The type without its aliases. -/
def unnamed : PlainType → PlainType
  | .var n => .var n
  | .any => .any
  | .alias t _ => t.unnamed
  | .arrow l s t => .arrow l s.unnamed t.unnamed
  | .tuple ts => .tuple (unnamedAll ts)
  | .constr p ts => .constr p (unnamedAll ts)

@[inherit_doc unnamed]
def unnamedAll : List PlainType → List PlainType
  | [] => []
  | t :: ts => t.unnamed :: unnamedAll ts

end

mutual

/-- **A type is read as it was written exactly if no arrow leads to an alias.** -/
theorem type_phrase_iff : ∀ a : PlainType, a.Legible → (a.phrase.type = a ↔ a.NoNamedTarget)
  | .var _, _ => iff_of_true rfl trivial
  | .any, _ => iff_of_true rfl trivial
  | .alias t n, h => by
    rw [NoNamedTarget, ← type_phrase_iff t h.1, Phrase.type, meaning_phrase_alias, alias.injEq]
    exact and_iff_left rfl
  | .arrow l s t, h => by
    have ihs := type_phrase_iff s h.2.1
    have iht := type_phrase_iff t h.2.2
    rw [NoNamedTarget, ← ihs, ← iht, phrase]
    generalize hphrase : t.phrase = w
    rcases w with f | ⟨w, n⟩
    · -- the arrow goes in front of a function
      have htarget : ∀ u n, t ≠ .alias u n := by
        rintro u n rfl
        cases hphrase
      rw [Phrase.prepend, Phrase.type_arrow, Product.meaning, Phrase.meaning_enclosed, arrow.injEq]
      exact ⟨fun heq => ⟨heq.2.1, heq.2.2, htarget⟩, fun heq => ⟨rfl, heq.1, heq.2.1⟩⟩
    · -- the arrow goes under an alias
      refine iff_of_false (fun heq => ?_) fun ⟨_, heq, htarget⟩ => htarget _ _ heq.symm
      cases heq
  | .tuple ts, h => by
    rw [NoNamedTarget, ← types_phrases_iff ts h.2, Phrase.type, meaning_phrase_tuple h.1,
      tuple.injEq]
    rfl
  | .constr p ts, h => by
    rw [NoNamedTarget, ← types_phrases_iff ts h.2, Phrase.type, meaning_phrase_constr,
      constr.injEq]
    exact and_iff_right rfl

@[inherit_doc type_phrase_iff]
theorem types_phrases_iff : ∀ as : List PlainType, AllLegible as →
    ((phrases as).map Phrase.type = as ↔ NoNamedTargets as)
  | [], _ => iff_of_true rfl trivial
  | a :: as, h => by
    rw [phrases, List.map_cons, List.cons.injEq, type_phrase_iff a h.1, types_phrases_iff as h.2,
      NoNamedTargets]

end

theorem unnamed_type_prepend (l : Option Label) (p : Product) (w : Phrase) :
    (w.prepend l p).type.unnamed =
      .arrow l (p.meaning .everything).unnamed w.type.unnamed := by
  cases w with
  | function f => rfl
  | «alias» w n => exact unnamed_type_prepend l p w

mutual

/-- Whatever the aliases are taken to name, all else is read as it was written. -/
theorem unnamed_type_phrase : ∀ a : PlainType, a.Legible → a.phrase.type.unnamed = a.unnamed
  | .var _, _ => rfl
  | .any, _ => rfl
  | .alias t n, h => by
    rw [Phrase.type, meaning_phrase_alias, unnamed, unnamed]
    exact unnamed_type_phrase t h.1
  | .arrow l s t, h => by
    have ihs : (s.phrase.meaning .everything []).unnamed = s.unnamed :=
      unnamed_type_phrase s h.2.1
    rw [phrase, unnamed_type_prepend, Product.meaning, Phrase.meaning_enclosed, ihs,
      unnamed_type_phrase t h.2.2, unnamed]
  | .tuple ts, h => by
    rw [Phrase.type, meaning_phrase_tuple h.1, unnamed, unnamed]
    exact congrArg _ (unnamed_types_phrases ts h.2)
  | .constr p ts, h => by
    rw [Phrase.type, meaning_phrase_constr, unnamed, unnamed]
    exact congrArg _ (unnamed_types_phrases ts h.2)

@[inherit_doc unnamed_type_phrase]
theorem unnamed_types_phrases : ∀ as : List PlainType, AllLegible as →
    unnamedAll ((phrases as).map Phrase.type) = unnamedAll as
  | [], _ => rfl
  | a :: as, h => by
    rw [phrases, List.map_cons, unnamedAll, unnamed_type_phrase a h.1,
      unnamed_types_phrases as h.2, unnamedAll]

end

end PlainType

/-- A text is read as a type: its tokens are those of a phrase, and the phrase is the type. -/
def TypeSyntax.Reads (text : String) (t : PlainType) : Prop :=
  ∃ w : Phrase, lex text.toList = some w.tokens ∧ w.type = t

/-- The text of a type can be read in one way only. -/
theorem PlainType.reads_text_iff {a : PlainType} (ha : a.Legible) (b : PlainType) :
    Reads (a.text false) b ↔ a.phrase.type = b := by
  have hlex := (spells a ha).1.lex_eq
  constructor
  · rintro ⟨w, hw, rfl⟩
    rw [hlex, Option.some.injEq] at hw
    rw [Phrase.tokens_injective _ _ hw]
  · intro htype
    exact ⟨a.phrase, hlex, htype⟩

/-- **How the text of a type is read.**  There is one type that it can be read as.  But for what its
aliases name, this is the type that was rendered, and it is that type itself exactly if no arrow
leads to an alias. -/
theorem TypeExpr.plainText_render_reads_iff {t : TypeExpr} {a : PlainType} (ht : t.plain? = some a)
    (ha : a.Legible) (here : Here) :
    (∃ b, (∀ c, Reads (Markup.plainText (t.render here false).value) c ↔ b = c) ∧
      b.unnamed = a.unnamed) ∧
    (Reads (Markup.plainText (t.render here false).value) a ↔ a.NoNamedTarget) := by
  rw [TypeExpr.plainText_render here t false ht]
  have hreads := PlainType.reads_text_iff ha
  refine ⟨⟨a.phrase.type, hreads, PlainType.unnamed_type_phrase a ha⟩, ?_⟩
  rw [hreads, PlainType.type_phrase_iff a ha]

theorem reads_sampleNamedFunction :
    Reads (Markup.plainText (sampleNamedFunction.render ⟨{}, []⟩ false).value)
      (.alias (.arrow none (.var "a") (.var "b")) "c") :=
  (TypeExpr.plainText_render_reads_iff rfl (by decide) _).2.mpr
    ⟨trivial, trivial, by simp⟩

/-- The text of a function whose result has a name is read as if the function had it. -/
theorem sampleNamedResult_not_read_back :
    sampleNamedResult.plain? = some (.arrow none (.var "a") (.alias (.var "b") "c")) ∧
    Markup.plainText (sampleNamedResult.render ⟨{}, []⟩ false).value = "'a -> 'b as 'c" ∧
    Reads "'a -> 'b as 'c" (.alias (.arrow none (.var "a") (.var "b")) "c") ∧
    ¬ Reads "'a -> 'b as 'c" (.arrow none (.var "a") (.alias (.var "b") "c")) := by
  have htext : PlainType.text false (.arrow none (.var "a") (.alias (.var "b") "c")) =
      "'a -> 'b as 'c" := by
    decide +kernel
  have hreads := PlainType.reads_text_iff
    (a := .arrow none (.var "a") (.alias (.var "b") "c")) (by decide)
  rw [htext] at hreads
  refine ⟨rfl, ?_, (hreads _).mpr rfl, fun h => ?_⟩
  · rw [TypeExpr.plainText_render ⟨{}, []⟩ sampleNamedResult false rfl, htext]
  · cases (hreads _).mp h

end DocSite
