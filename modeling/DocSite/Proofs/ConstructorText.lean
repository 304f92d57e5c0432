import DocSite.Proofs.TypeReading

/-!
# Reading the text of a constructor

The text of a constructor begins with its name, which ends at the first blank.  The mark behind it
tells whether a result is stated: it is a colon then, and the word `of` otherwise.  What stands
behind the mark is read as a type: the arguments are the factors of a product, and the result, if
there are arguments, is the target of an arrow behind them.  A stated result is a type that needs no
parentheses, so this arrow is the only one that is in no group.  An argument that is a product or a
function itself is in a group, so that its stars and arrows are not taken for those of the
constructor.
-/

namespace DocSite

open TypeSyntax

/-- A constructor with positional arguments when each path is replaced by its letters.  The result,
if it is stated, is a path with arguments. -/
@[ext] structure PlainConstructor where
  name : String
  arguments : List PlainType
  result : Option (String × List PlainType)

/-- What is left of a constructor when each path is replaced by its letters, if it has no record,
states no result but a path with arguments, and its types are plain. -/
def Constructor.plain? (c : Constructor) : Option PlainConstructor :=
  match c.arguments, c.result with
  | .tuple ts, none => do return ⟨c.id.name, ← TypeExpr.plainAll? ts, none⟩
  | .tuple ts, some (.constr p us) => do
    return ⟨c.id.name, ← TypeExpr.plainAll? ts, some (p.display, ← TypeExpr.plainAll? us)⟩
  | _, _ => none

/-- The text of a rendered constructor. -/
def Constructor.plainText (here : Here) (c : Constructor) : String :=
  Markup.plainText (Definition.layout (c.parts here).value)

namespace PlainConstructor

def resultType (result : String × List PlainType) : PlainType := .constr result.1 result.2

/-- All names can be told from what stands around them. -/
structure Legible (c : PlainConstructor) : Prop where
  name : IsWord c.name
  arguments : PlainType.AllLegible c.arguments
  result : ∀ r ∈ c.result, (resultType r).Legible

instance (c : PlainConstructor) : Decidable c.Legible :=
  haveI := PlainType.decidableAllLegible c.arguments
  decidable_of_iff
    (IsWord c.name ∧ PlainType.AllLegible c.arguments ∧ ∀ r ∈ c.result, (resultType r).Legible)
    ⟨fun h => ⟨h.1, h.2.1, h.2.2⟩, fun h => ⟨h.name, h.arguments, h.result⟩⟩

/-! ## The letters -/

def argumentsText (as : List PlainType) : String := " * ".intercalate (PlainType.texts true as)

/-- The mark behind a name. -/
def mark (hasResult : Bool) : String := if hasResult then " : " else " of "

/-- The letters of the arguments, with the mark before them. -/
def argumentsTail (hasResult : Bool) : List PlainType → String
  | [] => ""
  | as => mark hasResult ++ argumentsText as

/-- The letters of the result, with the mark before it. -/
def resultTail (as : List PlainType) : Option (String × List PlainType) → String
  | none => ""
  | some r => (if as.isEmpty then " : " else " -> ") ++ (resultType r).text false

/-- The letters behind the name. -/
def tail (c : PlainConstructor) : String :=
  argumentsTail c.result.isSome c.arguments ++ resultTail c.arguments c.result

def text (c : PlainConstructor) : String := c.name ++ c.tail

end PlainConstructor

theorem TypeText.plainText_product (parts : List Markup) :
    Markup.plainText (product parts) = " * ".intercalate (parts.map Markup.plainText) := by
  rw [product, Markup.plainText_join]
  rfl

namespace Constructor

variable (here : Here)

theorem plainText_argumentParts (hasResult : Bool) {ts : List TypeExpr} {as : List PlainType}
    (h : TypeExpr.plainAll? ts = some as) :
    Markup.plainText
        ((argumentParts here hasResult (.tuple ts)).value.flatMap Definition.Part.nodes) =
      PlainConstructor.argumentsTail hasResult as := by
  have htexts := TypeExpr.plainText_renderAll here ts true h
  have hlength := TypeExpr.length_plainAll? h
  rcases ts with _ | ⟨t, ts⟩ <;> rcases as with _ | ⟨a, as⟩
  · rfl
  · cases hlength
  · cases hlength
  · have hmark (rest : String) : " " ++ ((separator hasResult).plainText ++ (" " ++ rest)) =
        PlainConstructor.mark hasResult ++ rest := by
      rw [← String.append_assoc, ← String.append_assoc]
      cases hasResult <;> rfl
    simp [argumentParts, Definition.Part.nodes, TypeText.plainText_product, htexts, hmark,
      PlainConstructor.argumentsTail, PlainConstructor.argumentsText]

theorem plainText_resultParts {ts : List TypeExpr} {as : List PlainType}
    (h : TypeExpr.plainAll? ts = some as) {t : TypeExpr} {a : PlainType} (ht : t.plain? = some a) :
    Markup.plainText
        ((resultParts here (.tuple ts) (some t)).value.flatMap Definition.Part.nodes) =
      (if as.isEmpty then " : " else " -> ") ++ a.text false := by
  have htext := TypeExpr.plainText_render here t false ht
  have hlength := TypeExpr.length_plainAll? h
  have harrow : Markup.arrow.plainText = "->" := String.append_empty
  have hblanks (mark rest : String) :
      " " ++ (mark ++ (" " ++ rest)) = " " ++ mark ++ " " ++ rest := by
    simp only [String.append_assoc]
  rcases ts with _ | ⟨t', ts⟩ <;> rcases as with _ | ⟨a', as⟩
  · simp [resultParts, Definition.Part.nodes, htext, hblanks]
  · cases hlength
  · cases hlength
  · simp [resultParts, Definition.Part.nodes, htext, harrow, hblanks]

/-- The text of a rendered constructor is the same on every page. -/
theorem plainText_eq {c : Constructor} {k : PlainConstructor} (h : c.plain? = some k) :
    c.plainText here = k.text := by
  obtain ⟨id, doc, arguments, result⟩ := c
  have hname : id.marked.plainText = id.name := String.append_empty
  rcases arguments with ts | fields
  · rcases result with _ | result
    · obtain ⟨as, has, ⟨⟩⟩ := Option.bind_eq_some_iff.mp h
      have harguments := plainText_argumentParts here false has
      rw [plainText, Definition.plainText_layout]
      simp [parts, Definition.Part.nodes, hname, harguments, resultParts, PlainConstructor.text,
        PlainConstructor.tail, PlainConstructor.resultTail]
    · cases result with
      | constr p us =>
        obtain ⟨as, has, h⟩ := Option.bind_eq_some_iff.mp h
        obtain ⟨bs, hbs, ⟨⟩⟩ := Option.bind_eq_some_iff.mp h
        have hresult : (TypeExpr.constr p us).plain? = some (.constr p.display bs) := by
          rw [TypeExpr.plain?, hbs]
          rfl
        rw [plainText, Definition.plainText_layout]
        simp [parts, Definition.Part.nodes, hname, plainText_argumentParts here true has,
          plainText_resultParts here has hresult, PlainConstructor.text,
          PlainConstructor.tail, PlainConstructor.resultTail, PlainConstructor.resultType]
      | _ => cases h
  · rcases result with _ | t <;> cases h

end Constructor

/-! ## The tokens -/

namespace TypeSyntax

/-- A word ends where something follows it that is no part of a word. -/
theorem IsWord.append_inj {m n : String} {x y : List Char} (hm : IsWord m) (hn : IsWord n)
    (hx : Ends x) (hy : Ends y) (h : m.toList ++ x = n.toList ++ y) : m = n ∧ x = y := by
  have hcut {w : String} {z : List Char} (hw : IsWord w) (hz : Ends z) :
      (w.toList ++ z).takeWhile (fun c => (mark? c).isNone) = w.toList := by
    rw [List.takeWhile_append_of_pos (List.all_eq_true.mp hw.2)]
    cases z with
    | nil => rw [List.takeWhile_nil, List.append_nil]
    | cons c z =>
      have hmark : ¬ (mark? c).isNone := by
        rcases hz with hc | hc | hc <;> simp [hc]
      rw [List.takeWhile_cons_of_neg (by simpa using hmark), List.append_nil]
  have hword : m.toList = n.toList := by
    rw [← hcut hm hx, h, hcut hn hy]
  have happend : m.toList ++ x = m.toList ++ y := by
    rw [h, hword]
  exact ⟨String.toList_inj.mp hword, List.append_cancel_left happend⟩

theorem Product.meanings_foldl {naming : Naming} (p : Product) (ss : List Simple) :
    (ss.foldl Product.times p).meanings naming =
      p.meanings naming ++ ss.map (Simple.meaning naming) := by
  induction ss generalizing p with
  | nil => simp
  | cons s ss ih =>
    rw [List.foldl_cons, ih, Product.meanings]
    simp

theorem Product.tokens_ofPhrases (w : Phrase) (ws : List Phrase) :
    (Product.ofPhrases (w :: ws)).tokens =
      w.enclosed.tokens ++ (ws.map fun w => w.enclosed.tokens).flatMap (.star :: ·) := by
  rw [Product.ofPhrases, Product.tokens_foldl, List.map_map]
  rfl

/-- The factors of a product are the types that it was made of. -/
theorem Product.meanings_ofPhrases {naming : Naming} (w : Phrase) (ws : List Phrase) :
    (Product.ofPhrases (w :: ws)).meanings naming = (w :: ws).map (Phrase.meaning naming []) := by
  rw [Product.ofPhrases, Product.meanings_foldl, Product.meanings, Phrase.meaning_enclosed,
    List.map_map, List.map_cons, List.singleton_append]
  exact congrArg _ (List.map_congr_left fun v _ => v.meaning_enclosed)

end TypeSyntax

namespace PlainConstructor

/-- How the letters behind the mark are read, if there are any. -/
def phrase? (c : PlainConstructor) : Option Phrase :=
  match c.arguments, c.result with
  | [], none => none
  | [], some r => some (resultType r).phrase
  | a :: as, none => some (.function (.result (.ofPhrases (PlainType.phrases (a :: as)))))
  | a :: as, some r =>
    some ((resultType r).phrase.prepend none (.ofPhrases (PlainType.phrases (a :: as))))

/-- The letters behind a name are those of nothing, or of a mark and a phrase. -/
def Continues (hasResult : Bool) (text : String) : Option Phrase → Prop
  | none => hasResult = false ∧ text = ""
  | some w => ∃ body, text = mark hasResult ++ body ∧ Spells body w.tokens

theorem spells_argumentsText {a : PlainType} {as : List PlainType}
    (h : PlainType.AllLegible (a :: as)) :
    Spells (argumentsText (a :: as)) (Product.ofPhrases (PlainType.phrases (a :: as))).tokens := by
  obtain _ | ⟨ha, has⟩ := (PlainType.spellsAll (a :: as) h).2
  rw [PlainType.phrases, Product.tokens_ofPhrases]
  exact Spells.intercalate separates_star has ha

theorem continues_tail {c : PlainConstructor} (hc : c.Legible) :
    Continues c.result.isSome c.tail c.phrase? := by
  obtain ⟨name, as, r⟩ := c
  have hresult : ∀ r' ∈ r, Spells ((resultType r').text false) (resultType r').phrase.tokens :=
    fun r' hr' => (PlainType.spells _ (hc.result r' hr')).1
  rcases as with _ | ⟨a, as⟩ <;> rcases r with _ | r
  · exact ⟨rfl, rfl⟩
  · exact ⟨_, String.empty_append, hresult r rfl⟩
  · exact ⟨_, String.append_empty, spells_argumentsText hc.arguments⟩
  · refine ⟨argumentsText (a :: as) ++ " -> " ++ (resultType r).text false, ?_, ?_⟩
    · simp [tail, argumentsTail, resultTail, mark, String.append_assoc]
    · rw [Phrase.tokens_prepend]
      exact (spells_argumentsText hc.arguments).join separates_arrow (hresult r rfl)

namespace Continues

variable {b b' : Bool} {text : String} {w w' : Option Phrase}

theorem ends (h : Continues b text w) : Ends text.toList := by
  cases w with
  | none =>
    obtain ⟨-, rfl⟩ := h
    exact trivial
  | some w =>
    obtain ⟨body, rfl, -⟩ := h
    rw [String.toList_append]
    cases b <;> exact .inl rfl

/-- Letters behind a name are read in one way only. -/
theorem unique (h : Continues b text w) (h' : Continues b' text w') : b = b' ∧ w = w' := by
  have hmark (b : Bool) (body : String) : mark b ++ body ≠ "" := by
    cases b <;> simp [mark]
  cases w with
  | none =>
    obtain ⟨rfl, rfl⟩ := h
    cases w' with
    | none => exact ⟨h'.1.symm, rfl⟩
    | some w' =>
      obtain ⟨body, hbody, -⟩ := h'
      exact absurd hbody.symm (hmark b' body)
  | some w =>
    obtain ⟨body, rfl, hspells⟩ := h
    cases w' with
    | none => exact absurd h'.2 (hmark b body)
    | some w' =>
      obtain ⟨body', hbody, hspells'⟩ := h'
      -- the second letter of the mark tells which one it is
      have hsame : b = b' ∧ body = body' := by
        have hletters := congrArg String.toList hbody
        rw [String.toList_append, String.toList_append] at hletters
        cases b <;> cases b' <;> simp_all [mark]
      obtain ⟨rfl, rfl⟩ := hsame
      have htokens := hspells.lex_eq
      rw [hspells'.lex_eq, Option.some.injEq] at htokens
      exact ⟨rfl, congrArg some (Phrase.tokens_injective _ _ htokens.symm)⟩

end Continues

/-! ## Which constructor it was -/

/-- The arguments and the result that are read from a phrase. -/
def read (hasResult : Bool) : Option Phrase → List PlainType × Option PlainType
  | none => ([], none)
  | some (.function (.result p)) =>
    if hasResult then ([], some (p.meaning .lastResult)) else (p.meanings .lastResult, none)
  | some (.function (.arrow _ p f)) => (p.meanings .lastResult, some (f.meaning .lastResult []))
  | some (.alias _ _) => ([], none)

theorem meanings_arguments {a : PlainType} {as : List PlainType}
    (h : PlainType.AllLegible (a :: as)) :
    (Product.ofPhrases (PlainType.phrases (a :: as))).meanings .lastResult = a :: as := by
  rw [PlainType.phrases, Product.meanings_ofPhrases]
  exact PlainType.meanings_phrases (a :: as) h

/-- What was written is read back. -/
theorem read_phrase? {c : PlainConstructor} (hc : c.Legible) :
    read c.result.isSome c.phrase? = (c.arguments, c.result.map resultType) := by
  obtain ⟨name, as, r⟩ := c
  have hresult : ∀ r' ∈ r, (resultType r').phrase.meaning .lastResult [] = resultType r' :=
    fun r' hr' => PlainType.meaning_phrase _ (hc.result r' hr')
  rcases as with _ | ⟨a, as⟩ <;> rcases r with _ | r
  · rfl
  · exact congrArg (fun t => ([], some t)) (hresult r rfl)
  · exact congrArg (fun ts => (ts, none)) (meanings_arguments hc.arguments)
  · exact congrArg₂ (fun ts t => (ts, some t)) (meanings_arguments hc.arguments) (hresult r rfl)

theorem resultType_injective : Function.Injective resultType := by
  rintro ⟨p, as⟩ ⟨q, bs⟩ h
  cases h
  rfl

/-- **Two constructors with the same text are the same.**  The name ends at the first blank, the
mark tells whether a result is stated, and the rest is read as a phrase. -/
theorem eq_of_text_eq {c d : PlainConstructor} (hc : c.Legible) (hd : d.Legible)
    (h : c.text = d.text) : c = d := by
  have hletters : c.name.toList ++ c.tail.toList = d.name.toList ++ d.tail.toList := by
    rw [← String.toList_append, ← String.toList_append]
    exact congrArg String.toList h
  obtain ⟨hname, htail⟩ := hc.name.append_inj hd.name (continues_tail hc).ends
    (continues_tail hd).ends hletters
  have hcontinues := continues_tail hc
  rw [String.toList_inj.mp htail] at hcontinues
  obtain ⟨hsome, hphrase⟩ := hcontinues.unique (continues_tail hd)
  have hread := read_phrase? hc
  rw [hsome, hphrase, read_phrase? hd, Prod.mk.injEq] at hread
  exact PlainConstructor.ext hname hread.1.symm
    (Option.map_injective resultType_injective hread.2.symm)

end PlainConstructor

/-- **The text of a constructor is unambiguous.**  On whatever pages two constructors with
positional arguments are rendered, their texts are the same exactly if they have the same name, the
same list of arguments and the same result, up to paths that show the same letters. -/
theorem Constructor.plainText_inj {c d : Constructor} {k l : PlainConstructor}
    (hc : c.plain? = some k) (hd : d.plain? = some l) (hk : k.Legible) (hl : l.Legible)
    (here there : Here) : c.plainText here = d.plainText there ↔ k = l := by
  rw [Constructor.plainText_eq here hc, Constructor.plainText_eq there hd]
  constructor
  · intro htext
    exact PlainConstructor.eq_of_text_eq hk hl htext
  · rintro rfl
    rfl

def sampleConstructor (arguments : List TypeExpr) (result : Option TypeExpr) : Constructor where
  id := .child (.top .type "t") .constructor "C"
  arguments := .tuple arguments
  result := result

/-- Two arguments are not one pair, a constant that states its result is not one that does not, and
a path has the same letters however it was found. -/
theorem texts_sampleConstructor :
    (sampleConstructor [.var "a", .var "b"] none).plainText ⟨{}, ["A"]⟩ ≠
      (sampleConstructor [.tuple [.var "a", .var "b"]] none).plainText ⟨{}, ["A"]⟩ ∧
    (sampleConstructor [] none).plainText ⟨{}, ["A"]⟩ ≠
      (sampleConstructor [] (some (.constr (.root "t") []))).plainText ⟨{}, ["A"]⟩ ∧
    (sampleConstructor [.any] (some (.constr (.dot (.root "M") "t") []))).plainText ⟨{}, ["A"]⟩ =
      (sampleConstructor [.any] (some (.constr (.forward "M.t") []))).plainText
        ⟨{}, ["B", "C"]⟩ := by
  refine ⟨?_, ?_, ?_⟩
  · rw [Ne, Constructor.plainText_inj rfl rfl (by decide) (by decide)]
    simp
  · rw [Ne, Constructor.plainText_inj rfl rfl (by decide) (by decide)]
    simp
  · exact (Constructor.plainText_inj rfl rfl (by decide) (by decide) _ _).mpr rfl

end DocSite
