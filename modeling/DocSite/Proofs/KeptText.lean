import DocSite.Proofs.Contents
import DocSite.Proofs.TypeWriting

/-!
# Text is kept, linked or not

Paths, fragments and references are linked where they can be.  Where they cannot, their text stays
and a note is left.  So the text of a page does not depend on what can be located, and the notes
tell exactly what could not.

A path is all or nothing: its parts are located from left to right, and the first part that cannot
be located leaves the whole path plain, with one note.  Running text goes on after a reference that
fails.  It leaves one note for each of them, in the order in which the references end, since what
stands inside a reference is rendered before the reference itself is looked up.
-/

namespace DocSite

/-! ## What cannot be located -/

/-- Why an identifier cannot be linked from the page, if it cannot. -/
def Here.lost? (here : Here) (target : Identifier × Bool) : Option ResolveError :=
  match here.settings.href here.page target.1 target.2 with
  | .ok _ => none
  | .error e => some e

namespace Here

variable {here : Here} {id : Identifier} {stopBefore : Bool}

theorem lost?_of_ok {href : String} (h : here.settings.href here.page id stopBefore = .ok href) :
    here.lost? (id, stopBefore) = none := by
  rw [lost?, h]

theorem lost?_of_error {e : ResolveError}
    (h : here.settings.href here.page id stopBefore = .error e) :
    here.lost? (id, stopBefore) = some e := by
  rw [lost?, h]

end Here

/-- The parts of a path that have to be located, from left to right.  What belongs to the language
itself is never linked. -/
def Path.located (stopBefore : Bool) (p : Path) : List (Identifier × Bool) :=
  (p.targets stopBefore).filter fun target => !target.1.kind.isCore

@[simp] theorem Path.located_dot (stopBefore : Bool) (p : Path) (n : String) :
    (Path.dot p n).located stopBefore = p.located true := rfl

@[simp] theorem Path.located_apply (stopBefore : Bool) (f a : Path) :
    (Path.apply f a).located stopBefore = f.located stopBefore ++ a.located false :=
  List.filter_append ..

/-- The part of a fragment that has to be located, for a signature `base`. -/
def Fragment.located (base : Identifier) (f : Fragment) : List (Identifier × Bool) :=
  (f.target? base).toList.map fun target => (target, true)

mutual

/-- What running text refers to, in the order in which the references end. -/
def Inline.references : Inline → List Identifier
  | .text _ | .code _ => []
  | .emphasis xs | .bold xs | .link _ xs => Inline.referencesAll xs
  | .reference target xs => Inline.referencesAll xs ++ [target]

@[inherit_doc Inline.references]
def Inline.referencesAll : List Inline → List Identifier
  | [] => []
  | x :: xs => x.references ++ Inline.referencesAll xs

end

/-! ## Links that are made or given up -/

/-- The text stands for some parts that have to be located.  If all of them can be, there is nothing
to note.  Otherwise the first that cannot be is noted, and the text has no links. -/
def Here.AllOrNothing (here : Here) (parts : List (Identifier × Bool))
    (note : ResolveError → Note) (x : Noted Markup) : Prop :=
  match parts.findSome? here.lost? with
  | none => x.notes = []
  | some e => x.notes = [note e] ∧ ∀ href children, .link href children ∉ Markup.allNodes x.value

/-- The text is what a computation gives, or plain if that fails at the first part that is lost. -/
theorem Here.allOrNothing_orElse {here : Here} {parts : List (Identifier × Bool)}
    {x : Except ResolveError Markup} (note : ResolveError → Note) (text : String)
    (hok : ∀ ns, x = .ok ns → parts.findSome? here.lost? = none)
    (herror : ∀ e, x = .error e → parts.findSome? here.lost? = some e) :
    here.AllOrNothing parts note (.orElse x note [.text text]) := by
  cases x with
  | ok ns =>
    rw [AllOrNothing, hok ns rfl]
    rfl
  | error e =>
    rw [AllOrNothing, herror e rfl]
    exact ⟨rfl, by simp [Noted.orElse, Markup.allNodes, Node.allNodes]⟩

/-- A sequence fails where its first part does, or else where its second does. -/
theorem except_bind_eq_error {ε α β : Type} {x : Except ε α} {f : α → Except ε β} {e : ε} :
    x >>= f = .error e ↔ x = .error e ∨ ∃ a, x = .ok a ∧ f a = .error e := by
  cases x with
  | error e' =>
    constructor
    · rintro ⟨⟩
      exact .inl rfl
    · rintro (⟨⟨⟩⟩ | ⟨a, ⟨⟩, -⟩)
      rfl
  | ok a =>
    constructor
    · intro h
      exact .inr ⟨a, rfl, h⟩
    · rintro (⟨⟨⟩⟩ | ⟨a', ⟨⟩, h⟩)
      exact h

/-- A path is linked exactly if all its parts can be located, and otherwise fails at the first that
cannot be. -/
theorem Settings.pathMarkup_cases (cfg : Settings) (source : PagePath) :
    ∀ (p : Path) (stopBefore : Bool),
      (∀ ns, cfg.pathMarkup source stopBefore p = .ok ns →
        (p.located stopBefore).findSome? (Here.mk cfg source).lost? = none) ∧
      (∀ e, cfg.pathMarkup source stopBefore p = .error e →
        (p.located stopBefore).findSome? (Here.mk cfg source).lost? = some e)
  | .resolved p, stopBefore => by
    rw [Settings.pathMarkup, Path.located, Path.targets]
    cases hcore : p.target.kind.isCore with
    | true => simp [hcore]
    | false =>
      simp only [Bool.false_eq_true, if_false, hcore, Bool.not_false, List.filter_cons, if_true,
        List.filter_nil, List.findSome?_singleton]
      constructor
      · intro ns h
        obtain ⟨href, hhref, -⟩ := except_bind_eq_ok.mp h
        exact Here.lost?_of_ok hhref
      · intro e h
        rcases except_bind_eq_error.mp h with hhref | ⟨_, _, ⟨⟩⟩
        exact Here.lost?_of_error hhref
  | .root _, _ | .forward _, _ => ⟨fun _ _ => rfl, fun _ h => by cases h⟩
  | .dot p n, stopBefore => by
    obtain ⟨hok, herror⟩ := Settings.pathMarkup_cases cfg source p true
    rw [Settings.pathMarkup, Path.located_dot]
    constructor
    · intro ns h
      obtain ⟨parent, hparent, -⟩ := except_bind_eq_ok.mp h
      exact hok parent hparent
    · intro e h
      rcases except_bind_eq_error.mp h with hparent | ⟨_, _, ⟨⟩⟩
      exact herror e hparent
  | .apply f a, stopBefore => by
    obtain ⟨hokf, herrorf⟩ := Settings.pathMarkup_cases cfg source f stopBefore
    obtain ⟨hoka, herrora⟩ := Settings.pathMarkup_cases cfg source a false
    rw [Settings.pathMarkup, Path.located_apply, List.findSome?_append]
    constructor
    · intro ns h
      obtain ⟨functor, hfunctor, h⟩ := except_bind_eq_ok.mp h
      obtain ⟨argument, hargument, -⟩ := except_bind_eq_ok.mp h
      rw [hokf functor hfunctor, hoka argument hargument]
      rfl
    · intro e h
      rcases except_bind_eq_error.mp h with hfunctor | ⟨functor, hfunctor, h⟩
      · rw [herrorf e hfunctor]
        rfl
      · rcases except_bind_eq_error.mp h with hargument | ⟨_, _, ⟨⟩⟩
        rw [hokf functor hfunctor, herrora e hargument]
        rfl

theorem Here.allOrNothing_path (here : Here) (stopBefore : Bool) (p : Path) :
    here.AllOrNothing (p.located stopBefore) (.path p) (here.path stopBefore p) :=
  have hcases := here.settings.pathMarkup_cases here.page p stopBefore
  Here.allOrNothing_orElse (.path p) p.display hcases.1 hcases.2

theorem Here.allOrNothing_fragment (here : Here) (base : Identifier) (f : Fragment) :
    here.AllOrNothing (f.located base) (.fragment f) (here.fragment base f) := by
  refine Here.allOrNothing_orElse (.fragment f) f.display ?_ ?_
  · intro ns h
    cases f with
    | root | dot => rfl
    | resolved f =>
      obtain ⟨href, hhref, -⟩ := except_bind_eq_ok.mp h
      exact (List.findSome?_singleton ..).trans (Here.lost?_of_ok hhref)
  · intro e h
    cases f with
    | root | dot => cases h
    | resolved f =>
      rcases except_bind_eq_error.mp h with hhref | ⟨_, _, ⟨⟩⟩
      exact (List.findSome?_singleton ..).trans (Here.lost?_of_error hhref)

/-- A fragment keeps its letters, as a path does. -/
theorem Here.plainText_fragment (here : Here) (base : Identifier) (f : Fragment) :
    Markup.plainText (here.fragment base f).value = f.display := by
  rw [Here.fragment]
  cases h : here.settings.fragmentMarkup here.page base f with
  | error e => exact String.append_empty
  | ok ns =>
    cases f with
    | root =>
      cases h
      rfl
    | dot p n =>
      cases h
      exact String.append_empty
    | resolved f =>
      obtain ⟨href, -, ⟨⟩⟩ := except_bind_eq_ok.mp h
      change f.display ++ "" ++ "" = f.display
      rw [String.append_empty, String.append_empty]

/-! ## Notes of running text -/

/-- The notes about the references that fail, in the given order. -/
def Here.lostReferences (here : Here) (targets : List Identifier) : List Note :=
  targets.filterMap fun target => (here.lost? (target, false)).map (.reference target)

@[simp] theorem Here.lostReferences_append (here : Here) (as bs : List Identifier) :
    here.lostReferences (as ++ bs) = here.lostReferences as ++ here.lostReferences bs :=
  List.filterMap_append

/-- A reference is noted behind what its content leaves to note. -/
theorem Here.notes_reference (here : Here) (target : Identifier) (children : Markup) :
    (Noted.orElse
      ((here.settings.href here.page target false).map fun href => Node.link href children)
      (.reference target) (.span "xref-unresolved" children)).notes =
        here.lostReferences [target] := by
  cases h : here.settings.href here.page target false with
  | ok href => simp [lostReferences, lost?_of_ok h, Except.map, Noted.orElse]
  | error e => simp [lostReferences, lost?_of_error h, Except.map, Noted.orElse]

mutual

theorem Inline.notes_render (here : Here) :
    ∀ x : Inline, (x.render here).notes = here.lostReferences x.references
  | .text _ => rfl
  | .code _ => rfl
  | .emphasis xs => (List.append_nil _).trans (Inline.notes_renderAll here xs)
  | .bold xs => (List.append_nil _).trans (Inline.notes_renderAll here xs)
  | .link _ [] => rfl
  | .link _ (x :: xs) => (List.append_nil _).trans (Inline.notes_renderAll here (x :: xs))
  | .reference target [] => here.notes_reference target _
  | .reference target (x :: xs) => by
    rw [Inline.references, Here.lostReferences_append, ← Inline.notes_renderAll here (x :: xs)]
    exact congrArg (_ ++ ·) (here.notes_reference target _)

/-- Running text leaves one note for each reference that fails. -/
theorem Inline.notes_renderAll (here : Here) :
    ∀ xs : List Inline,
      (Inline.renderAll here xs).notes = here.lostReferences (Inline.referencesAll xs)
  | [] => rfl
  | x :: xs => by
    rw [Inline.referencesAll, Here.lostReferences_append, ← Inline.notes_render here x,
      ← Inline.notes_renderAll here xs, Inline.renderAll]
    simp

end

/-- **Linking never changes text.**  On whatever page and with whatever settings, a path, a fragment
and running text keep the text that they have without links.  A path or fragment is noted once if
one of its parts cannot be located, and has no links then, and is not noted otherwise.  Running text
is noted once for each reference that cannot be located, from left to right, and what a reference
contains is noted before the reference. -/
theorem Here.linking_keeps_text (here : Here) :
    (∀ (stopBefore : Bool) (p : Path),
      Markup.plainText (here.path stopBefore p).value = p.display ∧
        here.AllOrNothing (p.located stopBefore) (.path p) (here.path stopBefore p)) ∧
    (∀ (base : Identifier) (f : Fragment),
      Markup.plainText (here.fragment base f).value = f.display ∧
        here.AllOrNothing (f.located base) (.fragment f) (here.fragment base f)) ∧
    ∀ xs : List Inline,
      Markup.plainText (Inline.renderAll here xs).value = Inline.plainTexts xs ∧
        (Inline.renderAll here xs).notes = here.lostReferences (Inline.referencesAll xs) :=
  ⟨fun stopBefore p => ⟨here.plainText_path stopBefore p, here.allOrNothing_path stopBefore p⟩,
    fun base f => ⟨here.plainText_fragment base f, here.allOrNothing_fragment base f⟩,
    fun xs => ⟨Inline.plainText_renderAll here xs, Inline.notes_renderAll here xs⟩⟩

/-- The reference inside comes before the one around it. -/
example :
    Inline.referencesAll
      [.emphasis [.reference (.top .value "outer") [.reference (.top .value "inner") []]],
        .reference (.top .value "last") []] =
      [.top .value "inner", .top .value "outer", .top .value "last"] := by
  decide

end DocSite
