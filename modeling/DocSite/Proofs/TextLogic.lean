import DocSite.Proofs.Nodes
import DocSite.Proofs.Run

/-!
# A logic of texts

What is to be known of a text is where its links lead and what it leaves to note.
`Noted.Ensures bad Q x` says that the text `x` comes out as `Q` says and that its notes are among
the `bad` ones; `Checked.Ensures` says the same of a text that may be given up.  There is one rule
for each way to put texts together.

The `Q` of interest is that all links are `ok`.  Markup is put together in few ways as well, and
`LinksAre` has one equation for each.
-/

namespace DocSite

variable {α β : Type}

/-! ## Links in markup -/

/-- All links of the node are as `ok` says. -/
def Node.LinksAre (ok : String → Prop) (n : Node) : Prop :=
  ∀ href children, Node.link href children ∈ n.allNodes → ok href

namespace Markup

@[inherit_doc Node.LinksAre]
def LinksAre (ok : String → Prop) (ns : Markup) : Prop :=
  ∀ href children, Node.link href children ∈ allNodes ns → ok href

end Markup

@[inherit_doc Node.LinksAre]
def Row.LinksAre (ok : String → Prop) (row : Row) : Prop :=
  ∀ cell ∈ row.cells, Markup.LinksAre ok cell.children

@[inherit_doc Node.LinksAre]
def Definition.Part.LinksAre (ok : String → Prop) : Definition.Part → Prop
  | inline tokens => Markup.LinksAre ok tokens
  | block node => node.LinksAre ok

section Links

variable {ok : String → Prop}

namespace Markup

@[simp] theorem linksAre_nil : LinksAre ok [] := by simp [LinksAre, allNodes]

@[simp] theorem linksAre_cons {n : Node} {ns : Markup} :
    LinksAre ok (n :: ns) ↔ n.LinksAre ok ∧ LinksAre ok ns := by
  simp [LinksAre, Node.LinksAre, allNodes, or_imp, forall_and]

@[simp] theorem linksAre_append {a b : Markup} :
    LinksAre ok (a ++ b) ↔ LinksAre ok a ∧ LinksAre ok b := by
  simp [LinksAre, or_imp, forall_and]

end Markup

namespace Node

@[simp] theorem linksAre_text {s : String} : (Node.text s).LinksAre ok := by
  simp [LinksAre, allNodes]

@[simp] theorem linksAre_keyword {s : String} : (Node.keyword s).LinksAre ok := by
  simp [LinksAre, allNodes]

@[simp] theorem linksAre_anchor {id : String} : (Node.anchor id).LinksAre ok := by
  simp [LinksAre, allNodes]

@[simp] theorem linksAre_pre {s : String} : (Node.pre s).LinksAre ok := by
  simp [LinksAre, allNodes]

@[simp] theorem linksAre_link {href : String} {ns : Markup} :
    (Node.link href ns).LinksAre ok ↔ ok href ∧ Markup.LinksAre ok ns := by
  simp only [LinksAre, allNodes, Markup.LinksAre, List.mem_cons, Node.link.injEq]
  constructor
  · intro h
    exact ⟨h href ns (.inl ⟨rfl, rfl⟩), fun href' children hmem => h href' children (.inr hmem)⟩
  · rintro ⟨hok, hns⟩ href' children (⟨rfl, rfl⟩ | hmem)
    · exact hok
    · exact hns href' children hmem

@[simp] theorem linksAre_span {cls : String} {ns : Markup} :
    (Node.span cls ns).LinksAre ok ↔ Markup.LinksAre ok ns := by
  simp [LinksAre, allNodes, Markup.LinksAre]

@[simp] theorem linksAre_code {ns : Markup} :
    (Node.code ns).LinksAre ok ↔ Markup.LinksAre ok ns := by
  simp [LinksAre, allNodes, Markup.LinksAre]

@[simp] theorem linksAre_emphasis {ns : Markup} :
    (Node.emphasis ns).LinksAre ok ↔ Markup.LinksAre ok ns := by
  simp [LinksAre, allNodes, Markup.LinksAre]

@[simp] theorem linksAre_bold {ns : Markup} :
    (Node.bold ns).LinksAre ok ↔ Markup.LinksAre ok ns := by
  simp [LinksAre, allNodes, Markup.LinksAre]

@[simp] theorem linksAre_paragraph {ns : Markup} :
    (Node.paragraph ns).LinksAre ok ↔ Markup.LinksAre ok ns := by
  simp [LinksAre, allNodes, Markup.LinksAre]

@[simp] theorem linksAre_heading {level : UInt8} {id : Option String} {ns : Markup} :
    (Node.heading level id ns).LinksAre ok ↔ Markup.LinksAre ok ns := by
  simp [LinksAre, allNodes, Markup.LinksAre]

@[simp] theorem linksAre_div {cls : String} {id : Option String} {ns : Markup} :
    (Node.div cls id ns).LinksAre ok ↔ Markup.LinksAre ok ns := by
  simp [LinksAre, allNodes, Markup.LinksAre]

@[simp] theorem linksAre_details {isOpen : Bool} {summary body : Markup} :
    (Node.details isOpen summary body).LinksAre ok ↔
      Markup.LinksAre ok summary ∧ Markup.LinksAre ok body := by
  simp [LinksAre, allNodes, Markup.LinksAre, or_imp, forall_and]

@[simp] theorem linksAre_list {ordered : Bool} {items : List Markup} :
    (Node.list ordered items).LinksAre ok ↔ ∀ item ∈ items, Markup.LinksAre ok item := by
  simp only [LinksAre, allNodes, Markup.LinksAre, List.mem_cons, reduceCtorEq, false_or,
    mem_allNodesOfItems]
  constructor
  · intro h item hitem href children hmem
    exact h href children ⟨item, hitem, hmem⟩
  · rintro h href children ⟨item, hitem, hmem⟩
    exact h item hitem href children hmem

@[simp] theorem linksAre_table {cls : String} {rows : List Row} :
    (Node.table cls rows).LinksAre ok ↔ ∀ row ∈ rows, row.LinksAre ok := by
  simp only [LinksAre, allNodes, Row.LinksAre, Markup.LinksAre, List.mem_cons, reduceCtorEq,
    false_or, Row.mem_allNodes]
  constructor
  · intro h row hrow cell hcell href children hmem
    exact h href children ⟨row, hrow, cell, hcell, hmem⟩
  · rintro h href children ⟨row, hrow, cell, hcell, hmem⟩
    exact h row hrow cell hcell href children hmem

end Node

namespace Markup

@[simp] theorem linksAre_arrow : arrow.LinksAre ok := by simp [arrow]

theorem linksAre_join {sep : Markup} {parts : List Markup} (hsep : LinksAre ok sep)
    (h : ∀ part ∈ parts, LinksAre ok part) : LinksAre ok (join sep parts) := by
  induction parts with
  | nil => simp [join]
  | cons part parts ih =>
    rw [List.forall_mem_cons] at h
    cases parts with
    | nil => exact h.1
    | cons next parts =>
      rw [join, linksAre_append, linksAre_append]
      exact ⟨⟨h.1, hsep⟩, ih h.2⟩
      exact List.cons_ne_nil _ _

@[simp] theorem linksAre_anchorOf {anchor : Option String} :
    LinksAre ok (anchor.map Node.anchor).toList := by
  cases anchor <;> simp

@[simp] theorem linksAre_declaration {kind : String} {anchor : Option String}
    {definition doc : Markup} :
    (declaration kind anchor definition doc).LinksAre ok ↔
      LinksAre ok definition ∧ LinksAre ok doc := by
  cases doc <;> simp [declaration, block]

end Markup

theorem Definition.linksAre_layoutFrom :
    ∀ {parts : List Part} {pending : Markup}, Markup.LinksAre ok pending →
      (∀ part ∈ parts, part.LinksAre ok) → Markup.LinksAre ok (layoutFrom pending parts)
  | [], pending, hpending, _ => by
    cases pending with
    | nil => simp [layoutFrom, codeOf]
    | cons n ns => simpa [layoutFrom, codeOf] using hpending
  | .inline tokens :: parts, pending, hpending, h => by
    rw [List.forall_mem_cons] at h
    rw [layoutFrom]
    exact linksAre_layoutFrom (Markup.linksAre_append.mpr ⟨hpending, h.1⟩) h.2
  | .block node :: parts, pending, hpending, h => by
    rw [List.forall_mem_cons] at h
    rw [layoutFrom, Markup.linksAre_append, Markup.linksAre_cons]
    refine ⟨?_, h.1, linksAre_layoutFrom Markup.linksAre_nil h.2⟩
    cases pending with
    | nil => simp [codeOf]
    | cons n ns => simpa [codeOf] using hpending

theorem Definition.linksAre_layout {parts : List Part} (h : ∀ part ∈ parts, part.LinksAre ok) :
    Markup.LinksAre ok (layout parts) :=
  linksAre_layoutFrom Markup.linksAre_nil h

end Links

/-! ## A logic of texts -/

/-- The text comes out as `Q` says, and its notes are among the bad ones. -/
structure Noted.Ensures (bad : Note → Prop) (Q : α → Prop) (x : Noted α) : Prop where
  value : Q x.value
  notes : ∀ note ∈ x.notes, bad note

namespace Noted.Ensures

variable {bad : Note → Prop} {Q : α → Prop} {S : β → Prop}

theorem pure {a : α} (h : Q a) : Ensures bad Q (Pure.pure a : Noted α) := ⟨h, by simp⟩

theorem bind {x : Noted α} {f : α → Noted β} (hx : x.Ensures bad Q)
    (hf : ∀ a, Q a → (f a).Ensures bad S) : (x >>= f).Ensures bad S := by
  have hrest := hf x.value hx.value
  refine ⟨hrest.value, ?_⟩
  rw [notes_bind, List.forall_mem_append]
  exact ⟨hx.notes, hrest.notes⟩

/-- Either there is a value, or its substitute has to do and a note is left. -/
theorem orElse {x : Except ResolveError α} {note : ResolveError → Note} {substitute : α}
    (hok : ∀ a, x = .ok a → Q a) (herror : ∀ e, x = .error e → bad (note e))
    (hsubstitute : Q substitute) : (Noted.orElse x note substitute).Ensures bad Q := by
  cases x with
  | ok a => exact ⟨hok a rfl, by simp [Noted.orElse]⟩
  | error e => exact ⟨hsubstitute, by simpa [Noted.orElse] using herror e rfl⟩

theorem orElse_map {x : Except ResolveError β} {g : β → α} {note : ResolveError → Note}
    {substitute : α} (hok : ∀ b, x = .ok b → Q (g b)) (herror : ∀ e, x = .error e → bad (note e))
    (hsubstitute : Q substitute) : (Noted.orElse (x.map g) note substitute).Ensures bad Q := by
  cases x with
  | ok b => exact ⟨hok b rfl, by simp [Noted.orElse, Except.map]⟩
  | error e => exact ⟨hsubstitute, by simpa [Noted.orElse, Except.map] using herror e rfl⟩

/-- A text for each element of a list. -/
theorem each (f : α → Noted β) (g : List α → Noted (List β)) (hnil : g [] = Pure.pure [])
    (hcons : ∀ x xs, g (x :: xs) = do return (← f x) :: (← g xs)) {xs : List α}
    (h : ∀ x ∈ xs, (f x).Ensures bad S) : (g xs).Ensures bad fun ys => ∀ y ∈ ys, S y := by
  induction xs with
  | nil =>
    rw [hnil]
    exact .pure (by simp)
  | cons x xs ih =>
    rw [List.forall_mem_cons] at h
    rw [hcons]
    refine h.1.bind fun y hy => ?_
    refine (ih h.2).bind fun ys hys => .pure ?_
    exact List.forall_mem_cons.mpr ⟨hy, hys⟩

end Noted.Ensures

/-- If the text comes out it does so as `Q` says; and its notes are among the bad ones in any
case. -/
structure Checked.Ensures (bad : Note → Prop) (Q : α → Prop) (x : Checked α) : Prop where
  value : ∀ a ns, x.Gives a ns → Q a
  notes : ∀ note ∈ x.run.notes, bad note

namespace Checked.Ensures

variable {bad : Note → Prop} {Q : α → Prop} {S : β → Prop}

theorem pure {a : α} (h : Q a) : Ensures bad Q (Pure.pure a : Checked α) := by
  refine ⟨?_, by simp⟩
  intro b ns hb
  obtain ⟨rfl, -⟩ := gives_pure.mp hb
  exact h

theorem lift {x : Noted α} (h : x.Ensures bad Q) : Ensures bad Q (liftM x : Checked α) := by
  constructor
  · intro a ns ha
    obtain ⟨rfl, -⟩ := gives_lift.mp ha
    exact h.value
  · have hrun : (liftM x : Checked α).run.notes = x.notes ++ [] := rfl
    rw [hrun, List.append_nil]
    exact h.notes

theorem throw (fault : Fault) : Ensures bad Q (MonadExcept.throw fault : Checked α) :=
  ⟨fun _ _ h => absurd h not_gives_throw, fun _ h => absurd h (List.not_mem_nil)⟩

theorem bind {x : Checked α} {f : α → Checked β} (hx : x.Ensures bad Q)
    (hf : ∀ a, Q a → (f a).Ensures bad S) : Ensures bad S (x >>= f) := by
  constructor
  · intro b ns hb
    obtain ⟨a, n₁, n₂, ha, hfa, -⟩ := gives_bind.mp hb
    exact (hf a (hx.value a n₁ ha)).value b n₂ hfa
  · obtain ⟨v, n⟩ := x
    cases v with
    | error e =>
      show ∀ note ∈ n ++ [], bad note
      rw [List.append_nil]
      exact hx.notes
    | ok a =>
      show ∀ note ∈ n ++ (f a).run.notes, bad note
      rw [List.forall_mem_append]
      exact ⟨hx.notes, (hf a (hx.value a n rfl)).notes⟩

end Checked.Ensures

end DocSite
