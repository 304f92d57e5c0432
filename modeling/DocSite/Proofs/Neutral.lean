import DocSite.Render.Root

/-!
# Texts without what the settings decide

Settings name the packages, choose how addresses are written and whether includes are shown open.
In markup they have nothing to say but where links lead and which details are open, and
`Node.neutral` is a node in which these are left out.  Whatever puts markup together puts neutral
markup together in the same way, so there is one equation for each such function.

That the settings decide no more than this is a statement about two runs.  `Noted.Agree n x y` says
that the texts `x` and `y` come out the same up to `n` and leave the same notes, and `Checked.Agree`
says in addition that both are given up at the same fault or not at all.  There is one rule for each
way to put texts together.
-/

namespace DocSite

/-! ## Neutral markup -/

mutual

/-- The node with no address in its links and with all its details closed. -/
def Node.neutral : Node → Node
  | .text s => .text s
  | .keyword s => .keyword s
  | .anchor id => .anchor id
  | .pre s => .pre s
  | .link _ ns => .link "" (Markup.neutral ns)
  | .span cls ns => .span cls (Markup.neutral ns)
  | .code ns => .code (Markup.neutral ns)
  | .emphasis ns => .emphasis (Markup.neutral ns)
  | .bold ns => .bold (Markup.neutral ns)
  | .paragraph ns => .paragraph (Markup.neutral ns)
  | .heading level id ns => .heading level id (Markup.neutral ns)
  | .list ordered items => .list ordered (Node.neutralItems items)
  | .div cls id ns => .div cls id (Markup.neutral ns)
  | .table cls rows => .table cls (Row.neutralAll rows)
  | .details _ summary body => .details false (Markup.neutral summary) (Markup.neutral body)

@[inherit_doc Node.neutral]
def Markup.neutral : List Node → List Node
  | [] => []
  | n :: ns => n.neutral :: Markup.neutral ns

@[inherit_doc Node.neutral]
def Node.neutralItems : List (List Node) → List (List Node)
  | [] => []
  | ns :: items => Markup.neutral ns :: Node.neutralItems items

@[inherit_doc Node.neutral]
def Row.neutral : Row → Row
  | .mk id cells => .mk id (Cell.neutralAll cells)

@[inherit_doc Node.neutral]
def Row.neutralAll : List Row → List Row
  | [] => []
  | r :: rs => r.neutral :: Row.neutralAll rs

@[inherit_doc Node.neutral]
def Cell.neutral : Cell → Cell
  | .mk cls ns => .mk cls (Markup.neutral ns)

@[inherit_doc Node.neutral]
def Cell.neutralAll : List Cell → List Cell
  | [] => []
  | c :: cs => c.neutral :: Cell.neutralAll cs

end

attribute [simp] Node.neutral Row.neutral Cell.neutral

@[simp] theorem Markup.neutral_eq_map (ns : Markup) : Markup.neutral ns = ns.map Node.neutral := by
  induction ns with
  | nil => rfl
  | cons n ns ih => rw [Markup.neutral, ih, List.map_cons]

@[simp] theorem Node.neutralItems_eq_map (items : List Markup) :
    Node.neutralItems items = items.map (List.map Node.neutral) := by
  induction items with
  | nil => rfl
  | cons ns items ih => rw [Node.neutralItems, ih, Markup.neutral_eq_map, List.map_cons]

@[simp] theorem Row.neutralAll_eq_map (rows : List Row) :
    Row.neutralAll rows = rows.map Row.neutral := by
  induction rows with
  | nil => rfl
  | cons r rs ih => rw [Row.neutralAll, ih, List.map_cons]

@[simp] theorem Cell.neutralAll_eq_map (cells : List Cell) :
    Cell.neutralAll cells = cells.map Cell.neutral := by
  induction cells with
  | nil => rfl
  | cons c cs ih => rw [Cell.neutralAll, ih, List.map_cons]

/-- A part of a definition with neutral markup. -/
@[simp] def Definition.Part.neutral : Definition.Part → Definition.Part
  | inline tokens => .inline (tokens.map Node.neutral)
  | block node => .block node.neutral

namespace Markup

@[simp] theorem neutral_arrow : arrow.neutral = arrow := rfl

@[simp] theorem neutral_block (cls : String) (ns : Markup) :
    (block cls ns).neutral = block cls (ns.map Node.neutral) := by
  simp [block]

@[simp] theorem neutral_join (sep : Markup) (parts : List Markup) :
    (join sep parts).map Node.neutral =
      join (sep.map Node.neutral) (parts.map (List.map Node.neutral)) := by
  fun_induction join sep parts with
  | case1 => rfl
  | case2 part => rfl
  | case3 part parts hne ih =>
    cases parts with
    | nil => exact absurd rfl hne
    | cons next parts =>
      rw [List.map_append, List.map_append, ih]
      rfl

@[simp] theorem neutral_anchorOf (anchor : Option String) :
    (anchor.map Node.anchor).toList.map Node.neutral = (anchor.map Node.anchor).toList := by
  cases anchor <;> rfl

@[simp] theorem neutral_declaration (kind : String) (anchor : Option String)
    (definition doc : Markup) :
    (declaration kind anchor definition doc).neutral =
      declaration kind anchor (definition.map Node.neutral) (doc.map Node.neutral) := by
  cases doc <;> simp [declaration]

end Markup

namespace Definition

theorem neutral_codeOf (tokens : Markup) :
    (codeOf tokens).map Node.neutral = codeOf (tokens.map Node.neutral) := by
  cases tokens <;> simp [codeOf]

theorem neutral_layoutFrom (pending : Markup) (parts : List Part) :
    (layoutFrom pending parts).map Node.neutral =
      layoutFrom (pending.map Node.neutral) (parts.map Part.neutral) := by
  fun_induction layoutFrom pending parts with
  | case1 pending => exact neutral_codeOf pending
  | case2 pending tokens parts ih => simpa [layoutFrom] using ih
  | case3 pending node parts ih => simpa [layoutFrom, neutral_codeOf] using ih

@[simp] theorem neutral_layout (parts : List Part) :
    (layout parts).map Node.neutral = layout (parts.map Part.neutral) :=
  neutral_layoutFrom [] parts

end Definition

/-- Lists that are the same up to a function are both empty or both not. -/
theorem isEmpty_eq_of_map_eq {α β : Type} {n : α → β} {xs ys : List α}
    (h : xs.map n = ys.map n) : xs.isEmpty = ys.isEmpty := by
  rw [← List.isEmpty_map (f := n), h, List.isEmpty_map]

/-! ## Neutral pages -/

mutual

/-- The page with neutral markup, in no package: the first segment of its path is left out. -/
def Page.neutral : Page → Page
  | ⟨name, kind, path, title, header, toc, body, children⟩ =>
    ⟨name, kind, path.set 0 "", title, header.map Node.neutral, toc, body.map Node.neutral,
      Page.neutralAll children⟩

@[inherit_doc Page.neutral]
def Page.neutralAll : List Page → List Page
  | [] => []
  | p :: ps => p.neutral :: Page.neutralAll ps

end

attribute [simp] Page.neutral

@[simp] theorem Page.neutralAll_eq_map (ps : List Page) :
    Page.neutralAll ps = ps.map Page.neutral := by
  induction ps with
  | nil => rfl
  | cons p ps ih => rw [Page.neutralAll, ih, List.map_cons]

namespace Content

/-- A content with neutral markup and neutral pages. -/
def neutral (c : Content) : Content :=
  ⟨c.body.map Node.neutral, c.toc, c.pages.map Page.neutral⟩

@[simp] theorem neutral_append (a b : Content) : (a ++ b).neutral = a.neutral ++ b.neutral := by
  change neutral (append a b) = append a.neutral b.neutral
  simp [neutral, append]

@[simp] theorem neutral_ofNode (node : Node) : (ofNode node).neutral = ofNode node.neutral := rfl

@[simp] theorem neutral_ofItem (node : Node) (page : Option Page) :
    (ofItem node page).neutral = ofItem node.neutral (page.map Page.neutral) := by
  cases page <;> rfl

end Content

/-! ## Results that agree -/

section Results

variable {ε α β γ δ : Type} {m : α → γ} {n : β → δ}

/-- Results that are the same up to `m` are both errors, and the same one, or both not. -/
theorem except_map_eq_map {x y : Except ε α} (h : x.map m = y.map m) :
    (∃ e, x = .error e ∧ y = .error e) ∨ ∃ a b, x = .ok a ∧ y = .ok b ∧ m a = m b := by
  cases x with
  | error e =>
    cases y with
    | error e' =>
      cases h
      exact .inl ⟨e, rfl, rfl⟩
    | ok b => cases h
  | ok a =>
    cases y with
    | error e => cases h
    | ok b => exact .inr ⟨a, b, rfl, rfl, Except.ok.inj h⟩

/-- Results in sequence are the same up to `n` if the first ones are the same up to `m`, and the
second ones whenever what they go on from is. -/
theorem except_map_bind_congr {x y : Except ε α} {f g : α → Except ε β} (hx : x.map m = y.map m)
    (hf : ∀ a b, m a = m b → (f a).map n = (g b).map n) : (x >>= f).map n = (y >>= g).map n := by
  rcases except_map_eq_map hx with ⟨e, rfl, rfl⟩ | ⟨a, b, rfl, rfl, h⟩
  · rfl
  · exact hf a b h

@[inherit_doc except_map_bind_congr]
theorem except_map_map_congr {x y : Except ε α} {f g : α → β} (hx : x.map m = y.map m)
    (hf : ∀ a b, m a = m b → n (f a) = n (g b)) : (x.map f).map n = (y.map g).map n := by
  rcases except_map_eq_map hx with ⟨e, rfl, rfl⟩ | ⟨a, b, rfl, rfl, h⟩
  · rfl
  · exact congrArg Except.ok (hf a b h)

end Results

/-! ## Texts that agree -/

variable {α β γ δ : Type}

/-- The texts come out the same up to `n` and leave the same notes. -/
structure Noted.Agree (n : α → γ) (x y : Noted α) : Prop where
  value : n x.value = n y.value
  notes : x.notes = y.notes

namespace Noted.Agree

variable {m : α → γ} {n : β → δ}

theorem refl (n : α → γ) (x : Noted α) : Agree n x x := ⟨rfl, rfl⟩

theorem pure {a b : α} (h : m a = m b) : Agree m (Pure.pure a) (Pure.pure b) := ⟨h, rfl⟩

theorem bind {x y : Noted α} {f g : α → Noted β} (hx : Agree m x y)
    (hf : ∀ a b, m a = m b → Agree n (f a) (g b)) : Agree n (x >>= f) (y >>= g) := by
  have hrest := hf x.value y.value hx.value
  refine ⟨hrest.value, ?_⟩
  rw [notes_bind, notes_bind, hx.notes, hrest.notes]

/-- What is the same text in both runs has the same value in both. -/
theorem bind_same (x : Noted α) {f g : α → Noted β} (h : ∀ a, Agree n (f a) (g a)) :
    Agree n (x >>= f) (x >>= g) := by
  refine (refl id x).bind ?_
  rintro a _ rfl
  exact h a

/-- Whether a substitute is needed does not depend on the run. -/
theorem orElse {x y : Except ResolveError α} {note : ResolveError → Note} {a b : α}
    (h : x.map m = y.map m) (hsubstitute : m a = m b) :
    Agree m (Noted.orElse x note a) (Noted.orElse y note b) := by
  rcases except_map_eq_map h with ⟨e, rfl, rfl⟩ | ⟨v, w, rfl, rfl, hv⟩
  · exact ⟨hsubstitute, rfl⟩
  · exact ⟨hv, rfl⟩

/-- A text for each element of a list. -/
theorem each {here here' : Here} (f : Here → α → Noted β) (g : Here → List α → Noted (List β))
    (hnil : ∀ here, g here [] = Pure.pure [])
    (hcons : ∀ here x xs, g here (x :: xs) = do return (← f here x) :: (← g here xs))
    (h : ∀ x, Agree n (f here x) (f here' x)) (xs : List α) :
    Agree (List.map n) (g here xs) (g here' xs) := by
  induction xs with
  | nil =>
    rw [hnil, hnil]
    exact refl _ _
  | cons x xs ih =>
    rw [hcons, hcons]
    refine (h x).bind fun y y' hy => ?_
    refine ih.bind fun ys ys' hys => .pure ?_
    rw [List.map_cons, List.map_cons, hy, hys]

end Noted.Agree

/-- The texts come out the same up to `n`, or both are given up at the same fault; and they leave
the same notes. -/
structure Checked.Agree (n : α → γ) (x y : Checked α) : Prop where
  value : x.run.value.map n = y.run.value.map n
  notes : x.run.notes = y.run.notes

namespace Checked.Agree

variable {m : α → γ} {n : β → δ}

theorem refl (n : α → γ) (x : Checked α) : Agree n x x := ⟨rfl, rfl⟩

theorem pure {a b : α} (h : m a = m b) : Agree m (Pure.pure a) (Pure.pure b) :=
  ⟨congrArg Except.ok h, rfl⟩

theorem lift {x y : Noted α} (h : x.Agree m y) : Agree m (liftM x) (liftM y) := by
  refine ⟨congrArg Except.ok h.value, ?_⟩
  change x.notes ++ [] = y.notes ++ []
  rw [h.notes]

theorem bind {x y : Checked α} {f g : α → Checked β} (hx : Agree m x y)
    (hf : ∀ a b, m a = m b → Agree n (f a) (g b)) : Agree n (x >>= f) (y >>= g) := by
  obtain ⟨v, ns⟩ := x
  obtain ⟨w, ns'⟩ := y
  obtain ⟨hvalue, hnotes⟩ := hx
  change v.map m = w.map m at hvalue
  change ns = ns' at hnotes
  subst hnotes
  rcases except_map_eq_map hvalue with ⟨e, rfl, rfl⟩ | ⟨a, b, rfl, rfl, h⟩
  · exact ⟨rfl, rfl⟩
  · have hrest := hf a b h
    exact ⟨hrest.value, congrArg (ns ++ ·) hrest.notes⟩

end Checked.Agree

end DocSite
