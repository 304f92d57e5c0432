import DocSite.Render.Root

/-!
# Runs that succeed

Almost everything there is to say about rendering is said of a rendering that succeeds.  This file
takes such runs apart, once for each way in which they are put together, so that later proofs never
open the two monads again.

`Checked.Gives x a ns` says that the text `x` comes out as `a` and leaves the notes `ns`.
`Render.Gives x cfg s a ws` says the same of a rendering with the pages `s` open: it gives `a`,
leaves the warnings `ws`, and the pages that are open afterwards are again `s`.

A run of `x >>= f` can only be split into a run of `x` and a run of `f` from the *same* open pages
if `x` leaves them as it found them.  That is `Render.Balanced`, and it is asked of failing runs as
well: a page is left on every way out.
-/

namespace DocSite

variable {α β : Type}

/-! ## Texts -/

/-- A text for each element of a list, one after the other. -/
theorem Noted.value_mem_of_each {f : α → Noted β} {g : List α → Noted (List β)}
    (hcons : ∀ x xs, g (x :: xs) = do return (← f x) :: (← g xs))
    {x : α} {xs : List α} (h : x ∈ xs) : (f x).value ∈ (g xs).value := by
  induction xs with
  | nil => simp at h
  | cons first xs ih =>
    rw [hcons]
    rcases List.mem_cons.mp h with rfl | h
    · exact List.mem_cons_self
    · exact List.mem_cons_of_mem _ (ih h)

namespace Checked

/-- The text comes out as `a`, with the notes `ns`. -/
def Gives (x : Checked α) (a : α) (ns : List Note) : Prop := x.run = ⟨.ok a, ns⟩

@[simp] theorem gives_pure {a b : α} {ns : List Note} :
    Gives (pure a) b ns ↔ b = a ∧ ns = [] := by
  constructor
  · rintro ⟨⟩
    exact ⟨rfl, rfl⟩
  · rintro ⟨rfl, rfl⟩
    rfl

@[simp] theorem gives_lift {x : Noted α} {a : α} {ns : List Note} :
    Gives (liftM x) a ns ↔ a = x.value ∧ ns = x.notes := by
  have hrun : (liftM x : Checked α).run = ⟨.ok x.value, x.notes ++ []⟩ := rfl
  rw [Gives, hrun, List.append_nil]
  constructor
  · rintro ⟨⟩
    exact ⟨rfl, rfl⟩
  · rintro ⟨rfl, rfl⟩
    rfl

@[simp] theorem not_gives_throw {e : Fault} {a : α} {ns : List Note} :
    ¬ Gives (throw e : Checked α) a ns := by
  rintro ⟨⟩

/-- A sequence of two texts is a run of the first and then one of the second. -/
theorem gives_bind {x : Checked α} {f : α → Checked β} {b : β} {ns : List Note} :
    Gives (x >>= f) b ns ↔
      ∃ a n₁ n₂, Gives x a n₁ ∧ Gives (f a) b n₂ ∧ ns = n₁ ++ n₂ := by
  obtain ⟨v, n⟩ := x
  cases v with
  | error e =>
    constructor
    · rintro ⟨⟩
    · rintro ⟨a, n₁, n₂, ⟨⟩, -, -⟩
  | ok a =>
    constructor
    · intro h
      refine ⟨a, n, (f a).run.notes, rfl, ?_, ?_⟩
      · exact congrArg (fun y => (⟨y, (f a).run.notes⟩ : Noted (Except Fault β)))
          (congrArg Noted.value h)
      · exact (congrArg Noted.notes h).symm
    · rintro ⟨a', n₁, n₂, ⟨⟩, h, rfl⟩
      rw [Gives] at h
      show (⟨(f a).run.value, n ++ (f a).run.notes⟩ : Noted (Except Fault β)) = _
      rw [h]

theorem Gives.bind {x : Checked α} {f : α → Checked β} {a : α} {b : β} {n₁ n₂ : List Note}
    (hx : Gives x a n₁) (hf : Gives (f a) b n₂) : Gives (x >>= f) b (n₁ ++ n₂) :=
  gives_bind.mpr ⟨a, n₁, n₂, hx, hf, rfl⟩

@[simp] theorem gives_lift_bind {x : Noted α} {f : α → Checked β} {b : β} {ns : List Note} :
    Gives (liftM x >>= f) b ns ↔ ∃ n, Gives (f x.value) b n ∧ ns = x.notes ++ n := by
  simp only [gives_bind, gives_lift]
  constructor
  · rintro ⟨a, n₁, n₂, ⟨rfl, rfl⟩, h, rfl⟩
    exact ⟨n₂, h, rfl⟩
  · rintro ⟨n, h, rfl⟩
    exact ⟨_, _, n, ⟨rfl, rfl⟩, h, rfl⟩

@[simp] theorem gives_map {x : Checked α} {g : α → β} {b : β} {ns : List Note} :
    Gives (do return g (← x)) b ns ↔ ∃ a, Gives x a ns ∧ b = g a := by
  simp only [gives_bind, gives_pure]
  constructor
  · rintro ⟨a, n₁, n₂, h, ⟨rfl, rfl⟩, rfl⟩
    exact ⟨a, by rwa [List.append_nil], rfl⟩
  · rintro ⟨a, h, rfl⟩
    exact ⟨a, ns, [], h, ⟨rfl, rfl⟩, (List.append_nil ns).symm⟩

/-- A text that cannot fail, before one that can. -/
theorem gives_lift_append {x : Noted α} {g : α → Content} {y : Checked Content} {c : Content}
    {ns : List Note} :
    Gives (do let a ← x; return g a ++ (← y)) c ns ↔
      ∃ rest n, Gives y rest n ∧ c = g x.value ++ rest ∧ ns = x.notes ++ n := by
  simp only [gives_lift_bind, gives_map]
  constructor
  · rintro ⟨n, ⟨rest, h, rfl⟩, rfl⟩
    exact ⟨rest, n, h, rfl, rfl⟩
  · rintro ⟨rest, n, h, rfl, rfl⟩
    exact ⟨n, ⟨rest, h, rfl⟩, rfl⟩

end Checked

/-! ## Open pages -/

namespace Scopes

@[simp] theorem path_enter (s : Scopes) (kind : PageKind) (name : String) :
    (s.enter kind name).2.path = s.path ++ [kind.segment name] := by
  simp [enter, path]

/-- A page that was just entered can be left, and leaves what was open before. -/
@[simp] theorem leave_enter (s : Scopes) (kind : PageKind) (name : String) :
    (s.enter kind name).2.leave (s.enter kind name).1 = .ok s := by
  simp [enter, leave, depth]

/-- What is built right after a page was entered is that page. -/
theorem build_enter (s : Scopes) (kind : PageKind) (name title : String) (header : Markup)
    (toc : List ContentsEntry) (body : Markup) (children : List Page) :
    (s.enter kind name).2.build title header toc body children =
      .ok ⟨kind.segment name, kind, s.path ++ [kind.segment name], title, header, toc, body,
        children⟩ := by
  rw [← path_enter]
  rfl

end Scopes

namespace Render

/-! ## Balanced renderings -/

/-- The rendering leaves the open pages as it found them, also if it fails. -/
def Balanced (x : Render α) : Prop := ∀ cfg s, (x cfg s).scopes = s

namespace Balanced

theorem pure (a : α) : Balanced (Pure.pure a) := fun _ _ => rfl

theorem check (f : Here → Checked α) : Balanced (Render.check f) := fun _ _ => rfl

theorem note (f : Here → Noted α) : Balanced (Render.note f) := fun _ _ => rfl

theorem buildPage (title : String) (header : Markup) (toc : List ContentsEntry) (body : Markup)
    (children : List Page) : Balanced (Render.buildPage title header toc body children) := by
  intro cfg s
  rw [Render.buildPage]
  split <;> rfl

theorem bind {x : Render α} {f : α → Render β} (hx : Balanced x) (hf : ∀ a, Balanced (f a)) :
    Balanced (x >>= f) := by
  intro cfg s
  rw [bind_run, hx cfg s]
  cases (x cfg s).result with
  | error e => rfl
  | ok a => exact hf a cfg s

/-- A page that is rendered in balance can be left again, so `onPage` is balanced too. -/
theorem onPage {body : Render α} (kind : PageKind) (name : String) (h : Balanced body) :
    Balanced (Render.onPage kind name body) := by
  intro cfg s
  simp only [Render.onPage, h cfg (s.enter kind name).2, Scopes.leave_enter]

end Balanced

/-! ## Runs -/

/-- The rendering succeeds with `a`, leaves the warnings `ws`, and the open pages are as before. -/
def Gives (x : Render α) (cfg : Settings) (s : Scopes) (a : α) (ws : List Warning) : Prop :=
  x cfg s = ⟨.ok a, s, ws⟩

variable {cfg : Settings} {s : Scopes} {ws : List Warning}

/-- A successful result of a balanced rendering is a run. -/
theorem Balanced.gives {x : Render α} (hx : Balanced x) {a : α} (h : (x cfg s).result = .ok a) :
    Gives x cfg s a (x cfg s).warnings := by
  have hs := hx cfg s
  rw [Gives]
  generalize x cfg s = out at h hs
  obtain ⟨result, scopes, warnings⟩ := out
  subst h hs
  rfl

theorem gives_pure {a b : α} : Gives (pure a) cfg s b ws ↔ b = a ∧ ws = [] := by
  constructor
  · rintro ⟨⟩
    exact ⟨rfl, rfl⟩
  · rintro ⟨rfl, rfl⟩
    rfl

theorem gives_note {f : Here → Noted α} {a : α} :
    Gives (note f) cfg s a ws ↔
      a = (f ⟨cfg, s.path⟩).value ∧ ws = (f ⟨cfg, s.path⟩).notes.map (Warning.mk s.address) := by
  constructor
  · rintro ⟨⟩
    exact ⟨rfl, rfl⟩
  · rintro ⟨rfl, rfl⟩
    rfl

/-- A text is put on the current page: its notes become the warnings of that page. -/
theorem gives_check {f : Here → Checked α} {a : α} :
    Gives (check f) cfg s a ws ↔
      ∃ ns, (f ⟨cfg, s.path⟩).Gives a ns ∧ ws = ns.map (Warning.mk s.address) := by
  rw [Gives, check]
  generalize hx : (f ⟨cfg, s.path⟩).run = x
  obtain ⟨v, n⟩ := x
  cases v with
  | error e =>
    constructor
    · rintro ⟨⟩
    · rintro ⟨ns, h, -⟩
      rw [Checked.Gives, hx] at h
      cases h
  | ok b =>
    constructor
    · rintro ⟨⟩
      exact ⟨n, hx, rfl⟩
    · rintro ⟨ns, h, rfl⟩
      rw [Checked.Gives, hx] at h
      cases h
      rfl

/-- A run of a sequence is a run of its first part and one of its second, from the same pages. -/
theorem gives_bind {x : Render α} {f : α → Render β} {b : β} (hx : Balanced x) :
    Gives (x >>= f) cfg s b ws ↔
      ∃ a w₁ w₂, Gives x cfg s a w₁ ∧ Gives (f a) cfg s b w₂ ∧ ws = w₁ ++ w₂ := by
  constructor
  · intro h
    rw [Gives, bind_run, hx cfg s] at h
    cases hr : (x cfg s).result with
    | error e =>
      rw [hr] at h
      cases h
    | ok a =>
      rw [hr] at h
      refine ⟨a, (x cfg s).warnings, (f a cfg s).warnings, hx.gives hr, ?_, ?_⟩
      · obtain ⟨h₁, h₂, -⟩ := Outcome.mk.inj h
        rw [Gives]
        generalize f a cfg s = out at h₁ h₂
        obtain ⟨result, scopes, warnings⟩ := out
        subst h₁ h₂
        rfl
      · exact (Outcome.mk.inj h).2.2.symm
  · rintro ⟨a, w₁, w₂, h₁, h₂, rfl⟩
    rw [Gives] at h₁ h₂
    rw [Gives, bind_run, h₁]
    simp only [h₂]

/-- A page that is rendered in balance is left again, whether or not there is a result. -/
theorem onPage_run {body : Render α} (h : Balanced body) (kind : PageKind) (name : String)
    (cfg : Settings) (s : Scopes) :
    onPage kind name body cfg s =
      ⟨(body cfg (s.enter kind name).2).result, s, (body cfg (s.enter kind name).2).warnings⟩ := by
  simp only [onPage, h cfg (s.enter kind name).2, Scopes.leave_enter]

/-- A run on a page below the current one is a run with that page open. -/
theorem gives_onPage {body : Render α} {kind : PageKind} {name : String} {a : α}
    (h : Balanced body) :
    Gives (onPage kind name body) cfg s a ws ↔ Gives body cfg (s.enter kind name).2 a ws := by
  have hs := h cfg (s.enter kind name).2
  rw [Gives, Gives, onPage_run h]
  generalize body cfg (s.enter kind name).2 = out at hs
  obtain ⟨result, scopes, warnings⟩ := out
  subst hs
  constructor
  · rintro ⟨⟩
    rfl
  · rintro ⟨⟩
    rfl

/-- The page that is built on a page just entered. -/
theorem gives_buildPage {kind : PageKind} {name title : String} {header : Markup}
    {toc : List ContentsEntry} {body : Markup} {children : List Page} {page : Page} :
    Gives (buildPage title header toc body children) cfg (s.enter kind name).2 page ws ↔
      page = ⟨kind.segment name, kind, s.path ++ [kind.segment name], title, header, toc, body,
        children⟩ ∧ ws = [] := by
  rw [Gives, buildPage, Scopes.build_enter]
  constructor
  · rintro ⟨⟩
    exact ⟨rfl, rfl⟩
  · rintro ⟨rfl, rfl⟩
    rfl

end Render

end DocSite
