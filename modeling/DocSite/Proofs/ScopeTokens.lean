import DocSite.Proofs.Run

/-!
# Tokens of pages

A token says how many pages were open with its page and what the segment of the page was.  It does
not say which page it was given out for: a page that is entered later at the same depth and with the
same segment has an equal token.  Leaving compares no more than that, and still it never closes a
page with the token of another.  The reason lies in the history.  A page is closed only with its own
token, which is then used up; so a token that can still be used belongs to a page that is still
open, and two pages that are open together differ in depth.

To say this, pages are counted as they are entered, and a `Record` remembers, beside the open pages
themselves, which page each token was given out for, which tokens have been used, and the numbers of
the pages that are open.  `Record.Sound` is what every act preserves.

A token that is used too early is lost, and its page can never be left again.  Neither can the pages
around it, since a page is left only when it is the innermost one.
-/

namespace DocSite
namespace Scopes

/-! ## Acts and their record -/

/-- What can be done with the pages being built.  A page is left with its token, which is named here
by the number of the page. -/
inductive Act where
  | enter (kind : PageKind) (name : String)
  | leave (page : Nat)
  | build (title : String) (header : Markup) (toc : List ContentsEntry) (body : Markup)
    (children : List Page)

/-- The pages being built, with what has been done so far. -/
structure Record where
  scopes : Scopes := {}
  /-- Every page that was entered, in order, with its token. -/
  entries : List (ScopeToken × Scope) := []
  /-- The pages whose token has been used, with success or without. -/
  used : List Nat := []
  /-- The pages that are open, innermost first. -/
  opened : List Nat := []

namespace Record

/-- The record after an act.  Leaving uses up the token in any case, and if it succeeds the
innermost page is open no more. -/
def after (r : Record) : Act → Record
  | .enter kind name =>
    { r with
      scopes := (r.scopes.enter kind name).2
      entries := r.entries ++ [((r.scopes.enter kind name).1, ⟨kind, kind.segment name⟩)]
      opened := r.entries.length :: r.opened }
  | .leave page =>
    match r.entries[page]? with
    | none => r
    | some entry =>
      match r.scopes.leave entry.1 with
      | .ok scopes => { r with scopes, used := page :: r.used, opened := r.opened.tail }
      | .error _ => { r with used := page :: r.used }
  | .build .. => r

section Leave

variable {r : Record} {page : Nat} {token : ScopeToken} {scope : Scope}

theorem after_leave_ok {left : Scopes} (hentry : r.entries[page]? = some (token, scope))
    (hleave : r.scopes.leave token = .ok left) :
    r.after (.leave page) =
      { r with scopes := left, used := page :: r.used, opened := r.opened.tail } := by
  simp only [after, hentry, hleave]

theorem after_leave_error {e : ScopeError} (hentry : r.entries[page]? = some (token, scope))
    (hleave : r.scopes.leave token = .error e) :
    r.after (.leave page) = { r with used := page :: r.used } := by
  simp only [after, hentry, hleave]

end Leave

/-- A token can be used once it was given out, and only once. -/
def Allows (r : Record) : Act → Prop
  | .leave page => page < r.entries.length ∧ page ∉ r.used
  | .enter .. | .build .. => True

/-- The record after some acts. -/
def run (r : Record) (acts : List Act) : Record := acts.foldl after r

/-- No token is used twice in the course of the acts, and none before it was given out. -/
def AllowsAll : Record → List Act → Prop
  | _, [] => True
  | r, act :: acts => r.Allows act ∧ (r.after act).AllowsAll acts

/-- What can come about, starting with no page. -/
def Reachable (r : Record) : Prop := ∃ acts, AllowsAll {} acts ∧ run {} acts = r

/-! ## The invariant -/

/-- The pages, by number, are the open ones, and each has the token that its place calls for. -/
def Stacked (entries : List (ScopeToken × Scope)) : List Nat → List Scope → Prop
  | [], [] => True
  | page :: pages, scope :: scopes =>
    entries[page]? = some (⟨scopes.length + 1, scope.segment⟩, scope) ∧ Stacked entries pages scopes
  | _, _ => False

variable {entries : List (ScopeToken × Scope)}

theorem Stacked.length_eq : ∀ {pages : List Nat} {scopes : List Scope},
    Stacked entries pages scopes → pages.length = scopes.length
  | [], [], _ => rfl
  | _ :: _, _ :: _, ⟨_, h⟩ => congrArg Nat.succ h.length_eq

/-- Tokens that are given out later do not matter. -/
theorem Stacked.append (more : List (ScopeToken × Scope)) :
    ∀ {pages : List Nat} {scopes : List Scope}, Stacked entries pages scopes →
      Stacked (entries ++ more) pages scopes
  | [], [], _ => trivial
  | _ :: _, _ :: _, ⟨hpage, h⟩ => by
    refine ⟨?_, h.append more⟩
    rw [List.getElem?_append_left (List.getElem?_eq_some_iff.mp hpage).1]
    exact hpage

/-- The token of an open page is no deeper than the pages that are open. -/
theorem Stacked.depth_le {page : Nat} {token : ScopeToken} {scope : Scope}
    (hentry : entries[page]? = some (token, scope)) :
    ∀ {pages : List Nat} {scopes : List Scope}, Stacked entries pages scopes → page ∈ pages →
      token.depth ≤ scopes.length
  | first :: pages, top :: scopes, ⟨htop, h⟩, hmem => by
    rcases List.mem_cons.mp hmem with rfl | hmem
    · have heq : (token, scope) = (⟨scopes.length + 1, top.segment⟩, top) :=
        Option.some.inj (hentry.symm.trans htop)
      injection heq with htoken
      subst htoken
      exact Nat.le_refl _
    · exact Nat.le_succ_of_le (h.depth_le hentry hmem)

/-- What every act preserves: the open pages are known by number, and a token that can still be used
is the token of one of them. -/
structure Sound (r : Record) : Prop where
  stacked : Stacked r.entries r.opened r.scopes.stack
  unused : ∀ page < r.entries.length, page ∉ r.used → page ∈ r.opened

theorem sound_empty : Sound {} := ⟨trivial, fun _ h => absurd h (Nat.not_lt_zero _)⟩

section Leave

variable {r : Record} {page : Nat} {token : ScopeToken} {scope : Scope}

/-- **One token.**  A token that can still be used closes a page exactly if its own page is the
innermost one, and then it closes that page. -/
theorem Sound.leave_cases (h : r.Sound) (hentry : r.entries[page]? = some (token, scope))
    (hunused : page ∉ r.used) :
    (∃ rest scopes, r.opened = page :: rest ∧ r.scopes.stack = scope :: scopes ∧
        r.scopes.leave token = .ok ⟨scopes⟩) ∨
      (r.opened.head? ≠ some page ∧
        r.scopes.leave token = .error (.unbalanced token r.scopes.depth)) := by
  obtain ⟨⟨stack⟩, entries, used, opened⟩ := r
  have hstacked : Stacked entries opened stack := h.stacked
  have hmem : page ∈ opened := h.unused page (List.getElem?_eq_some_iff.mp hentry).1 hunused
  cases opened with
  | nil => cases hmem
  | cons first rest =>
    cases stack with
    | nil => exact hstacked.elim
    | cons top scopes =>
      obtain ⟨htop, hrest⟩ := hstacked
      by_cases hfirst : first = page
      · subst hfirst
        have heq : (token, scope) = (⟨scopes.length + 1, top.segment⟩, top) :=
          Option.some.inj (hentry.symm.trans htop)
        injection heq with htoken hscope
        subst htoken hscope
        exact .inl ⟨rest, scopes, rfl, rfl, if_pos ⟨rfl, rfl⟩⟩
      · -- further out a page has a smaller depth, so that the depths alone do not fit
        have hdeep : token.depth ≤ scopes.length :=
          hrest.depth_le hentry ((List.mem_cons.mp hmem).resolve_left (Ne.symm hfirst))
        refine .inr ⟨fun hhead => hfirst (Option.some.inj hhead), if_neg fun hfits => ?_⟩
        have hdepth : scopes.length + 1 = token.depth := hfits.1
        omega

end Leave

theorem Sound.after_enter {r : Record} (h : r.Sound) (kind : PageKind) (name : String) :
    (r.after (.enter kind name)).Sound := by
  refine ⟨⟨?_, h.stacked.append _⟩, fun page hpage hunused => ?_⟩
  · exact List.getElem?_concat_length
  · rw [after, List.length_append, List.length_singleton] at hpage
    by_cases hnew : page = r.entries.length
    · exact hnew ▸ List.mem_cons_self
    · exact List.mem_cons_of_mem _ (h.unused page (by omega) hunused)

theorem Sound.after_leave {r : Record} (h : r.Sound) {page : Nat}
    (hallows : r.Allows (.leave page)) : (r.after (.leave page)).Sound := by
  obtain ⟨hlt, hunused⟩ := hallows
  obtain ⟨⟨token, scope⟩, hentry⟩ : ∃ entry, r.entries[page]? = some entry :=
    ⟨_, List.getElem?_eq_getElem hlt⟩
  rcases h.leave_cases hentry hunused with ⟨rest, scopes, hopened, hstack, hleave⟩ | ⟨-, hleave⟩
  · have hstacked := h.stacked
    rw [hopened, hstack] at hstacked
    rw [after_leave_ok hentry hleave, hopened, List.tail_cons]
    refine ⟨hstacked.2, fun other hother hne => ?_⟩
    have hmem := h.unused other hother (List.not_mem_of_not_mem_cons hne)
    rw [hopened] at hmem
    exact (List.mem_cons.mp hmem).resolve_left (List.ne_of_not_mem_cons hne)
  · rw [after_leave_error hentry hleave]
    exact ⟨h.stacked,
      fun other hother hne => h.unused other hother (List.not_mem_of_not_mem_cons hne)⟩

/-- One act. -/
theorem Sound.after {r : Record} (h : r.Sound) {act : Act} (hallows : r.Allows act) :
    (r.after act).Sound := by
  cases act with
  | enter kind name => exact h.after_enter kind name
  | leave page => exact h.after_leave hallows
  | build => exact h

/-- All acts. -/
theorem Sound.run {r : Record} (h : r.Sound) :
    ∀ {acts : List Act}, r.AllowsAll acts → (r.run acts).Sound := by
  intro acts hacts
  induction acts generalizing r with
  | nil => exact h
  | cons act acts ih => exact ih (h.after hacts.1) hacts.2

theorem Reachable.sound {r : Record} (h : r.Reachable) : r.Sound := by
  obtain ⟨acts, hacts, rfl⟩ := h
  exact sound_empty.run hacts

/-! ## Lost tokens -/

/-- The page, the pages around it, and what is open of them; the token of the page is used up. -/
structure Stuck (r : Record) (page : Nat) (outer : List Nat) (scopes : List Scope) : Prop where
  used : page ∈ r.used
  opened : page :: outer <:+ r.opened
  stack : scopes <:+ r.scopes.stack
  length_eq : scopes.length = outer.length + 1

/-- Only a page further in can be left, since the page itself would have to be left first. -/
theorem Stuck.after {r : Record} {page : Nat} {outer : List Nat} {scopes : List Scope}
    (h : r.Stuck page outer scopes) (hr : r.Sound) {act : Act} (hallows : r.Allows act) :
    (r.after act).Stuck page outer scopes := by
  cases act with
  | enter kind name =>
    exact ⟨h.used, h.opened.trans (List.suffix_cons _ _), h.stack.trans (List.suffix_cons _ _),
      h.length_eq⟩
  | build => exact h
  | leave other =>
    obtain ⟨hlt, hunused⟩ := hallows
    obtain ⟨⟨token, scope⟩, hentry⟩ : ∃ entry, r.entries[other]? = some entry :=
      ⟨_, List.getElem?_eq_getElem hlt⟩
    rcases hr.leave_cases hentry hunused with ⟨rest, below, hopened, hstack, hleave⟩ | ⟨-, hleave⟩
    · have hpages : page :: outer <:+ rest := by
        have hsuffix := h.opened
        rw [hopened] at hsuffix
        rcases List.suffix_cons_iff.mp hsuffix with heq | hrest
        · injection heq with hpage
          exact absurd (hpage ▸ h.used) hunused
        · exact hrest
      have hscopes : scopes <:+ below := by
        have hsuffix := h.stack
        have hlength := hr.stacked.length_eq
        have hle := hpages.length_le
        rw [hstack] at hsuffix
        rw [hopened, hstack, List.length_cons, List.length_cons] at hlength
        rw [List.length_cons] at hle
        rcases List.suffix_cons_iff.mp hsuffix with heq | hbelow
        · have heq := congrArg List.length heq
          rw [h.length_eq, List.length_cons] at heq
          omega
        · exact hbelow
      rw [after_leave_ok hentry hleave, hopened, List.tail_cons]
      exact ⟨List.mem_cons_of_mem _ h.used, hpages, hscopes, h.length_eq⟩
    · rw [after_leave_error hentry hleave]
      exact ⟨List.mem_cons_of_mem _ h.used, h.opened, h.stack, h.length_eq⟩

theorem Stuck.run {r : Record} {page : Nat} {outer : List Nat} {scopes : List Scope}
    (h : r.Stuck page outer scopes) (hr : r.Sound) {acts : List Act} (hacts : r.AllowsAll acts) :
    (r.run acts).Stuck page outer scopes := by
  induction acts generalizing r with
  | nil => exact h
  | cons act acts ih => exact ih (h.after hr hacts.1) (hr.after hacts.1) hacts.2

/-- What is open around a page, the page included. -/
theorem Stacked.drop_length {inner outer : List Nat} {page : Nat} {scopes : List Scope}
    (h : Stacked entries (inner ++ page :: outer) scopes) :
    (scopes.drop inner.length).length = outer.length + 1 := by
  have hlength := h.length_eq
  rw [List.length_append, List.length_cons] at hlength
  rw [List.length_drop]
  omega

/-- A token that is used too early leaves its page open for good, and the pages around it. -/
theorem Sound.stuck_of_leave {r : Record} (h : r.Sound) {page : Nat} {token : ScopeToken}
    {scope : Scope} {e : ScopeError} (hentry : r.entries[page]? = some (token, scope))
    (hunused : page ∉ r.used) (hleave : r.scopes.leave token = .error e) :
    ∃ inner outer, r.opened = inner ++ page :: outer ∧
      (r.after (.leave page)).Stuck page outer (r.scopes.stack.drop inner.length) := by
  have hmem := h.unused page (List.getElem?_eq_some_iff.mp hentry).1 hunused
  obtain ⟨inner, outer, hopened⟩ := List.append_of_mem hmem
  have hstacked := h.stacked
  rw [hopened] at hstacked
  refine ⟨inner, outer, hopened, ?_⟩
  rw [after_leave_error hentry hleave]
  exact ⟨List.mem_cons_self, ⟨inner, hopened.symm⟩, List.drop_suffix _ _, hstacked.drop_length⟩

/-! ## The page that is built -/

/-- The segments of the open pages, as they were when the pages were entered. -/
theorem Stacked.segments : ∀ {pages : List Nat} {scopes : List Scope},
    Stacked entries pages scopes →
      pages.map (fun page => entries[page]?.map fun entry => entry.2.segment) =
        scopes.map fun scope => some scope.segment
  | [], [], _ => rfl
  | _ :: _, _ :: _, ⟨hpage, h⟩ => by
    rw [List.map_cons, List.map_cons, h.segments, hpage]
    rfl

theorem Sound.path_eq {r : Record} (h : r.Sound) :
    r.scopes.path.map some =
      r.opened.reverse.map fun page => r.entries[page]?.map fun entry => entry.2.segment := by
  rw [List.map_reverse, h.stacked.segments, path, List.map_reverse, List.map_map]
  rfl

theorem Sound.opened_eq_nil_iff {r : Record} (h : r.Sound) :
    r.opened = [] ↔ r.scopes.stack = [] := by
  rw [← List.length_eq_zero_iff, ← List.length_eq_zero_iff, h.stacked.length_eq]

end Record

/-- **Tokens are sound.**  Take what any acts have led to in which no token was used twice.  A token
that has not been used closes a page if and only if the innermost page is the very page it was given
out for, and then that page is closed and no other.  Otherwise nothing is closed, and its page and
all pages around it stay open, whatever is done later.  A page can be built if and only if one is
open, and its path is made of the segments of all open pages, outermost first. -/
theorem tokens_sound {r : Record} (hr : r.Reachable) :
    (∀ page token scope, r.entries[page]? = some (token, scope) → page ∉ r.used →
      ((∃ left, r.scopes.leave token = .ok left) ↔ r.opened.head? = some page) ∧
      (∀ left, r.scopes.leave token = .ok left →
        r.scopes.stack = scope :: left.stack ∧ (r.after (.leave page)).scopes = left ∧
          r.opened = page :: (r.after (.leave page)).opened) ∧
      ∀ e, r.scopes.leave token = .error e →
        (r.after (.leave page)).scopes = r.scopes ∧ (r.after (.leave page)).opened = r.opened ∧
        ∃ inner outer, r.opened = inner ++ page :: outer ∧
          ∀ later, (r.after (.leave page)).AllowsAll later →
            page :: outer <:+ ((r.after (.leave page)).run later).opened ∧
            r.scopes.stack.drop inner.length <:+
              ((r.after (.leave page)).run later).scopes.stack) ∧
    ∀ title header toc body children,
      ((∃ built, r.scopes.build title header toc body children = .ok built) ↔ r.opened ≠ []) ∧
      ∀ built, r.scopes.build title header toc body children = .ok built →
        built.path.map some =
          r.opened.reverse.map fun page => r.entries[page]?.map fun entry => entry.2.segment := by
  have hsound := hr.sound
  refine ⟨fun page token scope hentry hunused => ⟨?_, ?_, ?_⟩,
    fun title header toc body children => ?_⟩
  · rcases hsound.leave_cases hentry hunused with
      ⟨rest, scopes, hopened, -, hleave⟩ | ⟨hhead, hleave⟩
    · simp [hopened, hleave]
    · simp [hhead, hleave]
  · intro left hleft
    rcases hsound.leave_cases hentry hunused with
      ⟨rest, scopes, hopened, hstack, hleave⟩ | ⟨-, hleave⟩
    · obtain rfl : ⟨scopes⟩ = left := Except.ok.inj (hleave.symm.trans hleft)
      rw [Record.after_leave_ok hentry hleave]
      exact ⟨hstack, rfl, by rw [hopened]; rfl⟩
    · rw [hleave] at hleft
      cases hleft
  · intro e hleave
    obtain ⟨inner, outer, hopened, hstuck⟩ := hsound.stuck_of_leave hentry hunused hleave
    have hallows : r.Allows (.leave page) := ⟨(List.getElem?_eq_some_iff.mp hentry).1, hunused⟩
    have hafter := hsound.after hallows
    refine ⟨?_, ?_, inner, outer, hopened, fun later hlater => ?_⟩
    · rw [Record.after_leave_error hentry hleave]
    · rw [Record.after_leave_error hentry hleave]
    · exact ⟨(hstuck.run hafter hlater).opened, (hstuck.run hafter hlater).stack⟩
  · have hnil := hsound.opened_eq_nil_iff
    have hpath := hsound.path_eq
    rw [ne_eq, hnil]
    obtain ⟨⟨stack⟩, entries, used, opened⟩ := r
    cases stack with
    | nil => simp [build]
    | cons top rest =>
      refine ⟨by simp [build], ?_⟩
      rintro built ⟨⟩
      exact hpath

/-- The first page is left too early, and a page is entered again after it was left. -/
def sampleActs : List Act :=
  [.enter .module "A", .enter .module "B", .leave 0, .leave 1, .enter .module "B"]

/-- The pages `1` and `2` have equal tokens, but only that of the open page can still be used; page
`0` is open for good. -/
theorem tokens_sampleActs : (Record.run {} sampleActs).Reachable ∧
    (Record.run {} sampleActs).entries.map Prod.fst = [⟨1, "A"⟩, ⟨2, "B"⟩, ⟨2, "B"⟩] ∧
    (Record.run {} sampleActs).opened = [2, 0] ∧ (Record.run {} sampleActs).used = [1, 0] ∧
    ∃ left, (Record.run {} sampleActs).scopes.leave ⟨2, "B"⟩ = .ok left := by
  have hallowed : Record.AllowsAll {} sampleActs :=
    ⟨trivial, trivial, ⟨by decide, by decide⟩, ⟨by decide, by decide⟩, trivial, trivial⟩
  have hreachable : (Record.run {} sampleActs).Reachable := ⟨sampleActs, hallowed, rfl⟩
  obtain ⟨hleave, -⟩ := tokens_sound hreachable
  obtain ⟨hiff, -⟩ := hleave 2 ⟨2, "B"⟩ ⟨.module, "B"⟩ rfl (by decide)
  exact ⟨hreachable, rfl, rfl, rfl, hiff.mpr rfl⟩

end Scopes
end DocSite
