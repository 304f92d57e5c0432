import DocSite.Render.Signature

/-!
# Signatures in normal form

Three things in a signature only steer how it is shown: stop markers, the comments that they hide,
and the tag that splices an include into its surroundings.  A signature can be rid of all three in
advance.  First every include that is spliced in is replaced by its items, again and again as they
may be includes themselves; then the stop markers go, and with them every comment that has an odd
number of them before it.  What is left is the normal form, and it is rendered as the signature was:
to the same content, the same warnings and the same error, from whatever pages are open.

The normal form is that of one signature only.  An include that can be opened and closed stays as it
is, and so does every expansion: they have comments and markers of their own.  This is why the
splicing has to come first.  A marker inside an include that is spliced in counts for what follows
the include, and a marker inside any other does not.

Members of a class have markers but no includes, and are normalised by the second step alone.  That
step is one function for both, since it only needs to know of an item whether it is a comment.
-/

namespace DocSite

/-! ## Laws of rendering -/

local instance : LawfulMonad Noted := by
  refine LawfulMonad.mk' Noted ?_ ?_ ?_
  · intro α x
    obtain ⟨value, notes⟩ := x
    exact congrArg (Noted.mk value) (List.append_nil notes)
  · intro α β a f
    rfl
  · intro α β γ x f g
    exact congrArg (Noted.mk _) (List.append_assoc _ _ _)

open Render in
local instance : LawfulMonad Render := by
  have map_eq {α β : Type} (x : Render α) (f : α → β) :
      f <$> x = x >>= fun a => pure (f a) := rfl
  refine LawfulMonad.mk' Render ?_ ?_ ?_
  · intro α x
    funext cfg s
    rw [map_eq, bind_run]
    obtain ⟨result, scopes, warnings⟩ := x cfg s
    cases result with
    | error e => rfl
    | ok a => simp only [pure_run, id_eq, List.append_nil]
  · intro α β a f
    funext cfg s
    simp only [bind_run, pure_run, List.nil_append]
  · intro α β γ x f g
    funext cfg s
    simp only [bind_run]
    obtain ⟨result, scopes, warnings⟩ := x cfg s
    cases result with
    | error e => rfl
    | ok a =>
      simp only
      obtain ⟨result', scopes', warnings'⟩ := f a cfg scopes
      cases result' with
      | error e => rfl
      | ok b => simp only [List.append_assoc]

namespace Content

theorem append_def (a b : Content) :
    a ++ b = ⟨a.body ++ b.body, a.toc ++ b.toc, a.pages ++ b.pages⟩ := rfl

@[simp] theorem append_empty (a : Content) : a ++ ({} : Content) = a := by
  simp [append_def]

@[simp] theorem empty_append (a : Content) : ({} : Content) ++ a = a := by
  simp [append_def]

theorem append_assoc (a b c : Content) : a ++ b ++ c = a ++ (b ++ c) := by
  simp [append_def]

end Content

/-! ## Splicing -/

mutual

/-- Items with every include that is spliced in replaced by its own items, spliced in turn. -/
def SignatureItem.splicedAll : List SignatureItem → List SignatureItem
  | [] => []
  | item :: items => item.spliced ++ SignatureItem.splicedAll items

@[inherit_doc SignatureItem.splicedAll]
def SignatureItem.spliced : SignatureItem → List SignatureItem
  | .include parent doc decl expansion =>
    if doc.hasTag .inline then SignatureItem.splicedAll expansion
    else [.include parent doc decl expansion]
  | item => [item]

end

/-- Whether an item is an include that is spliced in. -/
def SignatureItem.isSplice : SignatureItem → Bool
  | .include _ doc _ _ => doc.hasTag .inline
  | _ => false

mutual

/-- Nothing that is left is still to be spliced in. -/
theorem SignatureItem.isSplice_of_mem_splicedAll :
    ∀ items : List SignatureItem, ∀ x ∈ SignatureItem.splicedAll items, x.isSplice = false
  | [], x, hx => by simp [SignatureItem.splicedAll] at hx
  | item :: items, x, hx => by
    rw [SignatureItem.splicedAll, List.mem_append] at hx
    rcases hx with hx | hx
    · exact SignatureItem.isSplice_of_mem_spliced item x hx
    · exact SignatureItem.isSplice_of_mem_splicedAll items x hx

@[inherit_doc SignatureItem.isSplice_of_mem_splicedAll]
theorem SignatureItem.isSplice_of_mem_spliced :
    ∀ item : SignatureItem, ∀ x ∈ item.spliced, x.isSplice = false
  | .include parent doc decl expansion, x, hx => by
    rw [SignatureItem.spliced] at hx
    split at hx
    · exact SignatureItem.isSplice_of_mem_splicedAll expansion x hx
    · rename_i htag
      rw [List.mem_singleton.mp hx, SignatureItem.isSplice]
      exact Bool.eq_false_iff.mpr htag
  | .module .., x, hx | .moduleType .., x, hx | .moduleSubstitution .., x, hx | .type .., x, hx
  | .typeSubstitution .., x, hx | .extension .., x, hx | .exception .., x, hx | .value .., x, hx
  | .external .., x, hx | .class .., x, hx | .classType .., x, hx | .comment .., x, hx => by
    rw [List.mem_singleton.mp hx]
    rfl

end

theorem SignatureItem.visibilityAfterAll_append (visibility : Visibility)
    (xs ys : List SignatureItem) :
    SignatureItem.visibilityAfterAll visibility (xs ++ ys) =
      SignatureItem.visibilityAfterAll (SignatureItem.visibilityAfterAll visibility xs) ys := by
  induction xs generalizing visibility with
  | nil => rfl
  | cons x xs ih => exact ih (x.visibilityAfter visibility)

/-- Items one after the other: the second lot begins with comments as the first lot left them. -/
theorem SignatureItem.renderAll_append (visibility : Visibility) (xs ys : List SignatureItem) :
    SignatureItem.renderAll visibility (xs ++ ys) = do
      let first ← SignatureItem.renderAll visibility xs
      let rest ← SignatureItem.renderAll (SignatureItem.visibilityAfterAll visibility xs) ys
      return first ++ rest := by
  induction xs generalizing visibility with
  | nil =>
    simp only [List.nil_append, SignatureItem.renderAll, SignatureItem.visibilityAfterAll,
      pure_bind, Content.empty_append, bind_pure]
  | cons x xs ih =>
    simp only [List.cons_append, SignatureItem.renderAll, SignatureItem.visibilityAfterAll, ih,
      bind_assoc, pure_bind, Content.append_assoc]

theorem SignatureItem.renderAll_singleton (visibility : Visibility) (item : SignatureItem) :
    SignatureItem.renderAll visibility [item] = item.render visibility := by
  simp only [SignatureItem.renderAll, pure_bind, Content.append_empty, bind_pure]

mutual

theorem SignatureItem.visibilityAfterAll_splicedAll (visibility : Visibility) :
    ∀ items : List SignatureItem,
      SignatureItem.visibilityAfterAll visibility (SignatureItem.splicedAll items) =
        SignatureItem.visibilityAfterAll visibility items
  | [] => rfl
  | item :: items => by
    have hitem := SignatureItem.visibilityAfterAll_spliced visibility item
    have hitems := SignatureItem.visibilityAfterAll_splicedAll (item.visibilityAfter visibility)
      items
    rw [SignatureItem.splicedAll, SignatureItem.visibilityAfterAll_append, hitem, hitems]
    rfl

theorem SignatureItem.visibilityAfterAll_spliced (visibility : Visibility) :
    ∀ item : SignatureItem, SignatureItem.visibilityAfterAll visibility item.spliced =
      item.visibilityAfter visibility
  | .include parent doc decl expansion => by
    have hitems := SignatureItem.visibilityAfterAll_splicedAll visibility expansion
    rw [SignatureItem.spliced, SignatureItem.visibilityAfter]
    split
    · exact hitems
    · rename_i htag
      simp [SignatureItem.visibilityAfterAll, SignatureItem.visibilityAfter, htag]
  | .module .. | .moduleType .. | .moduleSubstitution .. | .type .. | .typeSubstitution ..
  | .extension .. | .exception .. | .value .. | .external .. | .class .. | .classType ..
  | .comment .. => rfl

end

mutual

/-- Spliced items are rendered as the items are. -/
theorem SignatureItem.renderAll_splicedAll (visibility : Visibility) :
    ∀ items : List SignatureItem,
      SignatureItem.renderAll visibility (SignatureItem.splicedAll items) =
        SignatureItem.renderAll visibility items
  | [] => rfl
  | item :: items => by
    have hitem := SignatureItem.renderAll_spliced visibility item
    have hitems := SignatureItem.renderAll_splicedAll (item.visibilityAfter visibility) items
    rw [SignatureItem.splicedAll, SignatureItem.renderAll_append, hitem,
      SignatureItem.visibilityAfterAll_spliced, hitems]
    rfl

@[inherit_doc SignatureItem.renderAll_splicedAll]
theorem SignatureItem.renderAll_spliced (visibility : Visibility) :
    ∀ item : SignatureItem,
      SignatureItem.renderAll visibility item.spliced = item.render visibility
  | .include parent doc decl expansion => by
    have hitems := SignatureItem.renderAll_splicedAll visibility expansion
    rw [SignatureItem.spliced]
    split
    · rename_i htag
      rw [hitems, SignatureItem.render, if_pos htag]
    · exact SignatureItem.renderAll_singleton visibility _
  | .module .. | .moduleType .. | .moduleSubstitution .. | .type .. | .typeSubstitution ..
  | .extension .. | .exception .. | .value .. | .external .. | .class .. | .classType ..
  | .comment .. => SignatureItem.renderAll_singleton visibility _

end

/-! ## Stop markers and hidden comments -/

section Unmarked

variable {α : Type}

/-- Items without stop markers and without the comments that have an odd number of stop markers
before them, if `stops` of them came before all items. -/
def unmarked (comment? : α → Option Comment) (stops : Nat) : List α → List α
  | [] => []
  | x :: xs =>
    match comment? x with
    | some .stop => unmarked comment? (stops + 1) xs
    | some (.docs _) =>
      if stops % 2 = 1 then unmarked comment? stops xs else x :: unmarked comment? stops xs
    | none => x :: unmarked comment? stops xs

/-- Whether comments are shown after a number of stop markers. -/
def Visibility.afterStops (stops : Nat) : Visibility :=
  if stops % 2 = 1 then .hidden else .visible

theorem Visibility.afterStops_succ (stops : Nat) :
    Visibility.afterStops (stops + 1) = (Visibility.afterStops stops).toggle := by
  unfold Visibility.afterStops
  by_cases hodd : stops % 2 = 1
  · have heven : ¬ (stops + 1) % 2 = 1 := by omega
    rw [if_pos hodd, if_neg heven]
    rfl
  · have hnext : (stops + 1) % 2 = 1 := by omega
    rw [if_neg hodd, if_pos hnext]
    rfl

theorem subset_of_unmarked (comment? : α → Option Comment) (stops : Nat) (xs : List α) :
    unmarked comment? stops xs ⊆ xs := by
  fun_induction unmarked comment? stops xs with
  | case1 => exact List.Subset.refl []
  | case2 stops x xs hx ih => exact List.subset_cons_of_subset x ih
  | case3 stops x xs docs hx hodd ih => exact List.subset_cons_of_subset x ih
  | case4 stops x xs docs hx hodd ih => exact List.cons_subset_cons x ih
  | case5 stops x xs hx ih => exact List.cons_subset_cons x ih

/-- No stop marker is left. -/
theorem comment?_ne_stop_of_mem_unmarked {comment? : α → Option Comment} {stops : Nat} {xs : List α}
    {x : α} (h : x ∈ unmarked comment? stops xs) : comment? x ≠ some .stop := by
  fun_induction unmarked comment? stops xs with
  | case1 => cases h
  | case2 stops y ys hy ih => exact ih h
  | case3 stops y ys docs hy hodd ih => exact ih h
  | case4 stops y ys docs hy hodd ih =>
    rcases List.mem_cons.mp h with rfl | h
    · rw [hy]
      simp
    · exact ih h
  | case5 stops y ys hy ih =>
    rcases List.mem_cons.mp h with rfl | h
    · rw [hy]
      simp
    · exact ih h

/-- A loop over items that minds stop markers as it should.  A marker leaves nothing and turns the
state, a hidden comment leaves nothing, and all else that is `plain` does not look at the state. -/
structure MindsMarkers {R : Type} (comment? : α → Option Comment) (plain : α → Prop)
    (render : Visibility → List α → R) : Prop where
  nil : ∀ visibility visibility', render visibility [] = render visibility' []
  stop : ∀ {x : α}, comment? x = some .stop → ∀ visibility xs,
    render visibility (x :: xs) = render visibility.toggle xs
  hidden : ∀ {x : α} {docs : Docs}, comment? x = some (.docs docs) → ∀ xs,
    render .hidden (x :: xs) = render .hidden xs
  shown : ∀ {x : α} {docs : Docs}, comment? x = some (.docs docs) → ∀ {xs ys},
    render .visible xs = render .visible ys → render .visible (x :: xs) = render .visible (x :: ys)
  other : ∀ {x : α}, comment? x = none → plain x → ∀ {visibility visibility' xs ys},
    render visibility xs = render visibility' ys →
      render visibility (x :: xs) = render visibility' (x :: ys)

/-- Such a loop gives the same without the markers and the comments they hide.  The induction is on
the items, and the state of the loop is at each item the one that the markers before it call for. -/
theorem MindsMarkers.render_unmarked {R : Type} {comment? : α → Option Comment} {plain : α → Prop}
    {render : Visibility → List α → R} (hr : MindsMarkers comment? plain render) (stops : Nat)
    (xs : List α) (hplain : ∀ x ∈ xs, plain x) :
    render (.afterStops stops) xs = render .visible (unmarked comment? stops xs) := by
  fun_induction unmarked comment? stops xs with
  | case1 stops => exact hr.nil _ _
  | case2 stops x xs hx ih =>
    have hxs : ∀ y ∈ xs, plain y := fun y hy => hplain y (List.mem_cons_of_mem x hy)
    rw [hr.stop hx, ← Visibility.afterStops_succ]
    exact ih hxs
  | case3 stops x xs docs hx hodd ih =>
    have hxs : ∀ y ∈ xs, plain y := fun y hy => hplain y (List.mem_cons_of_mem x hy)
    have hstate : Visibility.afterStops stops = .hidden := if_pos hodd
    have hrest := ih hxs
    rw [hstate] at hrest ⊢
    rw [hr.hidden hx]
    exact hrest
  | case4 stops x xs docs hx hodd ih =>
    have hxs : ∀ y ∈ xs, plain y := fun y hy => hplain y (List.mem_cons_of_mem x hy)
    have hstate : Visibility.afterStops stops = .visible := if_neg hodd
    have hrest := ih hxs
    rw [hstate] at hrest ⊢
    exact hr.shown hx hrest
  | case5 stops x xs hx ih =>
    have hxs : ∀ y ∈ xs, plain y := fun y hy => hplain y (List.mem_cons_of_mem x hy)
    exact hr.other hx (hplain x List.mem_cons_self) (ih hxs)

end Unmarked

/-! ## Normal forms -/

/-- The comment that an item is, if it is one. -/
def SignatureItem.comment? : SignatureItem → Option Comment
  | .comment c => some c
  | _ => none

@[inherit_doc SignatureItem.comment?]
def ClassItem.comment? : ClassItem → Option Comment
  | .comment c => some c
  | _ => none

/-- The signature without what only steers how it is shown. -/
def Signature.normal (sig : Signature) : Signature :=
  unmarked SignatureItem.comment? 0 (SignatureItem.splicedAll sig)

@[inherit_doc Signature.normal]
def ClassSignature.normal (sig : ClassSignature) : ClassSignature :=
  { sig with items := unmarked ClassItem.comment? 0 sig.items }

theorem SignatureItem.comment?_eq_some_iff {item : SignatureItem} {c : Comment} :
    item.comment? = some c ↔ item = .comment c := by
  cases item <;> simp [comment?]

theorem ClassItem.comment?_eq_some_iff {item : ClassItem} {c : Comment} :
    item.comment? = some c ↔ item = .comment c := by
  cases item <;> simp [comment?]

/-- An item that is neither a comment nor spliced in does not look at the state of comments. -/
theorem SignatureItem.render_of_other {item : SignatureItem} (hc : item.comment? = none)
    (hs : item.isSplice = false) (visibility visibility' : Visibility) :
    item.render visibility = item.render visibility' ∧
      item.visibilityAfter visibility = visibility := by
  cases item with
  | comment c => cases hc
  | «include» parent doc decl expansion =>
    rw [SignatureItem.isSplice] at hs
    simp [SignatureItem.render, SignatureItem.visibilityAfter, hs]
  | _ => exact ⟨rfl, rfl⟩

theorem SignatureItem.mindsMarkers :
    MindsMarkers SignatureItem.comment? (fun item => item.isSplice = false)
      SignatureItem.renderAll where
  nil _ _ := rfl
  stop := by
    intro x hx visibility xs
    rw [SignatureItem.comment?_eq_some_iff.mp hx]
    simp only [SignatureItem.renderAll, SignatureItem.render, SignatureItem.visibilityAfter,
      pure_bind, Content.empty_append, bind_pure]
  hidden := by
    intro x docs hx xs
    have hempty : (SignatureItem.comment (.docs docs)).render .hidden = pure {} := rfl
    rw [SignatureItem.comment?_eq_some_iff.mp hx]
    simp only [SignatureItem.renderAll, hempty, SignatureItem.visibilityAfter, pure_bind,
      Content.empty_append, bind_pure]
  shown := by
    intro x docs hx xs ys h
    rw [SignatureItem.comment?_eq_some_iff.mp hx]
    simp only [SignatureItem.renderAll, SignatureItem.visibilityAfter, h]
  other := by
    intro x hx hplain visibility visibility' xs ys h
    obtain ⟨hrender, hafter⟩ := SignatureItem.render_of_other hx hplain visibility visibility'
    obtain ⟨-, hafter'⟩ := SignatureItem.render_of_other hx hplain visibility' visibility
    simp only [SignatureItem.renderAll, hrender, hafter, hafter', h]

theorem ClassItem.mindsMarkers (here : Here) :
    MindsMarkers ClassItem.comment? (fun _ => True) (ClassItem.renderAll here) where
  nil _ _ := rfl
  stop := by
    intro x hx visibility xs
    rw [ClassItem.comment?_eq_some_iff.mp hx, ClassItem.renderAll]
  hidden := by
    intro x docs hx xs
    have hempty : (liftM (docs.comment here .hidden) : Checked Content) = pure {} := rfl
    rw [ClassItem.comment?_eq_some_iff.mp hx]
    simp only [ClassItem.renderAll, hempty, pure_bind, Content.empty_append, bind_pure]
  shown := by
    intro x docs hx xs ys h
    rw [ClassItem.comment?_eq_some_iff.mp hx]
    simp only [ClassItem.renderAll, h]
  other := by
    intro x hx _ visibility visibility' xs ys h
    cases x with
    | comment c => cases hx
    | «inherit» type =>
      cases type with
      | constr p ts => simp only [ClassItem.renderAll, h]
      | signature self items => simp only [ClassItem.renderAll]
    | method m => simp only [ClassItem.renderAll, h]
    | instanceVariable v => simp only [ClassItem.renderAll, h]
    | constraint left right => simp only [ClassItem.renderAll, h]

/-- **Markers, hidden comments and splices normalise away.**  A signature is rendered as its normal
form is, whatever the settings and the open pages: the same content with its pages in the same order
or the same error, the same warnings and the same pages left open.  The same holds of the members
of a class.  In a normal form no marker is left, and nothing that is spliced in. -/
theorem Signature.render_eq_render_normal :
    (∀ (sig : Signature) (cfg : Settings) (s : Scopes),
      sig.render cfg s = sig.normal.render cfg s) ∧
    (∀ (sig : ClassSignature) (here : Here), sig.render here = sig.normal.render here) ∧
    (∀ (sig : Signature), ∀ item ∈ sig.normal,
      item.comment? ≠ some .stop ∧ item.isSplice = false) ∧
    ∀ (sig : ClassSignature), ∀ item ∈ sig.normal.items, item.comment? ≠ some .stop := by
  refine ⟨?_, ?_, ?_, ?_⟩
  · intro sig cfg s
    have hsplice := SignatureItem.renderAll_splicedAll .visible sig
    have hmarkers := SignatureItem.mindsMarkers.render_unmarked 0 (SignatureItem.splicedAll sig)
      (SignatureItem.isSplice_of_mem_splicedAll sig)
    rw [Signature.render, Signature.render, Signature.normal, ← hsplice]
    exact congrFun (congrFun hmarkers cfg) s
  · intro sig here
    exact (ClassItem.mindsMarkers here).render_unmarked 0 sig.items fun _ _ => trivial
  · intro sig item hitem
    have hmem := subset_of_unmarked _ _ _ hitem
    exact ⟨comment?_ne_stop_of_mem_unmarked hitem,
      SignatureItem.isSplice_of_mem_splicedAll sig item hmem⟩
  · intro sig item hitem
    exact comment?_ne_stop_of_mem_unmarked hitem

/-- A signature in which a marker inside an include that is spliced in hides a comment after it, and
an include that is not has a marker of its own. -/
def sampleMarkers : Signature :=
  let lib := Identifier.top .root "Lib"
  let other : ModuleDecl := .alias (.root "Other")
  [.comment (.docs (.ofText "shown")),
    .include lib [.tag .inline] other
      [.comment .stop, .comment (.docs (.ofText "hidden")),
        .value { id := lib.child .value "start", type := .any }],
    .comment (.docs (.ofText "hidden as well")),
    .include lib [] other [.comment (.docs (.ofText "shown inside")), .comment .stop],
    .comment .stop,
    .comment (.docs (.ofText "shown again"))]

theorem normal_sampleMarkers :
    let lib := Identifier.top .root "Lib"
    let normal : Signature :=
      [.comment (.docs (.ofText "shown")),
        .value { id := lib.child .value "start", type := .any },
        .include lib [] (.alias (.root "Other"))
          [.comment (.docs (.ofText "shown inside")), .comment .stop],
        .comment (.docs (.ofText "shown again"))]
    sampleMarkers.normal = normal ∧ sampleMarkers.render {} {} = normal.render {} {} ∧
      ∀ item ∈ normal, item.isSplice = false := by
  obtain ⟨hrender, -, hclean, -⟩ := Signature.render_eq_render_normal
  refine ⟨rfl, hrender sampleMarkers {} {}, ?_⟩
  intro item hitem
  exact (hclean sampleMarkers item hitem).2

end DocSite
