import DocSite.Proofs.Checkpoints
import DocSite.Proofs.Separation

/-!
# How a rendering ends

A rendering ends in a result or at a fault, and in either case with some pages open.  This file says
which.

*The pages.*  `Render.InTurn` follows a run step by step and says of each step that leaves a page
or makes one that it succeeds.  That is more than can be read off the result, because a fault met on
a page hides a failure to leave that page.  A run in turn ends with the pages it began with.

*The fault.*  `Render.VisitsAt` says that a run comes to the checkpoints of an itinerary and ends at
the first that is not sound, with its fault; if all are sound there is a result.  There is one lemma
for each way in which renderings are put together, and the induction over signatures names them.

Together: rendering fails exactly if one of its checkpoints is not sound, and never because of its
pages.
-/

namespace DocSite

variable {α β : Type}

/-! ## The first checkpoint that is not sound -/

namespace Checkpoint

/-- The fault of the first checkpoint that is not sound. -/
def firstFault (points : List Checkpoint) : Option Fault :=
  (points.find? fun point => ¬ point.Sound).map fault

/-- The fault of the first checkpoint that is not sound, with the page of that checkpoint. -/
def firstError (points : Itinerary) : Option RenderError :=
  (points.find? fun p => ¬ p.2.Sound).map fun p => ⟨"/".intercalate p.1, p.2.fault⟩

theorem firstFault_append (a b : List Checkpoint) :
    firstFault (a ++ b) = (firstFault a).or (firstFault b) := by
  rw [firstFault, List.find?_append, Option.map_or]
  rfl

theorem firstError_append (a b : Itinerary) :
    firstError (a ++ b) = (firstError a).or (firstError b) := by
  rw [firstError, List.find?_append, Option.map_or]
  rfl

/-- Checkpoints on one page are at fault on that page. -/
theorem firstError_onPage (page : PagePath) (points : List Checkpoint) :
    firstError (onPage page points) =
      (firstFault points).map (RenderError.mk ("/".intercalate page)) := by
  rw [firstError, onPage, List.find?_map, firstFault, Option.map_map, Option.map_map]
  rfl

theorem firstFault_cons_of_sound {point : Checkpoint} (h : point.Sound) (points : List Checkpoint) :
    firstFault (point :: points) = firstFault points := by
  simp [firstFault, h]

theorem firstFault_cons_of_not_sound {point : Checkpoint} (h : ¬ point.Sound)
    (points : List Checkpoint) : firstFault (point :: points) = some point.fault := by
  simp [firstFault, h]

theorem firstError_cons_of_sound {page : PagePath} {point : Checkpoint} (h : point.Sound)
    (points : Itinerary) :
    firstError ((page, point) :: points) = firstError points := by
  simp [firstError, h]

theorem firstError_cons_of_not_sound {page : PagePath} {point : Checkpoint} (h : ¬ point.Sound)
    (points : Itinerary) :
    firstError ((page, point) :: points) = some ⟨"/".intercalate page, point.fault⟩ := by
  simp [firstError, h]

theorem firstError_eq_none_iff {points : Itinerary} :
    firstError points = none ↔ ∀ p ∈ points, p.2.Sound := by
  simp [firstError]

/-- An error is that of a checkpoint with only sound checkpoints before it. -/
theorem firstError_eq_some_iff {points : Itinerary} {e : RenderError} :
    firstError points = some e ↔
      ∃ before page point after, points = before ++ (page, point) :: after ∧
        (∀ p ∈ before, p.2.Sound) ∧ ¬ point.Sound ∧ e = ⟨"/".intercalate page, point.fault⟩ := by
  rw [firstError, Option.map_eq_some_iff]
  constructor
  · rintro ⟨⟨page, point⟩, hfind, rfl⟩
    obtain ⟨hpoint, before, after, rfl, hbefore⟩ := List.find?_eq_some_iff_append.mp hfind
    refine ⟨before, page, point, after, rfl, ?_, by simpa using hpoint, rfl⟩
    intro p hp
    simpa using hbefore p hp
  · rintro ⟨before, page, point, after, rfl, hbefore, hpoint, rfl⟩
    refine ⟨(page, point), List.find?_eq_some_iff_append.mpr ?_, rfl⟩
    refine ⟨by simpa using hpoint, before, after, rfl, ?_⟩
    intro p hp
    simpa using hbefore p hp

end Checkpoint

/-! ## Texts -/

namespace Checked

/-- The fault at which a text is given up, if it is. -/
def fault? (x : Checked α) : Option Fault :=
  match x.run.value with
  | .error fault => some fault
  | .ok _ => none

@[simp] theorem fault?_pure (a : α) : fault? (pure a) = none := rfl

@[simp] theorem fault?_lift (x : Noted α) : fault? (liftM x) = none := rfl

/-- Of two texts in a row, the second is given up if the first is not. -/
theorem fault?_bind {x : Checked α} {f : α → Checked β} {first second : Option Fault}
    (hx : fault? x = first) (hf : ∀ a, fault? (f a) = second) :
    fault? (x >>= f) = first.or second := by
  subst hx
  obtain ⟨v, n⟩ := x
  cases v with
  | error e => rfl
  | ok a => exact hf a

/-- What is made of a text is given up where the text is. -/
theorem fault?_map {x : Checked α} {g : α → β} {first : Option Fault} (hx : fault? x = first) :
    fault? (do return g (← x)) = first := by
  rw [fault?_bind hx fun a => fault?_pure (g a), Option.or_none]

/-- A text that cannot be given up does not matter. -/
theorem fault?_lift_bind {x : Noted α} {f : α → Checked β} {second : Option Fault}
    (hf : ∀ a, fault? (f a) = second) : fault? (liftM x >>= f) = second := by
  rw [fault?_bind (fault?_lift x) hf, Option.none_or]

end Checked

open Checkpoint (firstFault firstFault_append)

mutual

/-- A module type is given up at the first type that it replaces by nothing. -/
theorem ModuleTypeExpr.fault?_render (here : Here) (base : Identifier) :
    ∀ type : ModuleTypeExpr, (type.render here base).fault? = firstFault type.checkpoints
  | .path _ | .signature _ => rfl
  | .functor .unit result => Checked.fault?_map (ModuleTypeExpr.fault?_render here base result)
  | .functor (.named _ type _) result => by
    have htype := ModuleTypeExpr.fault?_render here base type
    have hresult := ModuleTypeExpr.fault?_render here base result
    simp only [ModuleTypeExpr.render, ModuleTypeExpr.checkpoints, firstFault_append]
    exact Checked.fault?_bind htype fun _ => Checked.fault?_map hresult
  | .constrained inner substitutions => by
    have hinner := ModuleTypeExpr.fault?_render here base inner
    have hparts := Substitution.fault?_renderAll here (inner.constraintBase base) substitutions
    simp only [ModuleTypeExpr.render, ModuleTypeExpr.checkpoints, firstFault_append]
    exact Checked.fault?_bind hinner fun _ => Checked.fault?_map hparts
  | .typeOf decl => Checked.fault?_map (ModuleDecl.fault?_renderBody here base decl)

theorem ModuleDecl.fault?_renderBody (here : Here) (base : Identifier) :
    ∀ decl : ModuleDecl, (decl.renderBody here base).fault? = firstFault decl.checkpoints
  | .alias _ => rfl
  | .moduleType type => ModuleTypeExpr.fault?_render here base type

theorem Substitution.fault?_renderAll (here : Here) (base : Identifier) :
    ∀ ss : List Substitution,
      (Substitution.renderAll here base ss).fault? = firstFault (Substitution.checkpointsAll ss)
  | [] => rfl
  | s :: ss => by
    have hs := Substitution.fault?_render here base s
    have hss := Substitution.fault?_renderAll here base ss
    simp only [Substitution.renderAll, Substitution.checkpointsAll, firstFault_append]
    exact Checked.fault?_bind hs fun _ => Checked.fault?_map hss

theorem Substitution.fault?_render (here : Here) (base : Identifier) :
    ∀ s : Substitution, (s.render here base).fault? = firstFault s.checkpoints
  | .moduleEq _ decl =>
    Checked.fault?_lift_bind fun _ =>
      Checked.fault?_map (ModuleDecl.fault?_renderBody here base decl)
  | .moduleSubst .. | .typeEq .. => rfl
  | .typeSubst fragment equation => by
    simp only [Substitution.render, Substitution.checkpoints]
    cases hmanifest : equation.manifest with
    | none =>
      have hpoint : ¬ (Checkpoint.replaced fragment equation).Sound := by
        simp [Checkpoint.Sound, hmanifest]
      rw [Checkpoint.firstFault_cons_of_not_sound hpoint]
      rfl
    | some type =>
      have hpoint : (Checkpoint.replaced fragment equation).Sound := by
        simp [Checkpoint.Sound, hmanifest]
      rw [Checkpoint.firstFault_cons_of_sound hpoint]
      rfl

end

theorem ModuleDecl.fault?_render (here : Here) (base : Identifier) (decl : ModuleDecl) :
    (decl.render here base).fault? = firstFault decl.checkpoints :=
  Checked.fault?_map (ModuleDecl.fault?_renderBody here base decl)

theorem moduleTypeTail_fault? (here : Here) (id : Identifier) (type : Option ModuleTypeExpr) :
    (moduleTypeTail here id type).fault? = firstFault (ModuleTypeExpr.optionCheckpoints type) := by
  cases type with
  | none => rfl
  | some type => exact Checked.fault?_map (ModuleTypeExpr.fault?_render here id type)

theorem includeHead_fault? (here : Here) (parent : Identifier) (doc : Docs) (decl : ModuleDecl) :
    (includeHead here parent doc decl).fault? = firstFault decl.checkpoints := by
  have hdecl := ModuleDecl.fault?_renderBody here parent decl
  refine (Checked.fault?_bind hdecl fun summary => ?_).trans (Option.or_none)
  exact Checked.fault?_lift_bind fun _ => Checked.fault?_pure _

/-- The position of a functor argument is looked at before its type. -/
theorem parameterType_fault? (here : Here) (position : Nat) (id : Identifier)
    (type : ModuleTypeExpr) :
    (parameterType here position id type).fault? =
      firstFault (.parameter position id :: type.checkpoints) := by
  have hargument : (checkArgument position id).fault? = firstFault [.parameter position id] := by
    rw [checkArgument]
    split
    · rename_i claimed hkind
      have hiff : (Checkpoint.parameter position id).Sound ↔ claimed.toNat = position :=
        Checkpoint.sound_parameter_iff hkind
      split
      · rename_i hposition
        rw [Checkpoint.firstFault_cons_of_sound (hiff.mpr hposition)]
        rfl
      · rename_i hposition
        rw [Checkpoint.firstFault_cons_of_not_sound (mt hiff.mp hposition), Checkpoint.fault, hkind]
        rfl
    · rename_i hkind
      rw [Checkpoint.firstFault_cons_of_not_sound (Checkpoint.not_sound_parameter hkind),
        Checkpoint.fault]
      split
      · rename_i claimed hclaimed
        exact absurd hclaimed (hkind claimed)
      · rfl
  have htype := ModuleTypeExpr.fault?_render here id type
  have hsplit := firstFault_append [.parameter position id] type.checkpoints
  rw [List.singleton_append] at hsplit
  rw [hsplit, parameterType]
  exact Checked.fault?_bind hargument fun _ => htype

/-- The members of a class are given up at the first object type that is inherited. -/
theorem ClassItem.fault?_renderAll (here : Here) (visibility : Visibility)
    (items : List ClassItem) :
    (ClassItem.renderAll here visibility items).fault? =
      firstFault (ClassItem.checkpointsAll items) := by
  fun_induction ClassItem.renderAll here visibility items with
  | case1 => rfl
  | case2 _ items ih => exact ih
  | case3 _ docs items ih => exact Checked.fault?_lift_bind fun _ => Checked.fault?_map ih
  | case4 _ m items ih => exact Checked.fault?_lift_bind fun _ => Checked.fault?_map ih
  | case5 _ v items ih => exact Checked.fault?_lift_bind fun _ => Checked.fault?_map ih
  | case6 _ left right items ih =>
    exact Checked.fault?_lift_bind fun _ => Checked.fault?_map ih
  | case7 _ self members items =>
    exact (Checkpoint.firstFault_cons_of_not_sound
      (Checkpoint.not_sound_inherited_signature self members) (ClassItem.checkpointsAll items)).symm
  | case8 _ p ts items ih =>
    have hpoints : firstFault (ClassItem.checkpointsAll (.inherit (.constr p ts) :: items)) =
        firstFault (ClassItem.checkpointsAll items) :=
      Checkpoint.firstFault_cons_of_sound (Checkpoint.sound_inherited_constr p ts) _
    rw [hpoints]
    exact Checked.fault?_lift_bind fun _ => Checked.fault?_map ih

/-! ## Pages in turn -/

namespace Render

/-- A run in which every page is left with its own token and every page is made while it is open.
The run is followed step by step: what comes after a fault is not run, and the two steps that can
go wrong, to leave a page and to make one, go well. -/
inductive InTurn (cfg : Settings) : {α : Type} → Render α → Scopes → Prop where
  | pure {α : Type} (a : α) (s : Scopes) : InTurn cfg (Pure.pure a) s
  | check {α : Type} (f : Here → Checked α) (s : Scopes) : InTurn cfg (Render.check f) s
  | note {α : Type} (f : Here → Noted α) (s : Scopes) : InTurn cfg (Render.note f) s
  | bind {α β : Type} {x : Render α} {f : α → Render β} {s : Scopes} (hx : InTurn cfg x s)
      (hf : ∀ a, (x cfg s).result = .ok a → InTurn cfg (f a) (x cfg s).scopes) :
      InTurn cfg (x >>= f) s
  | onPage {α : Type} {body : Render α} {kind : PageKind} {name : String} {s outer : Scopes}
      (hbody : InTurn cfg body (s.enter kind name).2)
      (hleave : (body cfg (s.enter kind name).2).scopes.leave (s.enter kind name).1 = .ok outer) :
      InTurn cfg (Render.onPage kind name body) s
  | buildPage {title : String} {header : Markup} {toc : List ContentsEntry} {body : Markup}
      {children : List Page} {s : Scopes} {page : Page}
      (h : s.build title header toc body children = .ok page) :
      InTurn cfg (Render.buildPage title header toc body children) s

variable {cfg : Settings} {s : Scopes}

/-- A run in turn ends with the pages it began with, whether or not it has a result. -/
theorem InTurn.scopes {x : Render α} (h : InTurn cfg x s) : (x cfg s).scopes = s := by
  induction h with
  | pure | check | note => rfl
  | @bind α β x f s hx hf ihx ihf =>
    rw [bind_run]
    cases hresult : (x cfg s).result with
    | error e => exact ihx
    | ok a =>
      have hrest := ihf a hresult
      rw [ihx] at hrest
      simp only [ihx, hrest]
  | @onPage α body kind name s outer hbody hleave ih =>
    simp only [Render.onPage, ih, Scopes.leave_enter]
  | @buildPage title header toc body children s page h =>
    simp only [Render.buildPage, h]

/-- A page just entered can be left after a run in turn. -/
theorem InTurn.onPage_enter {body : Render α} {kind : PageKind} {name : String}
    (h : InTurn cfg body (s.enter kind name).2) : InTurn cfg (Render.onPage kind name body) s := by
  have hleave : (body cfg (s.enter kind name).2).scopes.leave (s.enter kind name).1 = .ok s := by
    rw [h.scopes, Scopes.leave_enter]
  exact .onPage h hleave

/-! ## Checkpoints and where they stop a run -/

/-- The error of an outcome without a result. -/
def error? (x : Render α) (cfg : Settings) (s : Scopes) : Option RenderError :=
  match (x cfg s).result with
  | .error e => some e
  | .ok _ => none

/-- The run keeps its pages in turn and ends at the first checkpoint that is not sound. -/
structure VisitsAt (x : Render α) (cfg : Settings) (s : Scopes)
    (points : Itinerary) : Prop where
  inTurn : InTurn cfg x s
  error : x.error? cfg s = Checkpoint.firstError points

namespace VisitsAt

variable {points rest : Itinerary}

theorem pure (a : α) : VisitsAt (Pure.pure a) cfg s [] := ⟨.pure a s, rfl⟩

theorem note (f : Here → Noted α) : VisitsAt (Render.note f) cfg s [] := ⟨.note f s, rfl⟩

/-- The checkpoints of a text are on the current page. -/
theorem check {f : Here → Checked α} {ps : List Checkpoint}
    (h : (f ⟨cfg, s.path⟩).fault? = Checkpoint.firstFault ps) :
    VisitsAt (Render.check f) cfg s (Checkpoint.onPage s.path ps) where
  inTurn := .check f s
  error := by
    rw [Checkpoint.firstError_onPage, ← h, error?, Render.check, Checked.fault?]
    cases (f ⟨cfg, s.path⟩).run.value with
    | error fault => rfl
    | ok a => rfl

theorem bind {x : Render α} {f : α → Render β} (hx : VisitsAt x cfg s points)
    (hf : ∀ a, VisitsAt (f a) cfg s rest) : VisitsAt (x >>= f) cfg s (points ++ rest) where
  inTurn := by
    refine .bind hx.inTurn fun a _ => ?_
    rw [hx.inTurn.scopes]
    exact (hf a).inTurn
  error := by
    have hfirst := hx.error
    rw [Checkpoint.firstError_append, ← hfirst, error?, error?, bind_run, hx.inTurn.scopes]
    cases (x cfg s).result with
    | error e => rfl
    | ok a => exact (hf a).error

/-- The pages that a body visits from a page just entered are visited from the page around it. -/
theorem onPage {body : Render α} {kind : PageKind} {name : String}
    (h : VisitsAt body cfg (s.enter kind name).2 points) :
    VisitsAt (Render.onPage kind name body) cfg s points where
  inTurn := .onPage_enter h.inTurn
  error := by
    rw [← h.error]
    simp only [error?, Render.onPage, h.inTurn.scopes, Scopes.leave_enter]

/-- A page can be made once it is entered. -/
theorem buildPage (kind : PageKind) (name title : String) (header : Markup)
    (toc : List ContentsEntry) (body : Markup) (children : List Page) :
    VisitsAt (Render.buildPage title header toc body children) cfg (s.enter kind name).2 [] where
  inTurn := .buildPage (Scopes.build_enter ..)
  error := by
    rw [error?, Render.buildPage, Scopes.build_enter]
    rfl

end VisitsAt

/-- The rendering visits these checkpoints, whatever page it is on. -/
def Visits (x : Render α) (points : PagePath → Itinerary) : Prop :=
  ∀ cfg s, VisitsAt x cfg s (points s.path)

namespace Visits

theorem pure (a : α) : Visits (Pure.pure a) fun _ => [] := fun _ _ => .pure a

theorem note (f : Here → Noted α) : Visits (Render.note f) fun _ => [] := fun _ _ => .note f

theorem check {f : Here → Checked α} {ps : List Checkpoint}
    (h : ∀ here, (f here).fault? = Checkpoint.firstFault ps) :
    Visits (Render.check f) fun page => Checkpoint.onPage page ps :=
  fun _ _ => .check (h _)

variable {x y : Render Content} {p q : PagePath → Itinerary}

/-- Two renderings one after the other, and what is made of them. -/
theorem both {g : Content → Content → Content} (hx : Visits x p) (hy : Visits y q) :
    Visits (do let a ← x; let b ← y; return g a b) fun page => p page ++ q page := by
  intro cfg s
  have hrest : ∀ a, VisitsAt (do let b ← y; return g a b) cfg s (q s.path ++ []) :=
    fun a => (hy cfg s).bind fun b => .pure (g a b)
  rw [List.append_nil] at hrest
  exact (hx cfg s).bind hrest

theorem plainItem (node : Here → Noted Node) : Visits (Render.plainItem node) fun _ => [] :=
  fun _ _ => (VisitsAt.note node).bind fun _ => .pure _

theorem includeItem (parent : Identifier) (doc : Docs) (decl : ModuleDecl) (hx : Visits x p) :
    Visits (Render.includeItem parent doc decl x) fun page =>
      Checkpoint.onPage page decl.checkpoints ++ p page := by
  intro cfg s
  have hhead := Visits.check (fun here => includeHead_fault? here parent doc decl) cfg s
  have hrest : ∀ head, VisitsAt (do
      let inner ← x
      Render.note fun here => Pure.pure (includeBody here.settings doc head inner)) cfg s
        (p s.path ++ []) :=
    fun head => (hx cfg s).bind fun inner => .note _
  rw [List.append_nil] at hrest
  exact hhead.bind hrest

/-- A page visits what its content does. -/
theorem pageOf (kind : PageKind) (name title : String) (doc : Docs) (hx : Visits x p)
    (cfg : Settings) (s : Scopes) :
    VisitsAt (Render.pageOf title doc x) cfg (s.enter kind name).2
      (p (s.path ++ [kind.segment name])) := by
  have hcontent := hx cfg (s.enter kind name).2
  rw [Scopes.path_enter] at hcontent
  have hrest : ∀ header, VisitsAt (do
      let content ← x
      Render.buildPage title header (doc.headings ++ content.toc) content.body content.pages) cfg
        (s.enter kind name).2 (p (s.path ++ [kind.segment name]) ++ []) :=
    fun header => hcontent.bind fun content => .buildPage ..
  rw [List.append_nil] at hrest
  exact (VisitsAt.note _).bind hrest

end Visits

/-- What is visited because of an expansion.  If it is itself at fault, that is a checkpoint on the
page around it, and what would come after does not matter. -/
inductive Reaches (segment : String) : Option (Except Fault (Render Content)) →
    (PagePath → Itinerary) → Prop where
  | none : Reaches segment none fun _ => []
  | fault {point : Checkpoint} (h : ¬ point.Sound) (rest : PagePath → Itinerary) :
      Reaches segment (some (.error point.fault)) fun page => (page, point) :: rest page
  | reused {point : Checkpoint} (h : point.Sound) {content : Render Content}
      {points : PagePath → Itinerary} (hcontent : Visits content points) :
      Reaches segment (some (.ok content)) fun page =>
        (page, point) :: points (page ++ [segment])
  | page {content : Render Content} {points : PagePath → Itinerary}
      (hcontent : Visits content points) :
      Reaches segment (some (.ok content)) fun page => points (page ++ [segment])

/-- The page of content that is visited. -/
theorem Visits.page {content : Render Content} {points : PagePath → Itinerary}
    (h : Visits content points) (kind : PageKind) (name : String) (id : Identifier) (doc : Docs) :
    Visits (pageOfExpansion kind name id doc (some (.ok content))) fun page =>
      points (page ++ [kind.segment name]) := by
  intro cfg s
  have hpage := VisitsAt.onPage (h.pageOf kind name (kind.title ++ " " ++ id.display) doc cfg s)
  have hsome := hpage.bind fun page => VisitsAt.pure (some page)
  rwa [List.append_nil] at hsome

theorem Reaches.visits {kind : PageKind} {name : String}
    {expansion : Option (Except Fault (Render Content))}
    {points : PagePath → Itinerary}
    (h : Reaches (kind.segment name) expansion points) (id : Identifier) (doc : Docs) :
    Visits (pageOfExpansion kind name id doc expansion) points := by
  intro cfg s
  cases h with
  | none => exact .pure _
  | @fault point hpoint rest =>
    have hcheck : VisitsAt (check fun _ => throw point.fault : Render (Option Page)) cfg s
        (Checkpoint.onPage s.path [point]) :=
      .check (by rw [Checkpoint.firstFault_cons_of_not_sound hpoint]; rfl)
    refine ⟨hcheck.inTurn, ?_⟩
    rw [Checkpoint.firstError_cons_of_not_sound hpoint]
    rfl
  | @reused point hpoint content points hcontent =>
    obtain ⟨hturn, herror⟩ := hcontent.page kind name id doc cfg s
    refine ⟨hturn, ?_⟩
    rw [Checkpoint.firstError_cons_of_sound hpoint]
    exact herror
  | page hcontent => exact hcontent.page kind name id doc cfg s

/-- An item visits what it is declared as and then its expansion. -/
theorem Visits.item {Declared : Type} {kind : PageKind} {name : String}
    {expansion : Option (Except Fault (Render Content))} {ps : List Checkpoint}
    {points : PagePath → Itinerary} (id : Identifier) (doc : Docs)
    {declared : Here → Checked Declared} (node : Here → Declared → Bool → Noted Node)
    (hdeclared : ∀ here, (declared here).fault? = Checkpoint.firstFault ps)
    (h : Reaches (kind.segment name) expansion points) :
    Visits (Render.item kind name id doc declared node expansion) fun page =>
      Checkpoint.onPage page ps ++ points page := by
  intro cfg s
  have hnode : ∀ (d : Declared) (page : Option Page), VisitsAt (do
      let n ← Render.note fun here => node here d page.isSome
      return Content.ofItem n page) cfg s [] :=
    fun d page => (VisitsAt.note _).bind fun n => .pure _
  have hrest : ∀ d, VisitsAt (do
      let page ← pageOfExpansion kind name id doc expansion
      let n ← Render.note fun here => node here d page.isSome
      return Content.ofItem n page) cfg s (points s.path ++ []) :=
    fun d => (h.visits id doc cfg s).bind (hnode d)
  rw [List.append_nil] at hrest
  exact (VisitsAt.check (hdeclared _)).bind hrest

end Render

/-! ## Signatures -/

open Render

/-- The page of a class visits the class types that its members inherit. -/
theorem ClassSignature.reaches (segment : String) (expansion : Option ClassSignature) :
    Reaches segment (expansion.map fun sig => .ok (Render.check fun here => sig.render here))
      fun page => ClassSignature.checkpoints (page ++ [segment]) expansion := by
  cases expansion with
  | none => exact .none
  | some sig => exact .page (.check fun here => ClassItem.fault?_renderAll here .visible sig.items)

/-- A class type that is shown is never at fault: only expansions are looked into. -/
theorem Visits.classItem {kind : PageKind} {name : String} (id : Identifier) (doc : Docs)
    (declared : Here → Noted Markup) (node : Here → Markup → Bool → Noted Node)
    (expansion : Option ClassSignature) :
    Visits (Render.item kind name id doc (fun here => declared here) node
        (expansion.map fun sig => .ok (Render.check fun here => sig.render here)))
      fun page => ClassSignature.checkpoints (page ++ [kind.segment name]) expansion := by
  have hdeclared : ∀ here, Checked.fault? (liftM (declared here)) = Checkpoint.firstFault [] :=
    fun here => Checked.fault?_lift (declared here)
  exact Visits.item id doc node hdeclared (ClassSignature.reaches _ expansion)

/-- What the declared type of a module holds is what is visited if an expansion reuses it. -/
def Reuses (declaresSignature : Bool) : Option (Render Content) →
    (PagePath → Itinerary) → Prop
  | some content, points => declaresSignature = true ∧ Visits content points
  | none, _ => declaresSignature = false

mutual

/-- Items visit their checkpoints, on every page and with comments shown or hidden. -/
theorem SignatureItem.visits_renderAll (visibility : Visibility) :
    ∀ items : List SignatureItem, Visits (SignatureItem.renderAll visibility items)
      fun page => SignatureItem.checkpointsAll page items
  | [] => .pure _
  | item :: items =>
    .both (SignatureItem.visits_render visibility item)
      (SignatureItem.visits_renderAll (item.visibilityAfter visibility) items)

@[inherit_doc SignatureItem.visits_renderAll]
theorem SignatureItem.visits_render (visibility : Visibility) :
    ∀ item : SignatureItem, Visits (item.render visibility) fun page => item.checkpoints page
  | .module recursion id doc decl expansion =>
    .item id doc _ (fun here => ModuleDecl.fault?_render here id decl)
      (ModuleExpansion.reaches id (ModuleDecl.reuses decl) expansion)
  | .moduleType id doc type expansion =>
    .item id doc _ (fun here => moduleTypeTail_fault? here id type)
      (ModuleExpansion.reaches id (ModuleTypeExpr.optionReuses type) expansion)
  | .moduleSubstitution id doc manifest => .plainItem _
  | .type recursion decl => .plainItem _
  | .typeSubstitution decl => .plainItem _
  | .extension e => .plainItem _
  | .exception e => .plainItem _
  | .value v => .plainItem _
  | .external e => .plainItem _
  | .class recursion c => Visits.classItem c.id c.doc _ _ c.expansion
  | .classType recursion c => Visits.classItem c.id c.doc _ _ c.expansion
  | .include parent doc decl expansion => by
    simp only [SignatureItem.render, SignatureItem.checkpoints]
    split
    · exact SignatureItem.visits_renderAll visibility expansion
    · exact .includeItem parent doc decl (SignatureItem.visits_renderAll .visible expansion)
  | .comment .stop => .pure _
  | .comment (.docs docs) => .note fun here => docs.comment here visibility

/-- An expansion visits its items on the page below. -/
theorem ModuleExpansion.reaches (id : Identifier) {segment : String} {flag : Bool}
    {declared : Option (Render Content)} {reused : PagePath → Itinerary}
    (hd : Reuses flag declared reused) :
    ∀ expansion : Option ModuleExpansion,
      Reaches segment (ModuleExpansion.content? id declared expansion) fun page =>
        ModuleExpansion.checkpoints page (page ++ [segment]) id flag (reused (page ++ [segment]))
          expansion
  | none => .none
  | some .asDeclared => by
    match declared, hd with
    | none, hflag =>
      have hpoint : ¬ (Checkpoint.asDeclared id flag).Sound := by
        rw [Checkpoint.Sound, show flag = false from hflag]
        exact Bool.false_ne_true
      exact .fault hpoint fun page => reused (page ++ [segment])
    | some content, ⟨hflag, hcontent⟩ =>
      have hpoint : (Checkpoint.asDeclared id flag).Sound := hflag
      exact .reused hpoint hcontent
  | some (.signature items) => .page (SignatureItem.visits_renderAll .visible items)
  | some (.functor parameters result) =>
    .page (.both (FunctorParameter.visits_renderAll 1 parameters)
      (SignatureItem.visits_renderAll .visible result))

theorem ModuleDecl.reuses : ∀ decl : ModuleDecl,
    Reuses decl.isSignature (ModuleDecl.content? decl) fun page =>
      ModuleDecl.reusedCheckpoints page decl
  | .moduleType (.signature items) => ⟨rfl, SignatureItem.visits_renderAll .visible items⟩
  | .alias _ | .moduleType (.path _) | .moduleType (.functor ..) | .moduleType (.constrained ..)
  | .moduleType (.typeOf _) => rfl

theorem ModuleTypeExpr.reuses : ∀ type : ModuleTypeExpr,
    Reuses type.isSignature (ModuleTypeExpr.content? type) fun page =>
      ModuleTypeExpr.reusedCheckpoints page type
  | .signature items => ⟨rfl, SignatureItem.visits_renderAll .visible items⟩
  | .path _ | .functor .. | .constrained .. | .typeOf _ => rfl

theorem ModuleTypeExpr.optionReuses : ∀ type : Option ModuleTypeExpr,
    Reuses (type.any ModuleTypeExpr.isSignature) (ModuleTypeExpr.optionContent? type) fun page =>
      ModuleTypeExpr.optionReusedCheckpoints page type
  | some type => ModuleTypeExpr.reuses type
  | none => rfl

/-- Functor parameters visit their positions, their types and their expansions. -/
theorem FunctorParameter.visits_renderAll (position : Nat) :
    ∀ parameters : List FunctorParameter,
      Visits (FunctorParameter.renderAll position parameters) fun page =>
        FunctorParameter.checkpointsAll page position parameters
  | [] => .pure _
  | .unit :: parameters => FunctorParameter.visits_renderAll (position + 1) parameters
  | .named id type expansion :: parameters =>
    .both
      (.item id [] _ (fun here => parameterType_fault? here position id type)
        (ModuleExpansion.reaches id (ModuleTypeExpr.reuses type) expansion))
      (FunctorParameter.visits_renderAll (position + 1) parameters)

end

/-! ## Roots -/

theorem UnitContent.visits_render (content : UnitContent) :
    Visits content.render fun page => content.checkpoints page := by
  cases content with
  | «module» items => exact SignatureItem.visits_renderAll .visible items
  | pack modules => exact .note fun here => PackedModule.renderAll here modules

/-- A root visits its checkpoints, on its own page inside that of its package. -/
theorem Root.visits_renderIn (package : String) (r : Root) :
    Visits (r.renderIn package) fun page => r.checkpoints (page ++ [package]) := by
  intro cfg s
  cases r with
  | unit u =>
    have hpage := u.content.visits_render.pageOf .unit u.id.name
      (PageKind.unit.title ++ " " ++ u.id.display) u.doc cfg (s.enter .package package).2
    rw [Scopes.path_enter] at hpage
    exact hpage.onPage.onPage
  | page p =>
    have hcontent : Visits (Render.note fun here => Docs.content here p.content) fun _ => [] :=
      .note _
    have hpage := hcontent.pageOf .page p.id.name p.id.name [] cfg (s.enter .package package).2
    rw [← DocPage.render_eq_pageOf] at hpage
    exact hpage.onPage.onPage

/-- The test for pages left open at the end is always passed. -/
theorem Root.render_eq (cfg : Settings) (r : Root) :
    r.render cfg =
      match (r.renderIn (cfg.packages.packageOf r.id) cfg {}).result with
      | .error e => .error e
      | .ok tree => .ok ⟨cfg.packages.packageOf r.id, tree,
          (r.renderIn (cfg.packages.packageOf r.id) cfg {}).warnings⟩ := by
  have hturn := (r.visits_renderIn (cfg.packages.packageOf r.id) cfg {}).inTurn
  rw [Root.render]
  cases (r.renderIn (cfg.packages.packageOf r.id) cfg {}).result with
  | error e => rfl
  | ok tree => simp [hturn.scopes]

/-- A root fails at the first of its checkpoints that is not sound. -/
theorem Root.render_eq_error_iff {cfg : Settings} {r : Root} {e : RenderError} :
    r.render cfg = .error e ↔
      Checkpoint.firstError (r.checkpoints [cfg.packages.packageOf r.id]) = some e := by
  have herror := (r.visits_renderIn (cfg.packages.packageOf r.id) cfg {}).error
  change _ = Checkpoint.firstError (r.checkpoints [cfg.packages.packageOf r.id]) at herror
  rw [← herror, Root.render_eq, error?]
  cases (r.renderIn (cfg.packages.packageOf r.id) cfg {}).result with
  | error e' => simp
  | ok tree => simp

/-- A root is rendered if it does not fail. -/
theorem Root.render_eq_ok_iff {cfg : Settings} {r : Root} :
    (∃ out, r.render cfg = .ok out) ↔
      Checkpoint.firstError (r.checkpoints [cfg.packages.packageOf r.id]) = none := by
  rw [Option.eq_none_iff_forall_ne_some]
  simp only [ne_eq, ← Root.render_eq_error_iff]
  cases r.render cfg with
  | error e => simp
  | ok out => simp

/-- **Rendering fails exactly at the first checkpoint that is not sound.**  A root is rendered if
and only if all its checkpoints are sound.  If it is not, the error is that of the first which is
not, in the order in which rendering comes to them, and it names the page of that checkpoint.  What
is trimmed does not matter: without it the root fails in the same way or not at all. -/
theorem Root.render_succeeds_iff_sound (cfg : Settings) (r : Root) :
    ((∃ out, r.render cfg = .ok out) ↔
      ∀ p ∈ r.checkpoints [cfg.packages.packageOf r.id], p.2.Sound) ∧
    (∀ e, r.render cfg = .error e ↔
      ∃ before page point after,
        r.checkpoints [cfg.packages.packageOf r.id] = before ++ (page, point) :: after ∧
        (∀ p ∈ before, p.2.Sound) ∧ ¬ point.Sound ∧
        e = ⟨"/".intercalate page, point.fault⟩) ∧
    ∀ e, r.trimmed.render cfg = .error e ↔ r.render cfg = .error e := by
  refine ⟨?_, ?_, ?_⟩
  · rw [Root.render_eq_ok_iff, Checkpoint.firstError_eq_none_iff]
  · intro e
    rw [Root.render_eq_error_iff, Checkpoint.firstError_eq_some_iff]
  · intro e
    rw [Root.render_eq_error_iff, Root.render_eq_error_iff, Root.id_trimmed,
      Root.checkpoints_trimmed]

/-- Of two faults of one module, that of its declared type is met before that of its expansion. -/
example :
    let lib := Identifier.top .root "Lib"
    let type : ModuleTypeExpr := .constrained (.path (.root "S")) [.typeSubst (.ofName "t") {}]
    let item : SignatureItem :=
      .module .ordinary (lib.child .module "M") [] (.moduleType type) (some .asDeclared)
    (Root.unit ⟨lib, [], .module [item]⟩).render {} =
      .error ⟨"Lib/Lib", .missingManifest (.ofName "t")⟩ := rfl

/-! ## Open pages -/

theorem Visits.balanced {x : Render α} {points : PagePath → Itinerary}
    (h : Visits x points) : Balanced x :=
  fun cfg s => (h cfg s).inTurn.scopes

/-- **Pages are left in turn on every way out.**  Whatever opens pages gives the open pages back as
it found them, with a result or without: signatures, the members of a class, includes, functors and
their parameters, every item of a signature, and roots.  So a root that starts with no page open
ends with none open, no page fails to be left or made on the way, and no error is about open
pages. -/
theorem Root.scopes_balance :
    (∀ items : Signature, Balanced items.render) ∧
    (∀ sig : ClassSignature, Balanced (Render.check fun here => sig.render here)) ∧
    (∀ parent doc decl (items : Signature),
      Balanced (includeItem parent doc decl items.render)) ∧
    (∀ parameters (result : Signature), Balanced (do
      let parameters ← FunctorParameter.renderAll 1 parameters
      let result ← result.render
      return functorBody parameters result)) ∧
    (∀ position parameters, Balanced (FunctorParameter.renderAll position parameters)) ∧
    (∀ visibility item, Balanced (SignatureItem.render visibility item)) ∧
    (∀ package r, Balanced (Root.renderIn package r)) ∧
    ∀ (cfg : Settings) (r : Root) (package : String),
      (r.renderIn package cfg {}).scopes = {} ∧ InTurn cfg (r.renderIn package) {} ∧
      (∀ context error, r.render cfg ≠ .error ⟨context, .scope error⟩) ∧
      ∀ context count, r.render cfg ≠ .error ⟨context, .scopesLeftOpen count⟩ := by
  have hsignature : ∀ items : Signature,
      Visits items.render fun page => SignatureItem.checkpointsAll page items :=
    SignatureItem.visits_renderAll .visible
  have hpoint : ∀ cfg r e, Root.render cfg r = .error e →
      ∃ point : Checkpoint, e.fault = point.fault := by
    intro cfg r e he
    rw [Root.render_eq_error_iff, Checkpoint.firstError_eq_some_iff] at he
    obtain ⟨before, page, point, after, -, -, -, rfl⟩ := he
    exact ⟨point, rfl⟩
  refine ⟨?_, fun sig => .check _, ?_, ?_, ?_, ?_, ?_, ?_⟩
  · intro items
    exact Visits.balanced (hsignature items)
  · intro parent doc decl items
    exact Visits.balanced (.includeItem parent doc decl (hsignature items))
  · intro parameters result
    exact Visits.balanced
      (.both (FunctorParameter.visits_renderAll 1 parameters) (hsignature result))
  · intro position parameters
    exact Visits.balanced (FunctorParameter.visits_renderAll position parameters)
  · intro visibility item
    exact Visits.balanced (SignatureItem.visits_render visibility item)
  · intro package r
    exact Visits.balanced (r.visits_renderIn package)
  · intro cfg r package
    have hturn := (r.visits_renderIn package cfg {}).inTurn
    refine ⟨hturn.scopes, hturn, ?_, ?_⟩
    · intro context error he
      obtain ⟨point, hfault⟩ := hpoint cfg r _ he
      exact point.fault_ne_scope error hfault.symm
    · intro context count he
      obtain ⟨point, hfault⟩ := hpoint cfg r _ he
      exact point.fault_ne_scopesLeftOpen count hfault.symm

end DocSite
