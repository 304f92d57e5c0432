import DocSite.Render.Fault
import DocSite.Site.Link

/-!
# Rendering with notes

Text that cannot be linked is still text.  Whatever renders the inline parts of a page therefore
never fails; it leaves a note about each place it had to leave plain, in the order in which it came
to them.  What it needs to know of its surroundings is the page it stands on, since all links are
relative to that page.

Some texts can be faulty, and only these are `Checked`: they end at the first fault, with the notes
that were left before it.
-/

namespace DocSite

/-- Something that had to be shown without its link or anchor, and why. -/
inductive Note where
  | path (path : Path) (error : ResolveError)
  | fragment (fragment : Fragment) (error : ResolveError)
  | anchor (id : Identifier) (error : ResolveError)
  | reference (target : Identifier) (error : ResolveError)
  | row (id : Identifier) (error : ResolveError)
  | variantRow (typeId : Identifier) (error : ResolveError)

namespace Note

def message : Note → String
  | path p e => "cannot link path `" ++ p.display ++ "`: " ++ e.message
  | fragment f e => "cannot link fragment `" ++ f.display ++ "`: " ++ e.message
  | anchor id e => "no anchor for `" ++ id.display ++ "`: " ++ e.message
  | reference id e => "unresolved reference `" ++ id.display ++ "`: " ++ e.message
  | row id e => "row `" ++ id.display ++ "` rendered without anchor: " ++ e.message
  | variantRow id e =>
    "variant row of `" ++ id.display ++ "` rendered without anchor: " ++ e.message

end Note

/-- A value and the notes left on the way to it. -/
structure Noted (α : Type) where
  value : α
  notes : List Note

namespace Noted

variable {α β : Type}

instance : Monad Noted where
  pure a := ⟨a, []⟩
  bind x f := ⟨(f x.value).value, x.notes ++ (f x.value).notes⟩

@[simp] theorem value_pure (a : α) : (pure a : Noted α).value = a := rfl

@[simp] theorem notes_pure (a : α) : (pure a : Noted α).notes = [] := rfl

@[simp] theorem value_bind (x : Noted α) (f : α → Noted β) :
    (x >>= f).value = (f x.value).value := rfl

@[simp] theorem notes_bind (x : Noted α) (f : α → Noted β) :
    (x >>= f).notes = x.notes ++ (f x.value).notes := rfl

/-- The value of a computation that may fail, or a substitute with a note about the failure. -/
def orElse (x : Except ResolveError α) (note : ResolveError → Note) (substitute : α) : Noted α :=
  match x with
  | .ok a => ⟨a, []⟩
  | .error e => ⟨substitute, [note e]⟩

end Noted

/-- Text that is given up at the first fault; what was noted before the fault stays noted. -/
abbrev Checked := ExceptT Fault Noted

/-- The page that is being rendered. -/
structure Here where
  settings : Settings
  page : PagePath

namespace Here

/-- A path, or its text if it cannot be linked. -/
def path (here : Here) (stopBefore : Bool) (p : Path) : Noted Markup :=
  .orElse (here.settings.pathMarkup here.page stopBefore p) (.path p) [.text p.display]

/-- A fragment, or its text if it cannot be linked. -/
def fragment (here : Here) (base : Identifier) (f : Fragment) : Noted Markup :=
  .orElse (here.settings.fragmentMarkup here.page base f) (.fragment f) [.text f.display]

/-- A fragment relative to a signature that may not be known; if it is not, only its text is left
and there is nothing to note. -/
def fragmentOrText (here : Here) (base : Option Identifier) (f : Fragment) : Noted Markup :=
  match base with
  | some base => here.fragment base f
  | none => pure [.text f.display]

end Here

/-- The anchor of a declaration, if it has one. -/
def Identifier.anchorOrNote (id : Identifier) : Noted (Option String) :=
  .orElse (id.anchor.map some) (.anchor id) none

/-- The anchor of a row of a table, if it has one. -/
def Identifier.rowAnchorOrNote (id : Identifier) : Noted (Option String) :=
  .orElse (id.anchor.map some) (.row id) none

end DocSite
