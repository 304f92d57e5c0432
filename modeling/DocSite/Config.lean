import DocSite.Site.Link
import DocSite.Toml.Reader

/-!
# Configuration

A configuration file says how includes are shown, which form links take, and which package each root
belongs to.  Everything in it may be left out, and what is not known is passed over.  Assignments of
packages given elsewhere are added afterwards, one at a time, and replace those of the file.
-/

namespace DocSite

structure Config where
  defaultOpen : Bool := false
  semanticUris : Bool := false
  packages : Packages := {}
  deriving DecidableEq

/-- Text that should have assigned a package to a root. -/
structure AssignmentError where
  text : String
  deriving DecidableEq

def AssignmentError.message (e : AssignmentError) : String :=
  "expected ROOT=PKG, got `" ++ e.text ++ "`"

namespace Config

/-! ## Configuration files -/

/-- A switch that may be missing. -/
def switch? : Option Toml.Value → Option Bool
  | none => some false
  | some (.boolean b) => some b
  | some _ => none

/-- The two switches of the rendering section, which may also be listed in order. -/
def switches? : Option Toml.Value → Option (Bool × Bool)
  | none => some (false, false)
  | some v =>
    match v.members?, v.items? with
    | some ms, _ => do
      return (← switch? (ms.lookup "default_open"), ← switch? (ms.lookup "semantic_uris"))
    | none, some items => do return (← switch? items[0]?, ← switch? items[1]?)
    | none, none => none

def packageEntry? : String × Toml.Value → Option (String × String)
  | (root, .string package) => some (root, package)
  | _ => none

def packages? : Option Toml.Value → Option Packages
  | none => some {}
  | some v => v.members?.bind fun ms => (ms.mapM packageEntry?).map .ofList

/-- The configuration that a document holds. -/
def ofDocument? (ms : Toml.Members) : Option Config := do
  let (defaultOpen, semanticUris) ← switches? (ms.lookup "render")
  return { defaultOpen, semanticUris, packages := ← packages? (ms.lookup "packages") }

/-- The configuration that a text holds. -/
def parse? (text : String) : Option Config := (Toml.parse text).bind ofDocument?

/-! ## Assignments -/

/-- The root and the package of an assignment: what stands before its first equals sign and what
stands after it.  Neither may be empty. -/
def assignment? (text : String) : Option (String × String) :=
  let root := text.toList.takeWhile (· ≠ '=')
  match text.toList.dropWhile (· ≠ '=') with
  | _ :: c :: package =>
    if root.isEmpty then none else some (String.ofList root, String.ofList (c :: package))
  | _ => none

def assign (config : Config) (root package : String) : Config :=
  { config with packages := config.packages.insert root package }

/-- Adds assignments up to the first that is none.  Those before it stay. -/
def assignAll (config : Config) : List String → Config × Option AssignmentError
  | [] => (config, none)
  | text :: rest =>
    match assignment? text with
    | none => (config, some ⟨text⟩)
    | some (root, package) => (config.assign root package).assignAll rest

/-- How a configuration has pages rendered. -/
def settings (config : Config) : Settings :=
  { packages := config.packages
    semanticUris := config.semanticUris
    defaultOpen := config.defaultOpen }

end Config

end DocSite
