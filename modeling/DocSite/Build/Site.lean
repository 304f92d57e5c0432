import DocSite.Build.Basic

/-!
# Building a site

The interface files of a job are taken one after another.  A file that cannot be loaded or rendered
is counted and left out.  The pages of the others are written as soon as they are made; if one of
them cannot be written, the build stops there, and what has been written stays.
-/

namespace DocSite

/-- What a build has done. -/
structure BuildTotals where
  units : Nat := 0
  pages : Nat := 0
  warnings : Nat := 0
  failed : Nat := 0
  deriving DecidableEq

namespace BuildTotals

/-- One more unit, with the number of its pages that were written. -/
def addUnit (s : BuildTotals) (unit : Root.Rendered) (pages : Nat) : BuildTotals :=
  { s with
    units := s.units + 1
    pages := s.pages + pages
    warnings := s.warnings + unit.warnings.length }

def addFailure (s : BuildTotals) : BuildTotals := { s with failed := s.failed + 1 }

end BuildTotals

/-- Why a build stopped. -/
inductive BuildError where
  | notFound (error : InputNotFound)
  | notWritten (file : String)
  deriving DecidableEq

def BuildError.message : BuildError → String
  | notFound e => e.message
  | notWritten file => "failed to write " ++ file

/-- How a build ended: its result, the files it wrote, in order, and the tree afterwards. -/
structure BuildReport where
  result : Except BuildError BuildTotals
  written : List (FilePath × String)
  tree : FileTree

/-- The build of the files that are left, after what `done` says. -/
def Job.buildFiles (job : Job) (done : BuildTotals) (t : FileTree) :
    List FilePath → BuildReport
  | [] => ⟨.ok done, [], t⟩
  | file :: rest =>
    match t.renderFile job.settings file with
    | .error _ => job.buildFiles done.addFailure t rest
    | .ok unit =>
      let stored := unit.page.store t job.output
      match stored.count with
      | some pages =>
        let after := job.buildFiles (done.addUnit unit pages) stored.tree rest
        { after with written := stored.written ++ after.written }
      | none => ⟨.error (.notWritten unit.page.file), stored.written, stored.tree⟩

/-- Builds the site of a job. -/
def Job.build (job : Job) (t : FileTree) : BuildReport :=
  match t.interfaceFiles job.inputs with
  | .error e => ⟨.error (.notFound e), [], t⟩
  | .ok files => job.buildFiles {} t files

end DocSite
