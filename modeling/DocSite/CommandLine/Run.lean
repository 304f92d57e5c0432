import DocSite.Build.Listing
import DocSite.Build.Site
import DocSite.CommandLine.Arguments
import DocSite.Config

/-!
# Running a command line

A command line is run on a file tree.  What comes out is the text for standard output, the exit
code, the complaint if there is one, and the files that were written.
-/

namespace DocSite.CommandLine

/-- The version that the program reports. -/
def versionText : String := "mldoc 0.1.0"

/-- How the program is called. -/
def usage : String :=
  "\n".intercalate
    ["Documentation site generator for module interfaces",
      "",
      "Usage: mldoc [-v] build [OPTIONS] INPUT...",
      "       mldoc [-v] tree [OPTIONS] INPUT...",
      "",
      "Options:",
      "      --config FILE       Configuration file",
      "      --open-details      Expand includes that carry neither @open nor @closed",
      "      --semantic-uris     Link to directories instead of index.html files",
      "      --package ROOT=PKG  Assign a root module to a package (repeatable)",
      "  -o, --output DIR        Output directory of build [default: _html]",
      ""]

/-- The directory that a site goes to unless another is named. -/
def defaultOutput : FilePath := ⟨"_html"⟩

/-- Why a command failed. -/
inductive Failure where
  | configUnread (file : FilePath)
  | configInvalid (file : FilePath)
  | assignment (error : AssignmentError)
  | build (error : BuildError)
  | unitsFailed (count : Nat)

def Failure.message : Failure → String
  | configUnread file => "failed to read config file " ++ file.text
  | configInvalid file => "invalid config file " ++ file.text
  | assignment e => e.message
  | build e => e.message
  | unitsFailed n => toString n ++ " units failed to render"

/-- What became of a command line. -/
structure Outcome where
  exitCode : UInt8 := 0
  output : String := ""
  complaint : Option String := none
  written : List (FilePath × String) := []
  tree : FileTree

namespace Outcome

/-- The command failed: the exit code and the complaint say so. -/
def fail (o : Outcome) (failure : Failure) : Outcome :=
  { o with exitCode := 1, complaint := some ("Error: " ++ failure.message) }

/-- The command did its work but had to leave some units out. -/
def unlessFailed (o : Outcome) (failed : Nat) : Outcome :=
  if failed = 0 then o else o.fail (.unitsFailed failed)

end Outcome

/-- The configuration file, if one is named. -/
def loadConfig (t : FileTree) : Option FilePath → Except Failure Config
  | none => .ok {}
  | some file =>
    match t.read? file with
    | none => .error (.configUnread file)
    | some text =>
      match Config.parse? text with
      | none => .error (.configInvalid file)
      | some config => .ok config

/-- The job that some options describe.  Options add to what the configuration file says. -/
def Options.job (o : Options) (t : FileTree) : Except Failure Job :=
  match loadConfig t o.config with
  | .error e => .error e
  | .ok config =>
    match config.assignAll o.packages with
    | (_, some e) => .error (.assignment e)
    | (config, none) =>
      let settings := config.settings
      .ok { inputs := o.inputs
            output := o.output.getD defaultOutput
            settings :=
              { settings with
                defaultOpen := settings.defaultOpen || o.openDetails
                semanticUris := settings.semanticUris || o.semanticUris } }

def runBuild (job : Job) (t : FileTree) : Outcome :=
  let report := job.build t
  let outcome : Outcome := { written := report.written, tree := report.tree }
  match report.result with
  | .error e => outcome.fail (.build e)
  | .ok summary => outcome.unlessFailed summary.failed

def runTree (job : Job) (t : FileTree) : Outcome :=
  match job.list t with
  | .error e => { tree := t : Outcome }.fail (.build (.notFound e))
  | .ok listing => { output := listing.text, tree := t : Outcome }.unlessFailed listing.failed

/-- Runs what was asked for. -/
def Invocation.run (i : Invocation) (t : FileTree) : Outcome :=
  match i.options.job t with
  | .error e => { tree := t : Outcome }.fail e
  | .ok job =>
    match i.command with
    | .build => runBuild job t
    | .tree => runTree job t

/-- Runs a command line. -/
def run (args : List String) (t : FileTree) : Outcome :=
  match parse args with
  | .ok invocation => invocation.run t
  | .error .version => { output := versionText ++ "\n", tree := t }
  | .error .help => { output := usage, tree := t }
  | .error .mistake => { exitCode := 2, complaint := some usage, tree := t }

end DocSite.CommandLine
