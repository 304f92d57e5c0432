import DocSite.Files.Path

/-!
# Command lines

A command line names a command, its inputs and its options, in any order after the command.  It is
read from left to right, and the first thing that settles the matter does: a mistake, or a request
for help or for the version.  Whether anything is missing is asked only at the end.
-/

namespace DocSite.CommandLine

inductive Command where
  | build
  | tree
  deriving DecidableEq

/-- Why a command line runs no command. -/
inductive Refusal where
  | mistake
  | help
  | version
  deriving DecidableEq

/-- What was asked for. -/
structure Options where
  inputs : List FilePath := []
  config : Option FilePath := none
  output : Option FilePath := none
  openDetails : Bool := false
  semanticUris : Bool := false
  packages : List String := []

structure Invocation where
  verbose : Bool
  command : Command
  options : Options

/-! ## Arguments -/

/-- An argument by its form. -/
inductive Argument where
  /-- Two dashes alone: everything after them is an input. -/
  | separator
  | long (name : String) (value : Option String)
  | short (letters : List Char)
  | word (text : String)

/-- The name before the first equals sign, and what follows it. -/
def splitValue (cs : List Char) : String × Option String :=
  let name := String.ofList (cs.takeWhile (· ≠ '='))
  match cs.dropWhile (· ≠ '=') with
  | [] => (name, none)
  | _ :: value => (name, some (String.ofList value))

/-- The form of an argument.  A dash alone is a word. -/
def Argument.ofString (s : String) : Argument :=
  match s.toList with
  | ['-', '-'] => separator
  | '-' :: '-' :: cs => long (splitValue cs).1 (splitValue cs).2
  | '-' :: c :: cs => short (c :: cs)
  | _ => word s

/-! ## Options of a command -/

/-- The options that take a value. -/
inductive Setting where
  | config
  | output
  | package
  deriving DecidableEq

namespace Options

/-- Sets an option with a value.  Only packages may be given more than once. -/
def set (o : Options) (setting : Setting) (value : String) : Except Refusal Options :=
  match setting with
  | .config => if o.config.isSome then .error .mistake else .ok { o with config := some ⟨value⟩ }
  | .output => if o.output.isSome then .error .mistake else .ok { o with output := some ⟨value⟩ }
  | .package => .ok { o with packages := o.packages ++ [value] }

def addInput (o : Options) (input : String) : Options := { o with inputs := o.inputs ++ [⟨input⟩] }

def addInputs (o : Options) (inputs : List String) : Options :=
  { o with inputs := o.inputs ++ inputs.map FilePath.mk }

end Options

/-- What an argument of a command asks for. -/
inductive Step where
  | done (options : Options)
  /-- The next argument is the value of an option. -/
  | awaits (setting : Setting)
  /-- All further arguments are inputs. -/
  | inputsOnly

/-- Sets an option whose value stands in the same argument, or waits for it. -/
def setOrAwait (o : Options) (setting : Setting) : Option String → Except Refusal Step
  | some value => (o.set setting value).map .done
  | none => .ok (.awaits setting)

/-- An option by its name. -/
def readLong (command : Command) (o : Options) (name : String) (value : Option String) :
    Except Refusal Step :=
  match name, value with
  | "config", value => setOrAwait o .config value
  | "package", value => setOrAwait o .package value
  | "output", value => if command = .build then setOrAwait o .output value else .error .mistake
  | "open-details", none =>
    if o.openDetails then .error .mistake else .ok (.done { o with openDetails := true })
  | "semantic-uris", none =>
    if o.semanticUris then .error .mistake else .ok (.done { o with semanticUris := true })
  | "help", none => .error .help
  | _, _ => .error .mistake

/-- An option by its letter; the value may follow at once, with or without an equals sign. -/
def readShort (command : Command) (o : Options) : List Char → Except Refusal Step
  | 'h' :: _ => .error .help
  | 'o' :: rest =>
    if command = .build then
      match rest with
      | [] => setOrAwait o .output none
      | '=' :: value => setOrAwait o .output (some (String.ofList value))
      | value => setOrAwait o .output (some (String.ofList value))
    else .error .mistake
  | _ => .error .mistake

def readArgument (command : Command) (o : Options) (s : String) : Except Refusal Step :=
  match Argument.ofString s with
  | .separator => .ok .inputsOnly
  | .long name value => readLong command o name value
  | .short letters => readShort command o letters
  | .word text => .ok (.done (o.addInput text))

/-- The arguments of a command, after those already read. -/
def readOptions (command : Command) (o : Options) : List String → Except Refusal Options
  | [] => .ok o
  | s :: rest =>
    match readArgument command o s with
    | .error e => .error e
    | .ok (.done o') => readOptions command o' rest
    | .ok .inputsOnly => .ok (o.addInputs rest)
    | .ok (.awaits setting) =>
      match rest with
      | [] => .error .mistake
      | value :: rest' =>
        match Argument.ofString value with
        | .word text =>
          match o.set setting text with
          | .error e => .error e
          | .ok o' => readOptions command o' rest'
        | _ => .error .mistake

/-- A command with its arguments; there has to be an input. -/
def readCommand (verbose : Bool) (command : Command) (args : List String) :
    Except Refusal Invocation :=
  match readOptions command {} args with
  | .error e => .error e
  | .ok options =>
    if options.inputs.isEmpty then .error .mistake else .ok ⟨verbose, command, options⟩

/-! ## The whole command line -/

/-- The letters that may stand before the command. -/
def readLetters : Bool → List Char → Except Refusal Bool
  | verbose, [] => .ok verbose
  | verbose, 'v' :: rest => if verbose then .error .mistake else readLetters true rest
  | _, 'V' :: _ => .error .version
  | _, 'h' :: _ => .error .help
  | _, _ => .error .mistake

/-- The question for help on a command, or on none. -/
def readHelp : List String → Refusal
  | [] => .help
  | [name] => if name = "build" ∨ name = "tree" ∨ name = "help" then .help else .mistake
  | _ => .mistake

def readFrom (verbose : Bool) : List String → Except Refusal Invocation
  | [] => .error .mistake
  | s :: rest =>
    match Argument.ofString s with
    | .word "build" => readCommand verbose .build rest
    | .word "tree" => readCommand verbose .tree rest
    | .word "help" => .error (readHelp rest)
    | .long "verbose" none => if verbose then .error .mistake else readFrom true rest
    | .long "version" none => .error .version
    | .long "help" none => .error .help
    | .short letters =>
      match readLetters verbose letters with
      | .error e => .error e
      | .ok verbose' => readFrom verbose' rest
    | _ => .error .mistake

/-- What a command line asks for. -/
def parse (args : List String) : Except Refusal Invocation := readFrom false args

end DocSite.CommandLine
